import Terminal.Proofs.Commands.Catalogue
import Terminal.Proofs.Completion.Mode
import Terminal.Proofs.Session.Stray

namespace Terminal

theorem Text.append_lt_append_iff {a b : List Char} (h : a < b) (m m' : List Char) :
    a ++ m < b ++ m' ↔ ∀ x xs, b = a ++ x :: xs → m < x :: xs ++ m' := by
  induction a generalizing b with
  | nil =>
      cases b with
      | nil => cases h
      | cons y ys => simp
  | cons x a ih =>
      cases b with
      | nil => cases h
      | cons y b =>
          rw [List.cons_append, List.cons_append, List.cons_lt_cons_iff]
          rcases List.cons_lt_cons_iff.1 h with hxy | ⟨rfl, hrest⟩
          · have hne : x ≠ y := fun he => absurd (he ▸ hxy) (lt_irrefl y)
            exact iff_of_true (.inl hxy) fun z zs he => absurd (List.cons.inj he).1.symm hne
          · have hrest' := ih hrest
            simp only [lt_irrefl, false_or, true_and, hrest', List.cons_append, List.cons.injEq]

namespace PathCandidate

/-- The slash after the one puts it behind the other, whose path goes on with an earlier character. -/
def Trails (c d : PathCandidate) : Prop :=
  c.isDir = true ∧ ∃ x xs, d.path.toList = c.path.toList ++ x :: xs ∧ x < '/'

variable {c d : PathCandidate}

def mark (c : PathCandidate) : List Char := if c.isDir then ['/'] else []

theorem toList_text (c : PathCandidate) : c.text.toList = c.path.toList ++ c.mark := by
  rw [text, mark]
  split <;> simp

theorem mark_lt_iff {x : Char} (hx : x ≠ '/') (xs : List Char) : c.mark < x :: xs ↔ ¬ (c.isDir = true ∧ x < '/') := by
  rw [mark]
  split
  · rename_i hdir
    rw [List.cons_lt_cons_iff]
    constructor
    · rintro (hlt | ⟨he, -⟩)
      · exact fun h => lt_asymm hlt h.2
      · exact absurd he.symm hx
    · intro h
      have hle : '/' ≤ x := not_lt.1 fun hlt => h ⟨hdir, hlt⟩
      exact .inl (lt_of_le_of_ne hle hx.symm)
  · rename_i hfile
    exact iff_of_true (List.nil_lt_cons _ _) fun h => hfile h.1

theorem text_lt_iff (h : c.path < d.path) (hbeside : ∀ xs, d.path.toList ≠ c.path.toList ++ '/' :: xs) :
    c.text < d.text ↔ ¬ c.Trails d := by
  rw [String.lt_iff_toList_lt, toList_text, toList_text,
    Text.append_lt_append_iff (String.lt_iff_toList_lt.1 h) c.mark d.mark]
  have hne {x : Char} {xs : List Char} (he : d.path.toList = c.path.toList ++ x :: xs) : x ≠ '/' := by
    rintro rfl
    exact hbeside xs he
  constructor
  · rintro hall ⟨hdir, x, xs, he, hx⟩
    exact (mark_lt_iff (hne he) _).1 (hall x xs he) ⟨hdir, hx⟩
  · intro htrails x xs he
    exact (mark_lt_iff (hne he) _).2 fun ⟨hdir, hx⟩ => htrails ⟨hdir, x, xs, he, hx⟩

theorem Trails.path_lt (h : c.Trails d) : c.path < d.path := by
  obtain ⟨-, x, xs, he, -⟩ := h
  have hlt : c.path.toList ++ [] < c.path.toList ++ x :: xs := List.append_left_lt (List.nil_lt_cons x xs)
  rw [String.lt_iff_toList_lt, he]
  rwa [List.append_nil] at hlt

theorem text_ne (h : c.path < d.path) (hcd : ∀ xs, d.path.toList ≠ c.path.toList ++ '/' :: xs)
    (hdc : ∀ xs, c.path.toList ≠ d.path.toList ++ '/' :: xs) : c.text ≠ d.text := by
  intro he
  have hlist := congrArg String.toList he
  rw [toList_text, toList_text, mark, mark] at hlist
  have hpaths : c.path.toList ≠ d.path.toList := fun hp => String.lt_irrefl d.path (String.toList_inj.1 hp ▸ h)
  cases hc : c.isDir <;> cases hd : d.isDir <;> simp only [hc, hd, Bool.false_eq_true, if_false, if_true] at hlist
  · exact hpaths (by simpa using hlist)
  · exact hdc [] (by simpa using hlist)
  · exact hcd [] (by simpa using hlist.symm)
  · exact hpaths (List.append_cancel_right hlist)

theorem rel_of_path_lt {R : PathCandidate → PathCandidate → Prop} {found : List PathCandidate}
    (hpaths : (found.map path).Pairwise (· < ·)) (h : found.Pairwise R) (hc : c ∈ found) (hd : d ∈ found)
    (hlt : c.path < d.path) : R c d := by
  rw [List.pairwise_map, List.pairwise_iff_getElem] at hpaths
  obtain ⟨i, hi, rfl⟩ := List.getElem_of_mem hc
  obtain ⟨j, hj, rfl⟩ := List.getElem_of_mem hd
  rcases Nat.lt_trichotomy i j with hij | rfl | hji
  · exact List.pairwise_iff_getElem.1 h i j hi hj hij
  · exact absurd hlt (String.lt_irrefl _)
  · exact absurd (hpaths j i hj hi hji) (String.lt_asymm hlt)

structure InOrder (found : List PathCandidate) : Prop where
  paths : (found.map path).Pairwise (· < ·)
  beside : ∀ c ∈ found, ∀ d ∈ found, ∀ xs, d.path.toList ≠ c.path.toList ++ '/' :: xs

namespace InOrder

variable {found : List PathCandidate} (h : InOrder found)
include h

theorem nodup_texts : (found.map text).Nodup := by
  refine List.pairwise_map.2 ((List.pairwise_map.1 h.paths).imp_of_mem ?_)
  intro c d hc hd hlt
  exact text_ne hlt (h.beside c hc d hd) (h.beside d hd c hc)

theorem pairwise_texts_iff :
    (found.map text).Pairwise (· < ·) ↔ ∀ c ∈ found, ∀ d ∈ found, ¬ c.Trails d := by
  have hpaths := List.pairwise_map.1 h.paths
  rw [List.pairwise_map]
  constructor
  · intro htexts c hc d hd htrails
    have hlt := rel_of_path_lt h.paths htexts hc hd htrails.path_lt
    exact (text_lt_iff htrails.path_lt (h.beside c hc d hd)).1 hlt htrails
  · intro hnone
    refine hpaths.imp_of_mem fun {c d} hc hd hlt => ?_
    exact (text_lt_iff hlt (h.beside c hc d hd)).2 (hnone c hc d hd)

end InOrder

end PathCandidate

namespace Completion

variable {src : Source}

theorem isName_of_mem_entryNames (hfiles : src.files.Grown) {typed name : String} (h : name ∈ entryNames src typed) :
    Path.IsName name := by
  have hitem := (Tree.mem_list src.files _ name).1 (List.mem_of_mem_filter h)
  exact hfiles.named _ hitem name (List.mem_append_right _ (List.mem_singleton.2 rfl))

theorem inOrder_pathCandidates (hfiles : src.files.Grown) (typed : String) :
    PathCandidate.InOrder (pathCandidates src typed) := by
  have hnames : (entryNames src typed).Pairwise (· < ·) := (hfiles.ordered.pairwise_list _).filter _
  rw [pathCandidates_eq]
  constructor
  · rw [List.map_map, List.pairwise_map]
    refine hnames.imp fun {a b} hlt => ?_
    rw [Function.comp, Function.comp, String.lt_iff_toList_lt, String.toList_append, String.toList_append]
    exact List.append_left_lt (String.lt_iff_toList_lt.1 hlt)
  · intro c hc d hd xs he
    obtain ⟨a, -, rfl⟩ := List.mem_map.1 hc
    obtain ⟨b, hb, rfl⟩ := List.mem_map.1 hd
    rw [String.toList_append, String.toList_append, List.append_assoc, List.append_cancel_left_eq] at he
    have hslash := (isName_of_mem_entryNames hfiles hb).2 '/' (by simp [he])
    exact absurd hslash (by decide)

theorem drawsCommands_or_drawsPaths (text line : String) : DrawsCommands text line ∨ DrawsPaths text line := by
  by_cases hmode : ((Text.words line).isEmpty ||
      ((Text.words line).length == 1 && line.toList.getLast? != some ' ')) = true
  · exact .inl fun src => if_pos hmode
  · exact .inr fun src => if_neg hmode

theorem pairwise_commandCandidates {registry : Registry} (h : registry.Built) (files : Tree) (cwd start : String) :
    (commandCandidates ⟨registry.names, files, cwd⟩ start).Pairwise (· < ·) :=
  h.pairwise_names.filter _

/-- The candidates are all different, and those for a path stand in the order of their paths. They stand in their own
order unless they are drawn from paths and one of them is a directory that trails another. -/
theorem candidates_ordered_iff {s : Session} (hregistry : s.registry.Built) (hfiles : s.files.Grown)
    (text line : String) :
    (candidates s.source text line).Nodup ∧
    ((pathCandidates s.source text).map PathCandidate.path).Pairwise (· < ·) ∧
    ((candidates s.source text line).Pairwise (· < ·) ↔
      (DrawsPaths text line → ∀ c ∈ pathCandidates s.source text, ∀ d ∈ pathCandidates s.source text, ¬ c.Trails d)) := by
  have hpaths : PathCandidate.InOrder (pathCandidates s.source text) := inOrder_pathCandidates hfiles text
  rcases drawsCommands_or_drawsPaths text line with hdraws | hdraws
  · have hordered := pairwise_commandCandidates hregistry s.files s.cwd text
    rw [hdraws]
    exact ⟨Forest.nodup_of_pairwise hordered, hpaths.paths,
      iff_of_true hordered fun hboth => absurd hdraws hboth.not_drawsCommands⟩
  · rw [hdraws]
    exact ⟨hpaths.nodup_texts, hpaths.paths, hpaths.pairwise_texts_iff.trans ⟨fun h _ => h, fun h => h hdraws⟩⟩

def shelved : Session := .after ["mkdir notes", "mkdir notes2", "touch notes.txt"]

theorem registry_after (lines : List String) : (Session.after lines).registry = .builtin := by
  have hfold (s : Session) : (lines.foldl (fun s line => (s.submit line).2) s).registry = s.registry := by
    induction lines generalizing s with
    | nil => rfl
    | cons line lines ih => exact (ih _).trans (Session.registry_submit line s)
  exact hfold _

theorem built_shelved : shelved.registry.Built := by
  rw [shelved, registry_after]
  exact Registry.built_builtin

theorem pathCandidates_shelved :
    pathCandidates shelved.source "n" = [⟨"notes", true⟩, ⟨"notes.txt", false⟩, ⟨"notes2", true⟩] := by
  decide +kernel

theorem shelved_ordered : (candidates shelved.source "n" "cat n").Nodup ∧
    (candidates shelved.source "notes2" "cat notes2").Pairwise (· < ·) ∧
    ¬ (candidates shelved.source "n" "cat n").Pairwise (· < ·) := by
  have hfiles : shelved.files.Grown := (Session.reachable_after _).grown
  obtain ⟨hnodup, -, hmany⟩ := candidates_ordered_iff built_shelved hfiles "n" "cat n"
  obtain ⟨-, -, hone⟩ := candidates_ordered_iff built_shelved hfiles "notes2" "cat notes2"
  have hpaths : DrawsPaths "n" "cat n" := drawsPaths_of_words _ (by decide)
  have honly : pathCandidates shelved.source "notes2" = [⟨"notes2", true⟩] := by decide +kernel
  refine ⟨hnodup, hone.2 fun _ => ?_, fun hordered => ?_⟩
  · rw [honly]
    rintro c hc d hd ⟨-, x, xs, he, -⟩
    cases List.mem_singleton.1 hc
    cases List.mem_singleton.1 hd
    simp at he
  · have htrails : PathCandidate.Trails ⟨"notes", true⟩ ⟨"notes.txt", false⟩ :=
      ⟨rfl, '.', "txt".toList, by decide, by decide⟩
    exact hmany.1 hordered hpaths _ (by simp [pathCandidates_shelved]) _ (by simp [pathCandidates_shelved]) htrails

/-- The directory comes first although its slash stands after the dot. -/
theorem notes_out_of_order : shelved.registry.Built ∧ shelved.files.Grown ∧
    candidates shelved.source "n" "cat n" = ["notes/", "notes.txt", "notes2/"] ∧
    ¬ (candidates shelved.source "n" "cat n").Pairwise (· < ·) := by
  have hpaths : DrawsPaths "n" "cat n" := drawsPaths_of_words _ (by decide)
  have hfound : candidates shelved.source "n" "cat n" = ["notes/", "notes.txt", "notes2/"] := by
    rw [hpaths, pathCandidates_shelved]
    decide +kernel
  refine ⟨built_shelved, (Session.reachable_after _).grown, hfound, ?_⟩
  rw [hfound]
  decide +kernel

end Completion

end Terminal
