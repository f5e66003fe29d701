import Terminal.Completion
import Terminal.Proofs.Files.Names
import Terminal.Proofs.Path.Head

namespace Terminal

theorem Tree.list_of_not_isDir {t : Tree} {path : String} (h : t.isDir path = false) : t.list path = [] := by
  rw [Tree.isDir] at h
  rw [Tree.list]
  cases hget : t.get? path with
  | none => rfl
  | some node =>
      cases node with
      | file doc => rfl
      | dir stamp below => simp [hget, Node.isDir] at h

namespace Completion

open Terminal.Path

section Lookup

variable {head : String}

theorem split_lookupPath (h : head ≠ "") : split (lookupPath head) = split head := by
  have hsplit := split_dropSlashes head
  rw [lookupPath]
  split
  · exact hsplit
  · rename_i hbare
    rw [not_not.1 hbare] at hsplit
    rw [← hsplit]
    rfl

theorem startsWith_lookupPath (hne : head ≠ "") :
    Text.startsWith (lookupPath head) "/" = Text.startsWith head "/" := by
  obtain ⟨rest, hrest⟩ := Text.dropRightWhile_prefix (p := (· == '/')) head.toList
  rw [lookupPath]
  split
  · rename_i hbare
    have hhead : head = .ofList (Text.dropRightWhile (· == '/') head.toList) ++ .ofList rest :=
      String.toList_inj.1 (by simpa using hrest.symm)
    conv_rhs => rw [hhead]
    exact (startsWith_append hbare _).symm
  · rename_i hbare
    have hslashes : ∀ c ∈ head.toList, (c == '/') = true :=
      (Text.dropRightWhile_eq_nil_iff head.toList).1 (by simpa using hbare)
    obtain ⟨c, cs, hhead⟩ := List.exists_cons_of_ne_nil fun hnil => hne (String.toList_inj.1 hnil)
    have hc : c = '/' := by simpa using hslashes c (by simp [hhead])
    simp [Text.startsWith, hhead, hc]

theorem split_resolve_lookupPath {cwd : String} (hcwd : Canonical cwd) :
    split (resolve cwd (lookupPath head)) = split (resolve cwd head) := by
  by_cases hne : head = ""
  · subst hne
    rfl
  · exact split_resolve_congr hcwd (startsWith_lookupPath hne) (split_lookupPath hne)

end Lookup

def entryNames (src : Source) (typed : String) : List String :=
  (src.files.list (resolve src.cwd (lookupPath (cutLast typed).1))).filter fun name =>
    Text.startsWith name (cutLast typed).2

theorem pathCandidates_eq (src : Source) (typed : String) :
    pathCandidates src typed = (entryNames src typed).map fun name =>
      ⟨(cutLast typed).1 ++ name,
        src.files.isDir (resolve (resolve src.cwd (lookupPath (cutLast typed).1)) name)⟩ := by
  rw [pathCandidates, entryNames]
  dsimp only
  split
  · rfl
  · rename_i hdir
    rw [Tree.list_of_not_isDir (by simpa using hdir)]
    rfl

theorem text_eq (c : PathCandidate) : c.text = c.path ++ if c.isDir then "/" else "" := by
  rw [PathCandidate.text]
  split
  · rfl
  · exact String.append_empty.symm

section Candidates

variable {src : Source} {head base : String}

theorem mem_pathCandidates (hhead : IsHead head) (hbase : '/' ∉ base.toList) (s : String) :
    s ∈ (pathCandidates src (head ++ base)).map PathCandidate.text ↔
      ∃ name ∈ src.files.list (resolve src.cwd (lookupPath head)), base.toList <+: name.toList ∧
        s = head ++ name ++
          if src.files.isDir (resolve (resolve src.cwd (lookupPath head)) name) then "/" else "" := by
  rw [pathCandidates_eq, entryNames, cutLast_append hhead hbase, List.map_map]
  constructor
  · intro hs
    obtain ⟨name, hname, rfl⟩ := List.mem_map.1 hs
    obtain ⟨hlist, hstart⟩ := List.mem_filter.1 hname
    exact ⟨name, hlist, List.isPrefixOf_iff_prefix.1 hstart, text_eq _⟩
  · rintro ⟨name, hlist, hstart, rfl⟩
    exact List.mem_map.2 ⟨name, List.mem_filter.2 ⟨hlist, List.isPrefixOf_iff_prefix.2 hstart⟩, text_eq _⟩

theorem candidates_of_later {line text : String} {earlier : List String} (hearlier : earlier ≠ [])
    (hwords : Text.words line = earlier ++ [text]) :
    candidates src text line = (pathCandidates src text).map PathCandidate.text := by
  have hlater : (Text.words line).isEmpty = false ∧ (Text.words line).length ≠ 1 := by
    obtain ⟨first, rest, rfl⟩ := List.exists_cons_of_ne_nil hearlier
    simp [hwords]
  simp [candidates, hlater]

theorem mem_list_lookupPath (hcwd : Canonical src.cwd) (hhead : IsHead head) {name : String}
    (hname : IsComponent name) :
    name ∈ src.files.list (resolve src.cwd (lookupPath head)) ↔
      src.files.exists? (resolve src.cwd (head ++ name)) = true := by
  rw [Tree.mem_list, Tree.exists?_eq, split_resolve_append hcwd hhead hname, split_resolve_lookupPath hcwd]

theorem isDir_lookupPath (hplain : ∀ q, (src.files.item? q).isSome → ∀ part ∈ q, IsPlain part)
    (hcwd : Canonical src.cwd) (hhead : IsHead head) {name : String} (hname : IsComponent name)
    (hlist : name ∈ src.files.list (resolve src.cwd (lookupPath head))) :
    src.files.isDir (resolve (resolve src.cwd (lookupPath head)) name) =
      src.files.isDir (resolve src.cwd (head ++ name)) := by
  have hitem := (Tree.mem_list src.files _ name).1 hlist
  have hdots : ∀ part ∈ split (resolve src.cwd (lookupPath head)), IsPlain part := by
    intro part hpart
    exact hplain _ hitem part (List.mem_append_left _ hpart)
  have hsplit : split (resolve (resolve src.cwd (lookupPath head)) name) = split (resolve src.cwd (head ++ name)) := by
    rw [split_resolve_name hdots hname, split_resolve_lookupPath hcwd, split_resolve_append hcwd hhead hname]
  rw [Tree.isDir, Tree.isDir, Tree.get?, Tree.get?, hsplit]

theorem isComponent_of_mem_list (hfiles : src.files.Grown)
    (hplain : ∀ q, (src.files.item? q).isSome → ∀ part ∈ q, IsPlain part) {dir name : String}
    (h : name ∈ src.files.list dir) : IsComponent name := by
  have hitem := (Tree.mem_list src.files dir name).1 h
  have hlast : name ∈ split dir ++ [name] := List.mem_append_right _ (List.mem_singleton.2 rfl)
  exact isComponent_iff.2 ⟨hfiles.named _ hitem name hlast, hplain _ hitem name hlast⟩

/-- The candidates for a word after the first are the completions of it that name something, with a slash after the
directories. -/
theorem mem_candidates_iff (hfiles : src.files.Grown)
    (hplain : ∀ q, (src.files.item? q).isSome → ∀ part ∈ q, IsPlain part) (hcwd : Canonical src.cwd) {line : String}
    {earlier : List String} (hearlier : earlier ≠ []) (hwords : Text.words line = earlier ++ [head ++ base])
    (hhead : IsHead head) (hbase : '/' ∉ base.toList) (s : String) :
    s ∈ candidates src (head ++ base) line ↔ ∃ name, IsComponent name ∧
      (head ++ base).toList <+: (head ++ name).toList ∧
      src.files.exists? (resolve src.cwd (head ++ name)) = true ∧
      s = head ++ name ++ if src.files.isDir (resolve src.cwd (head ++ name)) then "/" else "" := by
  rw [candidates_of_later hearlier hwords, mem_pathCandidates hhead hbase]
  refine exists_congr fun name => ?_
  rw [String.toList_append, String.toList_append, List.prefix_append_right_inj]
  constructor
  · rintro ⟨hlist, hstart, rfl⟩
    have hname := isComponent_of_mem_list hfiles hplain hlist
    refine ⟨hname, hstart, (mem_list_lookupPath hcwd hhead hname).1 hlist, ?_⟩
    rw [isDir_lookupPath hplain hcwd hhead hname hlist]
  · rintro ⟨hname, hstart, hexists, rfl⟩
    have hlist := (mem_list_lookupPath hcwd hhead hname).2 hexists
    refine ⟨hlist, hstart, ?_⟩
    rw [isDir_lookupPath hplain hcwd hhead hname hlist]

theorem candidates_above : (Tree.seeded 0).Grown ∧ Canonical "/home/guest" ∧
    Text.words "cat a \t..\\..//pro" = ["cat", "a", "..\\..//pro"] ∧
    "..\\..//projects/" ∈ candidates ⟨[], Tree.seeded 0, "/home/guest"⟩ "..\\..//pro" "cat a \t..\\..//pro" ∧
    (Tree.seeded 0).exists? (resolve "/home/guest" "..\\..//projects") = true := by
  have hfiles : (Tree.seeded 0).Grown := (Tree.Reachable.seeded 0).grown
  have hpaths : ∀ q ∈ [] :: (Tree.seeded 0).entries.paths [], ∀ part ∈ q, IsPlain part := by decide +kernel
  have hplain (q : List String) (hq : ((Tree.seeded 0).item? q).isSome) : ∀ part ∈ q, IsPlain part :=
    hpaths q (Tree.mem_paths hq)
  have hcwd : Canonical "/home/guest" :=
    ⟨["home", "guest"], by simp [isComponent_iff, IsName]; decide, by decide +kernel⟩
  have hwords : Text.words "cat a \t..\\..//pro" = ["cat", "a"] ++ ["..\\..//" ++ "pro"] := by decide +kernel
  have hhead : IsHead "..\\..//" := .inr ⟨"..\\../", by decide +kernel⟩
  have hexists : (Tree.seeded 0).exists? (resolve "/home/guest" ("..\\..//" ++ "projects")) = true := by
    decide +kernel
  have hfound := (@mem_candidates_iff ⟨[], Tree.seeded 0, "/home/guest"⟩ _ _ hfiles hplain hcwd _ _ (by simp) hwords
    hhead (by decide) "..\\..//projects/").2
      ⟨"projects", by simp [isComponent_iff, IsName]; decide, by decide, hexists, by decide +kernel⟩
  exact ⟨hfiles, hcwd, hwords, hfound, hexists⟩

end Candidates

end Completion

end Terminal
