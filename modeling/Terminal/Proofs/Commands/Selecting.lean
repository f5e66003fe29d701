import Terminal.Proofs.Commands.Counting

namespace Terminal

open Commands

namespace Text

theorem cutAt_append {c : Char} {a : List Char} (h : c ∉ a) (b : List Char) : cutAt c (a ++ c :: b) = some (a, b) := by
  induction a with
  | nil => simp [cutAt]
  | cons d a ih =>
      have hne : d ≠ c := (List.ne_of_not_mem_cons h).symm
      rw [List.cons_append, cutAt, if_neg hne, ih (List.not_mem_of_not_mem_cons h)]
      rfl

end Text

/-- The pattern can be read, and on these lines its search tells what `accepts` says. -/
def Pattern.Decides (source : String) (anyCase : Bool) (accepts : String → Bool) (ls : List String) : Prop :=
  ∃ pattern, Pattern.read source anyCase = .ok pattern ∧ ∀ l ∈ ls, pattern.search l = .ok (accepts l)

instance (source : String) (anyCase : Bool) (accepts : String → Bool) (ls : List String) :
    Decidable (Pattern.Decides source anyCase accepts ls) :=
  match h : Pattern.read source anyCase with
  | .ok pattern => decidable_of_iff (∀ l ∈ ls, pattern.search l = .ok (accepts l))
      ⟨fun hsearch => ⟨pattern, h, hsearch⟩, fun ⟨_, hpattern, hsearch⟩ => by
        cases h.symm.trans hpattern
        exact hsearch⟩
  | .error _ => .isFalse fun ⟨_, hpattern, _⟩ => nomatch h.symm.trans hpattern

namespace Commands

def atPlace (l : String) (place : Nat) : String := toString place ++ ":" ++ l

def withoutPlace (l : String) : String :=
  match Text.cutAt ':' l.toList with
  | some (_, rest) => .ofList rest
  | none => l

/-- The lines `out` stand for some of the lines of a file, each after its number there and in the order of the file.
Without the numbers they are `plain`. -/
structure Numbers (file plain out : List String) : Prop where
  places : ∃ places : List Nat, places.Pairwise (· < ·) ∧ List.Forall₂ (fun place line =>
    1 ≤ place ∧ ∃ l, file[place - 1]? = some l ∧ line = toString place ++ ":" ++ l) places out
  plain : out.map withoutPlace = plain

theorem withoutPlace_atPlace (l : String) (place : Nat) : withoutPlace (atPlace l place) = l := by
  have hdigits : ':' ∉ (toString place).toList := by
    intro hmem
    rw [Nat.toString_eq_repr, Nat.toList_repr] at hmem
    have hdigit : (':').isDigit = true := Nat.isDigit_of_mem_toDigits (by decide) (by decide) hmem
    exact absurd hdigit (by decide)
  have htext : (atPlace l place).toList = (toString place).toList ++ ':' :: l.toList := by
    rw [atPlace, String.toList_append, String.toList_append, List.append_assoc]
    rfl
  rw [withoutPlace, htext, Text.cutAt_append hdigits]
  exact String.ofList_toList

def hits (accepts : String → Bool) (first : Nat) (ls : List String) : List (String × Nat) :=
  (ls.zipIdx first).filter fun hit => accepts hit.1

section Hits

variable {accepts : String → Bool} {first : Nat} {ls : List String}

theorem hits_cons (l : String) :
    hits accepts first (l :: ls) =
      if accepts l then (l, first) :: hits accepts (first + 1) ls else hits accepts (first + 1) ls := by
  rw [hits, List.zipIdx_cons, List.filter_cons]
  rfl

theorem map_fst_hits (first : Nat) (ls : List String) : (hits accepts first ls).map Prod.fst = ls.filter accepts := by
  have hlines : ls.filter accepts = ((ls.zipIdx first).map Prod.fst).filter accepts := by rw [List.zipIdx_map_fst]
  rw [hlines, List.filter_map]
  rfl

theorem pairwise_places : ((hits accepts first ls).map Prod.snd).Pairwise (· < ·) := by
  have hplaces : ((ls.zipIdx first).map Prod.snd).Pairwise (· < ·) := by
    rw [List.zipIdx_map_snd]
    exact List.pairwise_lt_range' 1
  exact hplaces.sublist (List.filter_sublist.map Prod.snd)

theorem mem_hits {hit : String × Nat} (h : hit ∈ hits accepts first ls) :
    first ≤ hit.2 ∧ ls[hit.2 - first]? = some hit.1 :=
  List.mem_zipIdx_iff_le_and_getElem?_sub.1 (List.mem_filter.1 h).1

theorem hits_eq_nil_iff : hits accepts first ls = [] ↔ ∀ l ∈ ls, accepts l = false := by
  rw [← List.map_eq_nil_iff (f := Prod.fst), map_fst_hits, List.filter_eq_nil_iff]
  simp

theorem numbers_hits : Numbers ls (ls.filter accepts) ((hits accepts 1 ls).map fun hit => atPlace hit.1 hit.2) := by
  refine ⟨⟨(hits accepts 1 ls).map Prod.snd, pairwise_places, ?_⟩, ?_⟩
  · rw [List.forall₂_map_left_iff, List.forall₂_map_right_iff, List.forall₂_same]
    intro hit hmem
    obtain ⟨hle, hline⟩ := mem_hits hmem
    exact ⟨hle, hit.1, hline, rfl⟩
  · rw [← map_fst_hits 1, List.map_map]
    exact List.map_congr_left fun hit _ => withoutPlace_atPlace hit.1 hit.2

def hitText (numbers : Bool) (hit : String × Nat) : String := if numbers then atPlace hit.1 hit.2 else hit.1

variable {ε : Type} {search : String → Except ε Bool}

theorem select_eq (h : ∀ l ∈ ls, search l = .ok (accepts l)) (numbers : Bool) (first : Nat) :
    select search numbers first ls = .ok ((hits accepts first ls).map (hitText numbers)) := by
  induction ls generalizing first with
  | nil => rfl
  | cons l ls ih =>
      have hrest := ih (fun l' hl' => h l' (List.mem_cons_of_mem _ hl')) (first + 1)
      rw [select, h l (List.mem_cons_self ..), hrest, hits_cons]
      cases accepts l with
      | true => rfl
      | false => rfl

theorem matchLines_of_hit (h : ∀ l ∈ ls, search l = .ok (accepts l)) (hsome : ∃ l ∈ ls, accepts l = true)
    (numbers : Bool) : matchLines search numbers ls = .ok ((hits accepts 1 ls).map (hitText numbers)) := by
  have hne : hits accepts 1 ls ≠ [] := by
    intro hnil
    obtain ⟨l, hmem, haccepts⟩ := hsome
    exact absurd (hits_eq_nil_iff.1 hnil l hmem) (by simp [haccepts])
  obtain ⟨hit, more, hhits⟩ := List.exists_cons_of_ne_nil hne
  rw [matchLines, select_eq h, hhits]
  rfl

theorem matchLines_of_no_hit (h : ∀ l ∈ ls, search l = .ok (accepts l)) (hnone : ∀ l ∈ ls, accepts l = false)
    (numbers : Bool) : matchLines search numbers ls = .ok ["(no matches)"] := by
  rw [matchLines, select_eq h, hits_eq_nil_iff.2 hnone]
  rfl

end Hits

theorem grep_congr {source path : String} {args args' rest rest' : List String}
    (h : Arguments.positional args = source :: path :: rest)
    (h' : Arguments.positional args' = source :: path :: rest')
    (hi : Arguments.hasFlag args' 'i' = Arguments.hasFlag args 'i')
    (hn : Arguments.hasFlag args' 'n' = Arguments.hasFlag args 'n') : grep args' = grep args := by
  rw [grep, grep]
  simp only [h, h', hi, hn]

end Commands

namespace Session

variable {s : Session} {source path content : String} {args rest out : List String} {accepts : String → Bool}

theorem yields_grep {pattern : Pattern} (hargs : Arguments.positional args = source :: path :: rest)
    (hpattern : Pattern.read source (Arguments.hasFlag args 'i') = .ok pattern)
    (hread : s.files.read (Path.resolve s.cwd path) = .ok content)
    (hmatch : matchLines pattern.search (Arguments.hasFlag args 'n') (Text.lines content) = .ok out) :
    s.Yields (grep args) out := by
  refine yields_report fun prior => ?_
  simp only [hargs, hpattern]
  rw [withLines_of_read hread, hmatch]
  rfl

theorem yields_grep_unread {pattern : Pattern} {e : FileError}
    (hargs : Arguments.positional args = source :: path :: rest)
    (hpattern : Pattern.read source (Arguments.hasFlag args 'i') = .ok pattern)
    (hread : s.files.read (Path.resolve s.cwd path) = .error e) : s.Yields (grep args) ["grep: " ++ e.message] := by
  refine yields_report fun prior => ?_
  have hview : (s.view prior).read path = .error e := hread
  simp only [hargs, hpattern]
  rw [withLines, hview]
  rfl

theorem answers_grep (h : ∀ s', s.Stays s' → s'.Yields (grep args) out) : s.Answers "grep" args out := by
  have hbuiltin : ∃ c, Registry.builtin.get? "grep" = some c ∧ c.handler = grep :=
    exists_builtin (by decide +kernel) (by decide) (by simp [builtins])
  exact answers_of_yields hbuiltin h

/-- Flags may stand anywhere. What `grep` does depends on its two operands and on the letters `i` and `n` in its flags.
Where some lines of the file are accepted it prints these in their order, after their places in the file if numbers are
asked for. Where none are it says so, and a file that cannot be read is told in one line. -/
theorem grep_selects (hargs : Arguments.positional args = source :: path :: rest) :
    (∀ args' rest', Arguments.positional args' = source :: path :: rest' →
      Arguments.hasFlag args' 'i' = Arguments.hasFlag args 'i' →
      Arguments.hasFlag args' 'n' = Arguments.hasFlag args 'n' → grep args' = grep args) ∧
    (∀ content accepts, s.files.read (Path.resolve s.cwd path) = .ok content →
      Pattern.Decides source (Arguments.hasFlag args 'i') accepts (Text.lines content) →
      s.Answers "cat" [path] (Text.lines content) ∧
      ((∃ l ∈ Text.lines content, accepts l = true) →
        (Arguments.hasFlag args 'n' = false → s.Answers "grep" args ((Text.lines content).filter accepts)) ∧
        (Arguments.hasFlag args 'n' = true → ∃ out, s.Answers "grep" args out ∧
          Numbers (Text.lines content) ((Text.lines content).filter accepts) out)) ∧
      ((∀ l ∈ Text.lines content, accepts l = false) → s.Answers "grep" args ["(no matches)"])) ∧
    ∀ pattern e, Pattern.read source (Arguments.hasFlag args 'i') = .ok pattern →
      s.files.read (Path.resolve s.cwd path) = .error e → s.Answers "grep" args ["grep: " ++ e.message] := by
  refine ⟨fun args' rest' hargs' hi hn => grep_congr hargs hargs' hi hn, ?_, ?_⟩
  · rintro content accepts hread ⟨pattern, hpattern, haccepts⟩
    have hanswers (out : List String)
        (hmatch : matchLines pattern.search (Arguments.hasFlag args 'n') (Text.lines content) = .ok out) :
        s.Answers "grep" args out :=
      answers_grep fun s' hstays => yields_grep hargs hpattern (hstays.read hread) hmatch
    refine ⟨answers_cat hread [], fun hsome => ⟨fun hn => ?_, fun hn => ?_⟩, fun hnone => ?_⟩
    · have hplain := hanswers _ (matchLines_of_hit haccepts hsome _)
      rw [hn] at hplain
      rwa [← map_fst_hits 1]
    · have hnumbered := hanswers _ (matchLines_of_hit haccepts hsome _)
      rw [hn] at hnumbered
      exact ⟨_, hnumbered, numbers_hits⟩
    · exact hanswers _ (matchLines_of_no_hit haccepts hnone _)
  · intro pattern e hpattern hread
    refine answers_grep fun s' hstays => yields_grep_unread hargs hpattern ?_
    rw [hstays.files, hstays.cwd]
    exact hread

theorem todo_selected : ∃ out, (after []).Answers "grep" ["SHIP", "-in", "/projects/todo.md", "-"] out ∧
    Numbers ["- build terminal", "- ship app"] ["- ship app"] out := by
  have hlines : Text.lines "- build terminal\n- ship app" = ["- build terminal", "- ship app"] := by decide +kernel
  have hargs : Arguments.positional ["SHIP", "-in", "/projects/todo.md", "-"] = ["SHIP", "/projects/todo.md"] := by
    decide +kernel
  have hdecides : Pattern.Decides "SHIP" (Arguments.hasFlag ["SHIP", "-in", "/projects/todo.md", "-"] 'i')
      (· == "- ship app") (Text.lines "- build terminal\n- ship app") := by decide +kernel
  have hselects := ((grep_selects (s := after []) hargs).2.1 _ _ read_todo hdecides).2.1
  rw [hlines] at hselects
  exact (hselects (by decide)).2 (by decide +kernel)

end Session

end Terminal
