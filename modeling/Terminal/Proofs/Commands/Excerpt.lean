import Terminal.Proofs.Session.Answering

namespace Terminal

open Commands

namespace Arguments

/-- The arguments ask for a number of lines of a file. The number stands before the file or after it, and what follows
both does not matter. -/
inductive Counts (value path : String) : List String → Prop
  | before (rest : List String) : Counts value path ("-n" :: value :: path :: rest)
  | after {between : List String} (rest : List String) :
      "-n" ∉ path :: between → Counts value path (path :: between ++ "-n" :: value :: rest)

variable {flag value path : String} {args before : List String} {n : Int}

theorem takeOption_cons_of_ne {arg : String} (h : arg ≠ flag) (args : List String) :
    takeOption flag (arg :: args) = (takeOption flag args).map fun (value, rest) => (value, arg :: rest) := by
  rw [takeOption.eq_def]
  exact if_neg h

theorem takeOption_of_not_mem (h : flag ∉ args) : takeOption flag args = none := by
  induction args with
  | nil => rfl
  | cons arg args ih =>
      have hne : arg ≠ flag := (List.ne_of_not_mem_cons h).symm
      rw [takeOption_cons_of_ne hne, ih (List.not_mem_of_not_mem_cons h)]
      rfl

theorem takeOption_append (h : flag ∉ before) (after : List String) :
    takeOption flag (before ++ flag :: after) = some (after.head?, before ++ after.tail) := by
  induction before with
  | nil => cases after <;> simp [takeOption]
  | cons arg before ih =>
      have hne : arg ≠ flag := (List.ne_of_not_mem_cons h).symm
      rw [List.cons_append, takeOption_cons_of_ne hne, ih (List.not_mem_of_not_mem_cons h)]
      rfl

theorem countOption_of_not_mem (h : flag ∉ args) (default : Int) (usage : String) :
    countOption args flag default usage = .ok ⟨default, args⟩ := by
  rw [countOption, takeOption_of_not_mem h]

theorem countOption_append (h : flag ∉ before) (hvalue : leadingInt value = .ok (some n)) (hn : 1 ≤ n)
    (rest : List String) (default : Int) (usage : String) :
    countOption (before ++ flag :: value :: rest) flag default usage = .ok ⟨n, before ++ rest⟩ := by
  have hpos : n ≠ 0 := by omega
  rw [countOption, takeOption_append h]
  simp only [List.head?_cons, List.tail_cons, hvalue, Option.getD_some, if_neg hpos, max_eq_right hn]

theorem Counts.countOption (h : Counts value path args) (hvalue : leadingInt value = .ok (some n)) (hn : 1 ≤ n)
    (default : Int) : ∃ rest, ∀ usage,
      Arguments.countOption args "-n" default usage = .ok ⟨n, path :: rest⟩ := by
  cases h with
  | before rest =>
      exact ⟨rest, fun usage => countOption_append List.not_mem_nil hvalue hn (path :: rest) default usage⟩
  | @after between rest hbefore =>
      exact ⟨between ++ rest, fun usage => countOption_append hbefore hvalue hn rest default usage⟩

end Arguments

namespace Commands

theorem part_congr {path : String} {args args' rest rest' : List String} {n : Int}
    (h : ∀ usage, Arguments.countOption args "-n" lineCount usage = .ok ⟨n, path :: rest⟩)
    (h' : ∀ usage, Arguments.countOption args' "-n" lineCount usage = .ok ⟨n, path :: rest'⟩) (name : String)
    (pick : Nat → List String → List String) : part name pick args = part name pick args' := by
  rw [part, part]
  simp only [h, h']
  rfl

end Commands

namespace Session

variable {s : Session} {path content : String} {args rest : List String} {n : Int}

theorem withLines_of_read (h : s.files.read (Path.resolve s.cwd path) = .ok content) (prior : List String)
    (label : String) (f : List String → Except Failure Result) :
    withLines (s.view prior) label path f = f (Text.lines content) := by
  have hread : (s.view prior).read path = .ok content := h
  rw [withLines, hread]

theorem yields_cat (h : s.files.read (Path.resolve s.cwd path) = .ok content) (rest : List String) :
    s.Yields (cat (path :: rest)) (Text.lines content) :=
  yields_report fun prior => withLines_of_read h prior _ _

theorem yields_part (h : s.files.read (Path.resolve s.cwd path) = .ok content)
    (hcount : ∀ usage, Arguments.countOption args "-n" lineCount usage = .ok ⟨n, path :: rest⟩) (name : String)
    (pick : Nat → List String → List String) : s.Yields (part name pick args) (pick n.toNat (Text.lines content)) := by
  refine yields_report fun prior => ?_
  simp only [hcount]
  exact withLines_of_read h prior name fun l => lines (pick n.toNat l)

section Reading

variable (hread : s.files.read (Path.resolve s.cwd path) = .ok content)
include hread

theorem Stays.read {s' : Session} (h : s.Stays s') : s'.files.read (Path.resolve s'.cwd path) = .ok content := by
  rw [h.files, h.cwd]
  exact hread

theorem answers_cat (rest : List String) : s.Answers "cat" (path :: rest) (Text.lines content) := by
  have hbuiltin : ∃ c, Registry.builtin.get? "cat" = some c ∧ c.handler = cat :=
    exists_builtin (by decide +kernel) (by decide) (by simp [builtins])
  exact answers_of_yields hbuiltin fun s' hstays => yields_cat (hstays.read hread) rest

variable (hcount : ∀ usage, Arguments.countOption args "-n" lineCount usage = .ok ⟨n, path :: rest⟩)
include hcount

theorem answers_head : s.Answers "head" args ((Text.lines content).take n.toNat) := by
  have hbuiltin : ∃ c, Registry.builtin.get? "head" = some c ∧ c.handler = head :=
    exists_builtin (by decide +kernel) (by decide) (by simp [builtins])
  exact answers_of_yields hbuiltin fun s' hstays => yields_part (hstays.read hread) hcount _ _

theorem answers_tail :
    s.Answers "tail" args ((Text.lines content).drop ((Text.lines content).length - n.toNat)) := by
  have hbuiltin : ∃ c, Registry.builtin.get? "tail" = some c ∧ c.handler = tail :=
    exists_builtin (by decide +kernel) (by decide) (by simp [builtins])
  exact answers_of_yields hbuiltin fun s' hstays => yields_part (hstays.read hread) hcount _ _

end Reading

/-- The first `k` lines of a file and its last lines, of which there are as many as remain, are together what `cat`
prints, and the lines are the file. A number that is no smaller than that of all lines asks for all of them. Without a
number it is ten. -/
theorem head_tail_partition (hread : s.files.read (Path.resolve s.cwd path) = .ok content) :
    "\n".intercalate (Text.lines content) = content ∧ s.Answers "cat" [path] (Text.lines content) ∧
    (∀ (k : Nat) (value value' : String) (args args' : List String), 1 ≤ k → k < (Text.lines content).length →
      Arguments.leadingInt value = .ok (some k) →
      Arguments.leadingInt value' = .ok (some ((Text.lines content).length - k)) →
      Arguments.Counts value path args → Arguments.Counts value' path args' →
      ∃ first last, s.Answers "head" args first ∧ s.Answers "tail" args' last ∧
        first.length = k ∧ first ++ last = Text.lines content) ∧
    (∀ (k : Nat) (value : String) (args : List String), (Text.lines content).length ≤ k →
      Arguments.leadingInt value = .ok (some k) → Arguments.Counts value path args →
      s.Answers "head" args (Text.lines content) ∧ s.Answers "tail" args (Text.lines content)) ∧
    (∀ (value : String) (args rest : List String), Arguments.leadingInt value = .ok (some 10) →
      Arguments.Counts value path args → "-n" ∉ path :: rest →
      head (path :: rest) = head args ∧ tail (path :: rest) = tail args) := by
  refine ⟨Text.intercalate_lines content, answers_cat hread [], ?_, ?_, ?_⟩
  · intro k value value' args args' hpos hlt hvalue hvalue' hargs hargs'
    obtain ⟨rest, hcount⟩ := hargs.countOption hvalue (by omega) lineCount
    obtain ⟨rest', hcount'⟩ := hargs'.countOption hvalue' (by omega) lineCount
    refine ⟨_, _, answers_head hread hcount, answers_tail hread hcount', ?_, ?_⟩
    · rw [List.length_take, Int.toNat_natCast]
      omega
    · have hcut : (Text.lines content).length - ((Text.lines content).length - k : Int).toNat = k := by omega
      rw [hcut, Int.toNat_natCast, List.take_append_drop]
  · intro k value args hle hvalue hargs
    have hlines : 0 < (Text.lines content).length := Text.length_lines_pos content
    obtain ⟨rest, hcount⟩ := hargs.countOption hvalue (by omega) lineCount
    have hhead := answers_head hread hcount
    have htail := answers_tail hread hcount
    rw [Int.toNat_natCast] at hhead htail
    rw [List.take_of_length_le hle] at hhead
    rw [Nat.sub_eq_zero_of_le hle, List.drop_zero] at htail
    exact ⟨hhead, htail⟩
  · intro value args rest hvalue hargs hnone
    obtain ⟨rest', hcount⟩ := hargs.countOption hvalue (by omega) lineCount
    have hdefault := Arguments.countOption_of_not_mem hnone lineCount
    exact ⟨part_congr hdefault hcount _ _, part_congr hdefault hcount _ _⟩

theorem todo_partition : (after []).Quiet ∧ ∃ first last,
    (after []).Answers "head" ["-n", "1", "/projects/todo.md"] first ∧
    (after []).Answers "tail" ["/projects/todo.md", "-n", "+1x"] last ∧
    first.length = 1 ∧ first ++ last = ["- build terminal", "- ship app"] := by
  have hread : (after []).files.read (Path.resolve (after []).cwd "/projects/todo.md") =
      .ok "- build terminal\n- ship app" := by decide +kernel
  have hlines : Text.lines "- build terminal\n- ship app" = ["- build terminal", "- ship app"] := by decide +kernel
  have hafter : Arguments.Counts "+1x" "/projects/todo.md" ["/projects/todo.md", "-n", "+1x"] :=
    @Arguments.Counts.after _ _ [] [] (by decide +kernel)
  have hcut := (head_tail_partition hread).2.2.1 1 "1" "+1x" _ _ (by decide) (by rw [hlines]; decide)
    (by decide +kernel) (by rw [hlines]; decide +kernel) (.before []) hafter
  rw [hlines] at hcut
  exact ⟨⟨rfl, rfl, fun p _ => not_stirred rfl p, nofun⟩, hcut⟩

end Session

end Terminal
