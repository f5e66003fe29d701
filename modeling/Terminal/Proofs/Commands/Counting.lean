import Terminal.Proofs.Commands.Excerpt

namespace Terminal

open Commands

namespace Text

section Pieces

variable {p q : Char → Bool}

theorem flatMap_pieces (h : ∀ c, q c = true → p c = true) (cs : List Char) :
    (pieces q cs).flatMap (pieces p) = pieces p cs := by
  induction cs with
  | nil => rfl
  | cons c cs ih =>
      cases hq : q c with
      | true => simp [pieces, hq, h c hq, ih]
      | false =>
          obtain ⟨w, ws, hws⟩ := List.exists_cons_of_ne_nil (pieces_ne_nil q cs)
          have hcut : pieces q (c :: cs) = (c :: w) :: ws := by simp [pieces, hq, hws, consHead]
          rw [hws, List.flatMap_cons] at ih
          rw [hcut, List.flatMap_cons]
          cases hp : p c with
          | true => simp [pieces, hp, ← ih]
          | false =>
              have hall : pieces p (c :: cs) = consHead c (pieces p cs) := by simp [pieces, hp]
              have hfirst : pieces p (c :: w) = consHead c (pieces p w) := by simp [pieces, hp]
              rw [hall, hfirst, ← ih, consHead_append (pieces_ne_nil p w)]

theorem sum_length_pieces (cs : List Char) :
    ((pieces p cs).map List.length).sum + (pieces p cs).length = cs.length + 1 := by
  induction cs with
  | nil => rfl
  | cons c cs ih =>
      cases hp : p c with
      | true =>
          simp only [pieces, hp, if_true, List.map_cons, List.sum_cons, List.length_cons, List.length_nil]
          omega
      | false =>
          obtain ⟨w, ws, hws⟩ := List.exists_cons_of_ne_nil (pieces_ne_nil p cs)
          simp only [hws, List.map_cons, List.sum_cons, List.length_cons] at ih
          simp only [pieces, hp, hws, consHead, Bool.false_eq_true, if_false, List.map_cons, List.sum_cons,
            List.length_cons]
          omega

end Pieces

theorem flatMap_words_lines (s : String) : (lines s).flatMap words = words s := by
  have hpieces : (pieces (· == '\n') s.toList).flatMap (pieces isBlank) = pieces isBlank s.toList :=
    flatMap_pieces (by simp [isBlank]) _
  rw [words, tokens, ← hpieces, List.filter_flatMap, List.map_flatMap, lines, List.flatMap_map]
  congr 1
  funext cs
  rw [words, tokens, String.toList_ofList]

theorem length_words (s : String) : (words s).length = ((lines s).map fun l => (words l).length).sum := by
  rw [← flatMap_words_lines, List.length_flatMap]

theorem length_eq (s : String) : s.length = ((lines s).map String.length).sum + ((lines s).length - 1) := by
  have hsum := sum_length_pieces (p := (· == '\n')) s.toList
  have hlines : (lines s).length = (pieces (· == '\n') s.toList).length := by rw [lines, List.length_map]
  have hlengths : (lines s).map String.length = (pieces (· == '\n') s.toList).map List.length := by
    rw [lines, List.map_map]
    exact List.map_congr_left fun cs _ => String.length_ofList
  have hpos := length_lines_pos s
  rw [String.length_toList, ← hlines, ← hlengths] at hsum
  omega

end Text

namespace Commands

def tally (ls : List String) (path : String) : String :=
  " ".intercalate [toString ls.length, toString (ls.map fun l => (Text.words l).length).sum,
    toString ((ls.map String.length).sum + (ls.length - 1)), path]

end Commands

namespace Session

variable {s : Session} {path content : String}

theorem yields_wc (h : s.files.read (Path.resolve s.cwd path) = .ok content) (rest : List String) :
    s.Yields (wc (path :: rest)) [tally (Text.lines content) path] := by
  refine yields_report fun prior => ?_
  have hread : (s.view prior).read path = .ok content := h
  simp only [hread]
  rw [Text.length_words, Text.length_eq]
  rfl

theorem answers_wc (hread : s.files.read (Path.resolve s.cwd path) = .ok content) (rest : List String) :
    s.Answers "wc" (path :: rest) [tally (Text.lines content) path] := by
  have hbuiltin : ∃ c, Registry.builtin.get? "wc" = some c ∧ c.handler = wc :=
    exists_builtin (by decide +kernel) (by decide) (by simp [builtins])
  exact answers_of_yields hbuiltin fun s' hstays => yields_wc (hstays.read hread) rest

/-- Whatever lines `cat` shows of a file, `wc` counts these lines, the words in each of them, and their characters with one
more between two lines. -/
theorem wc_tallies_cat (hread : s.files.read (Path.resolve s.cwd path) = .ok content) (rest rest' : List String) :
    s.Answers "cat" (path :: rest) (Text.lines content) ∧
    ∀ ls, s.Answers "cat" (path :: rest) ls → s.Answers "wc" (path :: rest') [tally ls path] := by
  refine ⟨answers_cat hread rest, fun ls hls => ?_⟩
  cases hls.unique (answers_cat hread rest)
  exact answers_wc hread rest'

theorem read_todo : (after []).files.read (Path.resolve (after []).cwd "/projects/todo.md") =
    .ok "- build terminal\n- ship app" := by decide +kernel

theorem todo_tallied : (after []).Quiet ∧
    (after []).Answers "wc" ["/projects/todo.md"] ["2 6 27 /projects/todo.md"] := by
  obtain ⟨hcat, hwc⟩ := wc_tallies_cat read_todo [] []
  have htally : tally (Text.lines "- build terminal\n- ship app") "/projects/todo.md" = "2 6 27 /projects/todo.md" := by
    decide +kernel
  have hanswers := hwc _ hcat
  rw [htally] at hanswers
  exact ⟨quiet_after_nil, hanswers⟩

end Session

end Terminal
