import Mathlib.Data.List.Basic
import Terminal.Recall

namespace Terminal.Recall

inductive Move where
  | older
  | newer
  | reset
  | append (line : String)
  deriving DecidableEq, Repr

structure Walk where
  lines : List String
  place : Option Nat := none
  deriving DecidableEq, Repr

namespace Walk

def move (w : Walk) : Move → Option String × Walk
  | .older => ((Recall.older w.lines w.place).2, { w with place := (Recall.older w.lines w.place).1 })
  | .newer => ((Recall.newer w.lines w.place).2, { w with place := (Recall.newer w.lines w.place).1 })
  | .reset => (none, { w with place := none })
  | .append line => (none, { w with lines := w.lines ++ [line] })

def after (moves : List Move) (w : Walk) : Walk := moves.foldl (fun w m => (w.move m).2) w

@[simp] theorem after_nil (w : Walk) : w.after [] = w := rfl

theorem after_cons (m : Move) (moves : List Move) (w : Walk) : w.after (m :: moves) = (w.move m).2.after moves := rfl

theorem after_append (moves moves' : List Move) (w : Walk) : w.after (moves ++ moves') = (w.after moves).after moves' :=
  List.foldl_append

end Walk

structure Position where
  lines : List String
  index : Nat
  le : index ≤ lines.length

namespace Position

def fresh (lines : List String) : Position := ⟨lines, lines.length, Nat.le_refl _⟩

def shown (p : Position) : String := if h : p.index < p.lines.length then p.lines.get ⟨p.index, h⟩ else ""

def back (p : Position) : Position := ⟨p.lines, p.index - 1, Nat.le_trans (Nat.sub_le ..) p.le⟩

def forth (p : Position) (h : p.index < p.lines.length) : Position := ⟨p.lines, p.index + 1, h⟩

def grown (p : Position) (line : String) : Position :=
  ⟨p.lines ++ [line], p.index, by have := p.le; simp only [List.length_append]; omega⟩

def move (p : Position) : Move → Option String × Position
  | .older => if p.lines = [] then (none, p) else (some p.back.shown, p.back)
  | .newer => if h : p.index < p.lines.length then (some (p.forth h).shown, p.forth h) else (none, p)
  | .reset => (none, fresh p.lines)
  | .append line => (none, if p.index < p.lines.length then p.grown line else fresh (p.lines ++ [line]))

def after (moves : List Move) (p : Position) : Position := moves.foldl (fun p m => (p.move m).2) p

theorem shown_of_lt {p : Position} (h : p.index < p.lines.length) : some p.shown = p.lines[p.index]? := by
  rw [shown, dif_pos h, List.getElem?_eq_getElem h]
  rfl

end Position

/-- The walk is at the position; at the end no line is recalled. -/
structure Tracks (w : Walk) (p : Position) : Prop where
  lines : w.lines = p.lines
  place : w.place = if p.index < p.lines.length then some p.index else none

namespace Tracks

variable {w : Walk} {p : Position}

theorem of_lt (hlines : w.lines = p.lines) (hplace : w.place = some p.index) (h : p.index < p.lines.length) :
    Tracks w p := ⟨hlines, by rw [hplace, if_pos h]⟩

theorem of_end (hlines : w.lines = p.lines) (hplace : w.place = none) (h : p.index = p.lines.length) : Tracks w p :=
  ⟨hlines, by rw [hplace, if_neg (by omega)]⟩

theorem fresh (lines : List String) : Tracks ⟨lines, none⟩ (.fresh lines) := of_end rfl rfl rfl

variable (h : Tracks w p)
include h

theorem place_of_lt (hlt : p.index < p.lines.length) : w.place = some p.index := by
  rw [h.place, if_pos hlt]

theorem place_of_end (hend : ¬ p.index < p.lines.length) : w.place = none := by
  rw [h.place, if_neg hend]

theorem older_eq (hne : p.lines ≠ []) :
    Recall.older w.lines w.place = (some p.back.index, p.lines[p.back.index]?) := by
  have hempty : p.lines.isEmpty = false := by simpa using hne
  rw [Recall.older.eq_def, h.lines, hempty]
  by_cases hlt : p.index < p.lines.length
  · rw [h.place_of_lt hlt]
    rfl
  · -- from the end one step back leads to the newest line
    have hend : p.lines.length = p.index := by have := p.le; omega
    rw [h.place_of_end hlt, hend]
    rfl

theorem older : (w.move .older).1 = (p.move .older).1 ∧ Tracks (w.move .older).2 (p.move .older).2 := by
  rw [Walk.move, Position.move]
  by_cases hnil : p.lines = []
  · have hend : ¬ p.index < p.lines.length := by simp [hnil]
    have hlines : w.lines.isEmpty = true := by rw [h.lines, hnil]; rfl
    rw [if_pos hnil, Recall.older.eq_def, if_pos hlines]
    exact ⟨rfl, h.lines, h.place⟩
  · have hlt : p.back.index < p.back.lines.length := by
      have hpos : 0 < p.lines.length := List.length_pos_iff.2 hnil
      have hle : p.index ≤ p.lines.length := p.le
      change p.index - 1 < p.lines.length
      omega
    rw [if_neg hnil, h.older_eq hnil]
    exact ⟨(Position.shown_of_lt hlt).symm, .of_lt h.lines rfl hlt⟩

theorem newer : (w.move .newer).1 = (p.move .newer).1 ∧ Tracks (w.move .newer).2 (p.move .newer).2 := by
  rw [Walk.move, Position.move]
  by_cases hlt : p.index < p.lines.length
  · have hempty : p.lines.isEmpty = false := by
      rw [Bool.eq_false_iff, Ne, List.isEmpty_iff]
      exact List.ne_nil_of_length_pos (Nat.zero_lt_of_lt hlt)
    rw [dif_pos hlt, h.lines, h.place_of_lt hlt, Recall.newer, hempty, if_neg Bool.false_ne_true]
    by_cases hlast : p.lines.length ≤ p.index + 1
    · have hend : (p.forth hlt).index = p.lines.length := Nat.le_antisymm hlt hlast
      rw [if_pos hlast]
      exact ⟨by rw [Position.shown, dif_neg (by rw [hend]; exact Nat.lt_irrefl _)], .of_end rfl rfl hend⟩
    · have hnext : (p.forth hlt).index < p.lines.length := Nat.lt_of_not_le hlast
      rw [if_neg hlast]
      exact ⟨(Position.shown_of_lt hnext).symm, .of_lt rfl rfl hnext⟩
  · rw [dif_neg hlt, h.place_of_end hlt, Recall.newer]
    exact ⟨rfl, h.lines, (h.place_of_end hlt).symm.trans h.place⟩

theorem append (line : String) :
    (w.move (.append line)).1 = (p.move (.append line)).1 ∧
      Tracks (w.move (.append line)).2 (p.move (.append line)).2 := by
  rw [Walk.move, Position.move]
  refine ⟨rfl, ?_⟩
  have hlines : w.lines ++ [line] = p.lines ++ [line] := congrArg (· ++ [line]) h.lines
  by_cases hlt : p.index < p.lines.length
  · have hgrown : (p.grown line).index < (p.lines ++ [line]).length := by
      rw [List.length_append]
      exact Nat.lt_add_right _ hlt
    rw [if_pos hlt]
    exact .of_lt hlines (h.place_of_lt hlt) hgrown
  · rw [if_neg hlt]
    exact .of_end hlines (h.place_of_end hlt) rfl

theorem move (m : Move) : (w.move m).1 = (p.move m).1 ∧ Tracks (w.move m).2 (p.move m).2 := by
  cases m with
  | older => exact h.older
  | newer => exact h.newer
  | reset => exact ⟨rfl, .of_end h.lines rfl rfl⟩
  | append line => exact h.append line

theorem after (moves : List Move) : Tracks (w.after moves) (p.after moves) := by
  induction moves generalizing w p with
  | nil => exact h
  | cons m moves ih => exact ih (h.move m).2

theorem lt_of_place {i : Nat} (hi : w.place = some i) : i = p.index ∧ i < w.lines.length := by
  rw [h.place] at hi
  split at hi
  · rename_i hlt
    cases hi
    exact ⟨rfl, h.lines ▸ hlt⟩
  · cases hi

end Tracks

/-- A walk that begins with a fresh line tracks a position through all moves and shows what stands there. Its place is
always one of the lines that are there. Where a line comes to be added, what is recalled stays the same line, and where
nothing is recalled this stays so. -/
theorem walk_tracks (lines : List String) (moves : List Move) :
    let w := (Walk.mk lines none).after moves
    let p := (Position.fresh lines).after moves
    Tracks w p ∧ (∀ m, (w.move m).1 = (p.move m).1) ∧
    (w.place = none ↔ p.index = w.lines.length) ∧
    (∀ i, w.place = some i → i = p.index ∧ i < w.lines.length ∧ ∀ line,
      (w.move (.append line)).2.place = some i ∧ (w.move (.append line)).2.lines[i]? = w.lines[i]?) ∧
    (w.place = none → ∀ line, (w.move (.append line)).2.place = none) := by
  intro w p
  have htracks : Tracks w p := (Tracks.fresh lines).after moves
  refine ⟨htracks, fun m => (htracks.move m).1, ?_, fun i hi => ?_, fun hnone line => hnone⟩
  · have hle : p.index ≤ p.lines.length := p.le
    rw [htracks.place, htracks.lines, ite_eq_right_iff]
    exact ⟨fun hnot => Nat.le_antisymm hle (Nat.le_of_not_lt fun hlt => nomatch hnot hlt),
      fun hend hlt => absurd hend (Nat.ne_of_lt hlt)⟩
  · obtain ⟨hindex, hlt⟩ := htracks.lt_of_place hi
    exact ⟨hindex, hlt, fun line => ⟨hi, List.getElem?_append_left hlt⟩⟩

end Terminal.Recall
