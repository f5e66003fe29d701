import Terminal.Commands.Directories
import Terminal.Proofs.Files.Paths
import Terminal.Proofs.Path.Settle

namespace Terminal.Commands

def kids (v : View) (path : String) : List String := (v.list path).map (Path.resolve path)

def Under (v : View) (below path : String) : Prop := below ∈ kids v path

variable {v : View}

theorem list_eq_nil {path : String} (h : ¬ v.isDir path = true) : v.list path = [] := by
  rw [View.isDir, Tree.isDir] at h
  rw [View.list, Tree.list]
  cases hget : v.files.get? (v.resolve path) with
  | none => rfl
  | some node =>
      cases node with
      | file doc => rfl
      | dir stamp below => simp [hget, Node.isDir] at h

theorem walk_nil (fuel : Nat) (met : List String) : walk v fuel [] met = some met.reverse := by
  cases fuel <;> rfl

theorem walk_cons (fuel : Nat) (path : String) (stack met : List String) :
    walk v (fuel + 1) (path :: stack) met = walk v fuel ((kids v path).reverse ++ stack) (path :: met) := by
  rw [walk]
  by_cases h : v.isDir path = true
  · rw [if_pos h]
    rfl
  · rw [if_neg h, kids, list_eq_nil h]
    rfl

section Ends

theorem isSome_walk_left {fuel : Nat} {a b met : List String} (met' : List String)
    (h : (walk v fuel (a ++ b) met).isSome) : (walk v fuel a met').isSome := by
  induction fuel generalizing a met met' with
  | zero =>
      cases a with
      | nil => rfl
      | cons path a => exact absurd h (by simp [walk])
  | succ fuel ih =>
      cases a with
      | nil => rfl
      | cons path a =>
          rw [List.cons_append, walk_cons, ← List.append_assoc] at h
          rw [walk_cons]
          exact ih _ h

theorem isSome_walk_right {fuel : Nat} {a b met : List String} (h : (walk v fuel (a ++ b) met).isSome) :
    ∃ less ≤ fuel, ∃ met', (walk v less b met').isSome := by
  induction fuel generalizing a met with
  | zero =>
      cases a with
      | nil => exact ⟨0, Nat.le_refl 0, met, h⟩
      | cons path a => exact absurd h (by simp [walk])
  | succ fuel ih =>
      cases a with
      | nil => exact ⟨fuel + 1, Nat.le_refl _, met, h⟩
      | cons path a =>
          rw [List.cons_append, walk_cons, ← List.append_assoc] at h
          obtain ⟨less, hless, met', h'⟩ := ih h
          exact ⟨less, Nat.le_succ_of_le hless, met', h'⟩

theorem acc_of_walk {fuel : Nat} {path : String} {met : List String}
    (h : (walk v fuel [path] met).isSome) : Acc (Under v) path := by
  induction fuel using Nat.strongRecOn generalizing path met with
  | ind fuel ih =>
      cases fuel with
      | zero => exact absurd h (by simp [walk])
      | succ fuel =>
          rw [walk_cons, List.append_nil] at h
          refine Acc.intro path fun below hbelow => ?_
          obtain ⟨a, b, hab⟩ := List.append_of_mem (List.mem_reverse.2 hbelow)
          rw [hab] at h
          obtain ⟨less, hless, met', h'⟩ := isSome_walk_right h
          exact ih less (Nat.lt_succ_of_le hless) (isSome_walk_left (a := [below]) [] h')

theorem not_under_of_acc {α : Type} {r : α → α → Prop} {x : α} (h : Acc r x) : ∀ y, r y x → ¬ r x y := by
  induction h with
  | intro x _ ih =>
      intro y hyx hxy
      exact ih y hyx x hxy hyx

end Ends

/-- The paths on `stack` lead the search to `met`, whatever else it has still to do. -/
def Visits (v : View) (stack met : List String) : Prop :=
  ∀ fuel rest old, walk v (met.length + fuel) (stack ++ rest) old = walk v fuel rest (met.reverse ++ old)

namespace Visits

theorem nil : Visits v [] [] := by
  intro fuel rest old
  rw [List.length_nil, Nat.zero_add]
  rfl

theorem append {a b met met' : List String} (ha : Visits v a met) (hb : Visits v b met') :
    Visits v (a ++ b) (met ++ met') := by
  intro fuel rest old
  rw [List.length_append, Nat.add_assoc, List.append_assoc, ha, hb, List.reverse_append, List.append_assoc]

theorem enter {path : String} {met : List String} (h : Visits v (kids v path).reverse met) :
    Visits v [path] (path :: met) := by
  intro fuel rest old
  have hfuel : (path :: met).length + fuel = (met.length + fuel) + 1 := by
    rw [List.length_cons]
    omega
  rw [hfuel, List.singleton_append, walk_cons, h, List.reverse_cons, List.append_assoc]
  rfl

theorem walk_eq {stack met : List String} (h : Visits v stack met) {fuel : Nat} (hf : met.length ≤ fuel) :
    walk v fuel stack [] = some met := by
  obtain ⟨more, rfl⟩ := Nat.exists_eq_add_of_le hf
  have hwalk := h more [] []
  rw [List.append_nil, List.append_nil, walk_nil, List.reverse_reverse] at hwalk
  exact hwalk

end Visits

end Terminal.Commands
