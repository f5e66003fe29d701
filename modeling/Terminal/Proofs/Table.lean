import Mathlib.Data.List.Sort
import Terminal.Table
import Terminal.Proofs.Files.Order

namespace Terminal

namespace Table

variable {β : Type} {t : Table β}

theorem mem_keys_put {key m : String} {value : β} : m ∈ (t.put key value).keys ↔ m = key ∨ m ∈ t.keys := by
  induction t with
  | nil => simp [put, keys]
  | cons e t ih =>
      obtain ⟨k, v⟩ := e
      rw [put]
      split
      · rename_i hk
        simp [keys, hk]
      · split
        · simp [keys]
        · have hrest : m ∈ (put t key value).map Prod.fst ↔ m = key ∨ m ∈ t.map Prod.fst := ih
          simp only [keys, List.map_cons, List.mem_cons, hrest]
          exact or_left_comm

theorem pairwise_put {t : Table β} (h : t.keys.Pairwise (· < ·)) (key : String) (value : β) :
    (t.put key value).keys.Pairwise (· < ·) := by
  induction t with
  | nil => exact List.pairwise_singleton _ _
  | cons e t ih =>
      obtain ⟨k, v⟩ := e
      have hparts : (k :: keys t).Pairwise (· < ·) := h
      obtain ⟨hlt, hrest⟩ := List.pairwise_cons.1 hparts
      rw [put]
      split
      · rename_i hk
        exact List.pairwise_cons.2 ⟨fun m hm => hk ▸ hlt m hm, hrest⟩
      · rename_i hne
        split
        · rename_i hbefore
          refine List.pairwise_cons.2 ⟨fun m hm => ?_, hparts⟩
          rcases List.mem_cons.1 hm with rfl | hm
          · exact hbefore
          · exact String.lt_trans hbefore (hlt m hm)
        · rename_i hafter
          refine List.pairwise_cons.2 ⟨fun m hm => ?_, ih hrest⟩
          rcases mem_keys_put.1 hm with rfl | hm
          · exact Forest.lt_of_not_lt hne hafter
          · exact hlt m hm

section Fold

variable {l : List (String × β)}

theorem mem_keys_foldl {key : String} :
    key ∈ (l.foldl (fun t e => t.put e.1 e.2) t).keys ↔ key ∈ t.keys ∨ key ∈ l.map Prod.fst := by
  induction l generalizing t with
  | nil => simp
  | cons e l ih => rw [List.foldl_cons, ih, mem_keys_put, List.map_cons, List.mem_cons, or_assoc, or_left_comm]

theorem pairwise_foldl (h : t.keys.Pairwise (· < ·)) :
    (l.foldl (fun t e => t.put e.1 e.2) t).keys.Pairwise (· < ·) := by
  induction l generalizing t with
  | nil => exact h
  | cons e l ih => exact ih (pairwise_put h e.1 e.2)

theorem mem_keys_ofList {key : String} : key ∈ (ofList l).keys ↔ key ∈ l.map Prod.fst :=
  mem_keys_foldl.trans (or_iff_right (by simp [keys]))

theorem pairwise_ofList : (ofList l).keys.Pairwise (· < ·) := pairwise_foldl .nil

end Fold

@[simp] theorem isSome_get?_iff {key : String} : (t.get? key).isSome ↔ key ∈ t.keys := by
  induction t with
  | nil => simp [get?, keys]
  | cons e t ih =>
      obtain ⟨k, v⟩ := e
      have hrest : (get? t key).isSome ↔ key ∈ t.map Prod.fst := ih
      rw [get?]
      split
      · rename_i hk
        simp [keys, hk]
      · rename_i hne
        simp [keys, hrest, Ne.symm hne]

theorem mem_of_get? {key : String} {value : β} (h : t.get? key = some value) : (key, value) ∈ t := by
  induction t with
  | nil => cases h
  | cons e t ih =>
      obtain ⟨k, v⟩ := e
      rw [get?] at h
      split at h
      · rename_i hk
        cases h
        exact hk ▸ List.mem_cons_self
      · exact List.mem_cons_of_mem _ (ih h)

section Sorted

variable (h : t.keys.Pairwise (· < ·))

include h

theorem get?_of_mem {key : String} {value : β} (hmem : (key, value) ∈ t) : t.get? key = some value := by
  induction t with
  | nil => cases hmem
  | cons e t ih =>
      obtain ⟨k, v⟩ := e
      obtain ⟨hlt, hrest⟩ := List.pairwise_cons.1 (show (k :: keys t).Pairwise (· < ·) from h)
      rw [get?]
      rcases List.mem_cons.1 hmem with heq | hmem
      · cases heq
        exact if_pos rfl
      · have hkey : key ∈ keys t := List.mem_map_of_mem (f := Prod.fst) hmem
        rw [if_neg (String.ne_of_lt (hlt key hkey))]
        exact ih hrest hmem

theorem mem_iff_get? {key : String} {value : β} : (key, value) ∈ t ↔ t.get? key = some value :=
  ⟨get?_of_mem h, mem_of_get?⟩

theorem map_get?_keys : t.keys.map t.get? = t.map fun e => some e.2 := by
  rw [keys, List.map_map]
  exact List.map_congr_left fun e he => get?_of_mem h he

theorem eq_of_get? {u : Table β} (hu : u.keys.Pairwise (· < ·)) (heq : ∀ key, t.get? key = u.get? key) : t = u := by
  have hirrefl : Std.Irrefl fun a b : String × β => a.1 < b.1 := ⟨fun e => String.lt_irrefl e.1⟩
  refine (List.pairwise_map.1 h).eq_of_mem_iff (List.pairwise_map.1 hu) ?_
  rintro ⟨key, value⟩
  rw [mem_iff_get? h, mem_iff_get? hu, heq]

end Sorted

end Table

end Terminal
