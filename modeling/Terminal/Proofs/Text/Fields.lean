import Mathlib.Data.List.Basic
import Terminal.Proofs.Path.Split

namespace Terminal.Text

def Unbroken (s : String) : Prop := ∀ c ∈ s.toList, isBlank c = false

-- named, since a search can also find the instance that runs through every character there is
instance : DecidablePred Unbroken := fun s => List.decidableBAll (fun c => isBlank c = false) s.toList

theorem Unbroken.append {s t : String} (hs : Unbroken s) (ht : Unbroken t) : Unbroken (s ++ t) := by
  intro c hc
  rw [String.toList_append] at hc
  rcases List.mem_append.1 hc with hc | hc
  · exact hs c hc
  · exact ht c hc

theorem Unbroken.of_start {s t : String} (h : s.toList <+: t.toList) (ht : Unbroken t) : Unbroken s := by
  intro c hc
  exact ht c (h.subset hc)

theorem unbroken_of_mem_words {s w : String} (h : w ∈ words s) : Unbroken w := by
  intro c hc
  exact ((exists_mem_tokens_iff s).1 ⟨w, h, hc⟩).2

theorem ne_empty_of_mem_words {s w : String} (h : w ∈ words s) : w ≠ "" := by
  obtain ⟨cs, hcs, rfl⟩ := List.mem_map.1 h
  intro he
  have hnil : cs = [] := by simpa using congrArg String.toList he
  simp [hnil] at hcs

section Pieces

variable {p : Char → Bool}

theorem exists_pieces_concat {c : Char} (hc : p c = false) (cs : List Char) :
    ∃ ws w, pieces p (cs ++ [c]) = ws ++ [w ++ [c]] := by
  induction cs with
  | nil => exact ⟨[], [], by simp [pieces, hc, consHead]⟩
  | cons d cs ih =>
      obtain ⟨ws, w, hw⟩ := ih
      cases hd : p d with
      | true => exact ⟨[] :: ws, w, by simp [pieces, hd, hw]⟩
      | false =>
          cases ws with
          | nil => exact ⟨[], d :: w, by simp [pieces, hd, hw, consHead]⟩
          | cons v ws => exact ⟨(d :: v) :: ws, w, by simp [pieces, hd, hw, consHead]⟩

theorem getLast?_pieces_eq_nil_iff (cs : List Char) :
    (pieces p cs).getLast? = some [] ↔ ∀ c, cs.getLast? = some c → p c = true := by
  rcases List.eq_nil_or_concat cs with rfl | ⟨cs, c, rfl⟩
  · simp [pieces]
  · cases hc : p c with
    | true => simp [pieces_append_sep cs [] hc, pieces, hc]
    | false =>
        obtain ⟨ws, w, hw⟩ := exists_pieces_concat hc cs
        simp [hw, hc]

end Pieces

def squeeze : List (List Char) → List (List Char)
  | [] => []
  | w :: ws => w :: ((ws.dropLast.filter fun v => !v.isEmpty) ++ ws.getLast?.toList)

theorem fields_eq (s : String) : fields s = (squeeze (pieces isBlank s.toList)).map String.ofList := by
  rw [fields]
  cases pieces isBlank s.toList with
  | nil => rfl
  | cons w ws =>
      cases hlast : ws.getLast? with
      | none =>
          have hws : ws = [] := List.getLast?_eq_none_iff.1 hlast
          simp [squeeze, hws]
      | some v => simp [squeeze, hlast]

theorem dropLast_append_getLast? {α : Type} (l : List α) : l.dropLast ++ l.getLast?.toList = l := by
  cases hlast : l.getLast? with
  | none => simp [List.getLast?_eq_none_iff.1 hlast]
  | some a =>
      obtain ⟨init, rfl⟩ := List.getLast?_eq_some_iff.1 hlast
      simp

theorem filter_squeeze (ws : List (List Char)) :
    (squeeze ws).filter (fun v => !v.isEmpty) = ws.filter fun v => !v.isEmpty := by
  cases ws with
  | nil => rfl
  | cons w ws =>
      have htail : ((ws.dropLast.filter fun v => !v.isEmpty) ++ ws.getLast?.toList).filter (fun v => !v.isEmpty) =
          ws.filter fun v => !v.isEmpty := by
        rw [List.filter_append, List.filter_filter]
        simp only [Bool.and_self]
        rw [← List.filter_append, dropLast_append_getLast?]
      rw [squeeze, List.filter_cons, List.filter_cons, htail]

theorem isEmpty_toList (s : String) : s.toList.isEmpty = decide (s = "") := by
  rw [Bool.eq_iff_iff, List.isEmpty_iff, decide_eq_true_iff, ← String.toList_inj]
  rfl

theorem words_eq_filter_fields (s : String) : words s = (fields s).filter (· ≠ "") := by
  rw [words, tokens, fields_eq, List.filter_map, ← filter_squeeze]
  congr 2
  funext cs
  have hempty := isEmpty_toList (.ofList cs)
  rw [String.toList_ofList] at hempty
  rw [Function.comp, hempty, decide_not]

theorem getLast?_squeeze (ws : List (List Char)) : (squeeze ws).getLast? = ws.getLast? := by
  cases ws with
  | nil => rfl
  | cons w ws =>
      cases hlast : ws.getLast? with
      | none =>
          have hws : ws = [] := List.getLast?_eq_none_iff.1 hlast
          simp [squeeze, hws]
      | some v => simp [squeeze, List.getLast?_cons, hlast]

theorem getLast?_fields_eq_empty_iff (s : String) :
    (fields s).getLast? = some "" ↔ ∀ c, s.toList.getLast? = some c → isBlank c = true := by
  rw [← getLast?_pieces_eq_nil_iff, fields_eq, List.getLast?_map, getLast?_squeeze]
  cases (pieces isBlank s.toList).getLast? with
  | none => simp
  | some v => simp

theorem exists_fields_eq {s last : String} {earlier : List String} (hwords : words s = earlier ++ [last])
    (hend : ∀ c, s.toList.getLast? = some c → isBlank c = false) :
    ∃ front, fields s = front ++ [last] ∧ front.filter (· ≠ "") = earlier := by
  rw [words_eq_filter_fields] at hwords
  rcases List.eq_nil_or_concat (fields s) with hnil | ⟨front, f, hfields⟩
  · simp [hnil] at hwords
  · rw [List.concat_eq_append] at hfields
    have hf : f ≠ "" := by
      rintro rfl
      have hblank := (getLast?_fields_eq_empty_iff s).1 (by simp [hfields])
      cases hlast : s.toList.getLast? with
      | none =>
          have hs : s = "" := String.toList_inj.1 (List.getLast?_eq_none_iff.1 hlast)
          simp [hs, fields, pieces] at hwords
      | some c => exact absurd (hblank c hlast) (by simp [hend c hlast])
    have hkept : front.filter (· ≠ "") ++ [f] = earlier ++ [last] := by
      rw [← hwords, hfields, List.filter_append, List.filter_singleton, decide_eq_true hf, cond_true]
    obtain ⟨hfront, hlast⟩ := List.append_inj' hkept rfl
    cases hlast
    exact ⟨front, hfields, hfront⟩

theorem mem_squeeze {ws : List (List Char)} {v : List Char} (h : v ∈ squeeze ws) : v ∈ ws := by
  cases ws with
  | nil => exact h
  | cons w ws =>
      rcases List.mem_cons.1 h with rfl | h
      · exact List.mem_cons_self ..
      · refine List.mem_cons_of_mem _ ?_
        rw [← dropLast_append_getLast? ws]
        rcases List.mem_append.1 h with h | h
        · exact List.mem_append_left _ (List.mem_filter.1 h).1
        · exact List.mem_append_right _ h

theorem unbroken_of_mem_fields {s f : String} (h : f ∈ fields s) : Unbroken f := by
  rw [fields_eq] at h
  obtain ⟨v, hv, rfl⟩ := List.mem_map.1 h
  intro c hc
  exact not_sep_of_mem_pieces (mem_squeeze hv) (by simpa using hc)

theorem words_intercalate {fs : List String} (h : ∀ f ∈ fs, Unbroken f) :
    words (" ".intercalate fs) = fs.filter (· ≠ "") := by
  by_cases hne : fs = []
  · subst hne
    rfl
  · have hpieces : pieces isBlank (" ".intercalate fs).toList = fs.map String.toList :=
      pieces_intercalate rfl (by rfl) hne h
    rw [words, tokens, hpieces, List.filter_map, List.map_map]
    simp [Function.comp_def, isEmpty_toList]

theorem Unbroken.words_eq {s : String} (h : Unbroken s) (hne : s ≠ "") : words s = [s] := by
  have hsingle : words (" ".intercalate [s]) = [s].filter (· ≠ "") := words_intercalate (by simpa using h)
  rw [String.intercalate_singleton] at hsingle
  simpa [hne] using hsingle

theorem words_concat_space (s : String) : words (s ++ " ") = words s := by
  have hpieces : pieces isBlank (s.toList ++ [' ']) = pieces isBlank s.toList ++ [[]] :=
    pieces_append_sep s.toList [] rfl
  rw [words, words, tokens, tokens, String.toList_append]
  simp [hpieces]

end Terminal.Text
