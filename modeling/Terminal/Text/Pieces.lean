import Terminal.Text.Char

namespace Terminal.Text

def consHead (c : Char) : List (List Char) → List (List Char)
  | [] => [[c]]
  | w :: ws => (c :: w) :: ws

def pieces (p : Char → Bool) : List Char → List (List Char)
  | [] => [[]]
  | c :: cs => if p c then [] :: pieces p cs else consHead c (pieces p cs)

theorem pieces_ne_nil (p : Char → Bool) (cs : List Char) : pieces p cs ≠ [] := by
  cases cs with
  | nil => simp [pieces]
  | cons c cs =>
      simp only [pieces]
      split
      · simp
      · cases pieces p cs <;> simp [consHead]

theorem not_sep_of_mem_pieces {p : Char → Bool} {cs w : List Char} {c : Char}
    (hw : w ∈ pieces p cs) (hc : c ∈ w) : p c = false := by
  induction cs generalizing w with
  | nil => simp [pieces] at hw; simp [hw] at hc
  | cons d cs ih =>
      simp only [pieces] at hw
      split at hw
      · rcases List.mem_cons.1 hw with rfl | hw
        · simp at hc
        · exact ih hw hc
      · rename_i hd
        cases hps : pieces p cs with
        | nil => exact absurd hps (pieces_ne_nil p cs)
        | cons v vs =>
            rw [hps] at hw ih
            simp only [consHead, List.mem_cons] at hw
            rcases hw with rfl | hw
            · rcases List.mem_cons.1 hc with rfl | hc
              · simpa using hd
              · exact ih (List.mem_cons_self ..) hc
            · exact ih (List.mem_cons_of_mem _ hw) hc

def tokens (p : Char → Bool) (s : String) : List String :=
  ((pieces p s.toList).filter fun w => !w.isEmpty).map String.ofList

def words (s : String) : List String := tokens isBlank s

def lines (s : String) : List String := (pieces (· == '\n') s.toList).map String.ofList

def fields (s : String) : List String :=
  let inner (ws : List (List Char)) : List (List Char) :=
    match ws.getLast? with
    | some w => (ws.dropLast.filter fun v => !v.isEmpty) ++ [w]
    | none => []
  match pieces isBlank s.toList with
  | [] => []
  | w :: ws => (w :: inner ws).map String.ofList

def dropRightWhile (p : Char → Bool) (s : List Char) : List Char :=
  (s.reverse.dropWhile p).reverse

def trimRight (s : String) : String := .ofList (dropRightWhile isBlank s.toList)

def trim (s : String) : String := .ofList (dropRightWhile isBlank (s.toList.dropWhile isBlank))

def padRight (s : String) (width : Int) : String :=
  s ++ .ofList (List.replicate (width - s.length).toNat ' ')

theorem length_padRight (s : String) (width : Int) :
    ((padRight s width).length : Int) = max (s.length : Int) width := by
  simp only [padRight, String.length_append, String.length_ofList, List.length_replicate]
  omega

def startsWith (s : String) (start : String) : Bool := start.toList.isPrefixOf s.toList

def cutAt (c : Char) : List Char → Option (List Char × List Char)
  | [] => none
  | d :: ds => if d = c then some ([], ds) else (cutAt c ds).map fun (a, b) => (d :: a, b)

theorem eq_of_cutAt {c : Char} {s a b : List Char} (h : cutAt c s = some (a, b)) :
    s = a ++ c :: b ∧ c ∉ a := by
  induction s generalizing a with
  | nil => simp [cutAt] at h
  | cons d ds ih =>
      simp only [cutAt] at h
      split at h
      · simp only [Option.some.injEq, Prod.mk.injEq] at h
        obtain ⟨rfl, rfl⟩ := h
        simp_all
      · obtain ⟨⟨a', b'⟩, hcut, heq⟩ := Option.map_eq_some_iff.1 h
        simp only [Prod.mk.injEq] at heq
        obtain ⟨rfl, rfl⟩ := heq
        obtain ⟨rfl, hn⟩ := ih hcut
        refine ⟨rfl, ?_⟩
        simp only [List.mem_cons, not_or]
        exact ⟨fun hc => by simp_all, hn⟩

end Terminal.Text
