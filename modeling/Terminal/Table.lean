namespace Terminal

abbrev Table (β : Type) := List (String × β)

namespace Table

variable {β : Type}

def get? : Table β → String → Option β
  | [], _ => none
  | (k, v) :: t, key => if k = key then some v else get? t key

def put : Table β → String → β → Table β
  | [], key, value => [(key, value)]
  | (k, v) :: t, key, value =>
    if k = key then (key, value) :: t
    else if key < k then (key, value) :: (k, v) :: t
    else (k, v) :: put t key value

def keys (t : Table β) : List String := t.map Prod.fst

def has (t : Table β) (key : String) : Bool := (t.get? key).isSome

def ofList (l : List (String × β)) : Table β := l.foldl (fun t e => t.put e.1 e.2) []

@[simp] theorem get?_put_self (t : Table β) (key : String) (value : β) :
    (t.put key value).get? key = some value := by
  induction t with
  | nil => simp [put, get?]
  | cons e t ih =>
      simp only [put]
      split
      · simp [get?]
      · split
        · simp [get?]
        · simp_all [get?]

theorem get?_put_of_ne (t : Table β) {key other : String} (value : β) (h : key ≠ other) :
    (t.put key value).get? other = t.get? other := by
  induction t with
  | nil => simp [put, get?, h]
  | cons e t ih =>
      simp only [put]
      split
      · simp_all [get?]
      · split
        · simp [get?, h]
        · simp only [get?, ih]

theorem has_put_self (t : Table β) (key : String) (value : β) : (t.put key value).has key := by
  simp [has]

theorem has_put {t : Table β} {key : String} (h : t.has key = true) (other : String) (value : β) :
    (t.put other value).has key = true := by
  by_cases hkey : other = key
  · subst hkey
    exact has_put_self t other value
  · rw [has, get?_put_of_ne t value hkey]
    exact h

theorem has_ofList {l : List (String × β)} {key : String} (h : key ∈ l.map Prod.fst) :
    (ofList l).has key = true := by
  have hfold (t : Table β) (ht : t.has key = true ∨ key ∈ l.map Prod.fst) :
      (l.foldl (fun t e => t.put e.1 e.2) t).has key = true := by
    clear h
    induction l generalizing t with
    | nil => exact ht.resolve_right (by simp)
    | cons e l ih =>
        refine ih _ ?_
        rcases ht with ht | ht
        · exact .inl (has_put ht e.1 e.2)
        · rcases List.mem_cons.1 ht with rfl | hl
          · exact .inl (has_put_self t e.1 e.2)
          · exact .inr hl
  exact hfold [] (.inr h)

end Table

end Terminal
