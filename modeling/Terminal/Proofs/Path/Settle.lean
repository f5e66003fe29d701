import Terminal.Proofs.Path.Split

namespace Terminal.Path

def IsPlain (part : String) : Prop := part ≠ "." ∧ part ≠ ".."

instance : DecidablePred IsPlain := fun part => inferInstanceAs (Decidable (part ≠ "." ∧ part ≠ ".."))

theorem settle_append (stack a b : List String) :
    settle stack (a ++ b) = settle (settle stack a).reverse b := by
  induction a generalizing stack with
  | nil => simp [settle]
  | cons part a ih =>
      simp only [List.cons_append, settle]
      split
      · exact ih stack
      · split
        · exact ih stack.tail
        · exact ih (part :: stack)

theorem settle_eq_append {parts : List String} (stack : List String) (h : ∀ part ∈ parts, IsPlain part) :
    settle stack parts = stack.reverse ++ parts := by
  induction parts generalizing stack with
  | nil => simp [settle]
  | cons part parts ih =>
      obtain ⟨hd, hdd⟩ := h part (List.mem_cons_self ..)
      rw [settle, if_neg hd, if_neg hdd, ih _ fun q hq => h q (List.mem_cons_of_mem _ hq)]
      simp

theorem settle_eq_self {parts : List String} (h : ∀ part ∈ parts, IsPlain part) :
    settle [] parts = parts := by
  rw [settle_eq_append [] h]
  rfl

theorem mem_settle {stack parts : List String} {part : String} (h : part ∈ settle stack parts) :
    part ∈ stack ∨ part ∈ parts ∧ IsPlain part := by
  induction parts generalizing stack with
  | nil => exact .inl (List.mem_reverse.1 h)
  | cons q parts ih =>
      rw [settle] at h
      by_cases hd : q = "."
      · rw [if_pos hd] at h
        rcases ih h with hs | ⟨hp, hplain⟩
        · exact .inl hs
        · exact .inr ⟨List.mem_cons_of_mem _ hp, hplain⟩
      · by_cases hdd : q = ".."
        · rw [if_neg hd, if_pos hdd] at h
          rcases ih h with hs | ⟨hp, hplain⟩
          · exact .inl (List.mem_of_mem_tail hs)
          · exact .inr ⟨List.mem_cons_of_mem _ hp, hplain⟩
        · rw [if_neg hd, if_neg hdd] at h
          rcases ih h with hs | ⟨hp, hplain⟩
          · rcases List.mem_cons.1 hs with rfl | hs
            · exact .inr ⟨List.mem_cons_self .., hd, hdd⟩
            · exact .inl hs
          · exact .inr ⟨List.mem_cons_of_mem _ hp, hplain⟩

theorem isComponent_of_mem_settle {parts : List String} (hn : ∀ part ∈ parts, IsName part)
    {part : String} (h : part ∈ settle [] parts) : IsComponent part := by
  rcases mem_settle h with hs | ⟨hp, hplain⟩
  · exact absurd hs List.not_mem_nil
  · exact isComponent_iff.2 ⟨hn part hp, hplain⟩

theorem canonical_normalize (path : String) : Canonical (normalize path) :=
  ⟨settle [] (split path), fun _ hpart => isComponent_of_mem_settle (fun _ => isName_of_mem_split) hpart, rfl⟩

theorem settle_concat_of_isPlain (parts : List String) {name : String} (h : IsPlain name) :
    settle [] (parts ++ [name]) = settle [] parts ++ [name] := by
  rw [settle_append, settle_eq_append _ (by simpa using h), List.reverse_reverse]

theorem settle_concat_up (parts : List String) :
    settle [] (parts ++ [".."]) = (settle [] parts).dropLast := by
  rw [settle_append]
  simp [settle]

theorem resolve_of_startsWith {cwd path : String} (h : Text.startsWith path "/" = true) :
    resolve cwd path = path := by
  have hne : path ≠ "" := fun he => by simp [he, Text.startsWith] at h
  have hd : path ≠ "." := fun he => by simp [he, Text.startsWith] at h
  rw [resolve, if_neg (not_or.2 ⟨hne, hd⟩), if_pos h]

@[simp] theorem resolve_absolute (cwd : String) (parts : List String) :
    resolve cwd (absolute parts) = absolute parts :=
  resolve_of_startsWith (startsWith_absolute parts)

theorem not_startsWith_of_isName {name : String} (h : IsName name) :
    Text.startsWith name "/" = false := by
  cases hs : Text.startsWith name "/" with
  | false => rfl
  | true =>
      have hp : ['/'] <+: name.toList := List.isPrefixOf_iff_prefix.1 hs
      have hmem : '/' ∈ name.toList := hp.subset (List.mem_singleton.2 rfl)
      exact absurd (h.2 '/' hmem) (by decide)

theorem resolve_name {base name : String} (h : IsName name) (hd : name ≠ ".") :
    resolve base name = absolute (settle [] (split base ++ [name])) := by
  have hs : ¬ Text.startsWith name "/" = true := by simp [not_startsWith_of_isName h]
  rw [resolve, if_neg (not_or.2 ⟨h.1, hd⟩), if_neg hs, split_name h]

theorem resolve_dot {base : String} (h : base ≠ "") : resolve base "." = base := by
  rw [resolve, if_pos (.inr rfl), if_neg h]

theorem absolute_ne_empty (parts : List String) : absolute parts ≠ "" := by
  intro h
  have := congrArg String.length h
  simp [absolute] at this

theorem resolve_ne_empty (cwd path : String) : resolve cwd path ≠ "" := by
  rw [resolve]
  split
  · split
    · decide
    · assumption
  · split
    · rename_i hne _
      exact fun he => hne (.inl he)
    · exact absolute_ne_empty _

theorem startsWith_resolve {cwd : String} (h : Canonical cwd) (path : String) :
    Text.startsWith (resolve cwd path) "/" = true := by
  obtain ⟨parts, -, rfl⟩ := h
  rw [resolve]
  split
  · rw [if_neg (absolute_ne_empty parts)]
    exact startsWith_absolute parts
  · split
    · assumption
    · exact startsWith_absolute _

end Terminal.Path
