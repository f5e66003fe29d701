import Terminal.Proofs.Commands.Recounting

namespace Terminal

namespace Text

theorem digitValue?_of_isDigit {c : Char} (h : c.isDigit = true) : digitValue? c = some (c.toNat - '0'.toNat) := by
  have hbounds : 48 ≤ c.toNat ∧ c.toNat ≤ 57 := by
    simpa [Char.isDigit, UInt32.le_iff_toNat_le] using h
  exact if_pos hbounds

theorem exists_zero_of_isDigit {c : Char} (h : isDigit c = true) :
    ∃ first ∈ zeros, ∃ k < 10, c = Char.ofNat (first + k) := by
  rw [isDigit, digitValue?] at h
  split at h
  · rename_i hascii
    refine ⟨0x30, by simp [zeros], c.toNat - 48, by omega, ?_⟩
    have hcode : 0x30 + (c.toNat - 48) = c.toNat := by omega
    rw [hcode, Char.ofNat_toNat]
  · rw [Option.isSome_map] at h
    obtain ⟨first, hfirst⟩ := Option.isSome_iff_exists.1 h
    have hrange := List.find?_some hfirst
    simp only [Bool.and_eq_true, decide_eq_true_eq] at hrange
    refine ⟨first, List.mem_of_find?_eq_some hfirst, c.toNat - first, by omega, ?_⟩
    rw [Nat.add_sub_cancel' hrange.1, Char.ofNat_toNat]

theorem isBlank_eq_false {c : Char} (h : isDigit c = true) : isBlank c = false := by
  have htable : ∀ first ∈ zeros, ∀ k < 10, isBlank (Char.ofNat (first + k)) = false := by decide +kernel
  obtain ⟨first, hfirst, k, hk, rfl⟩ := exists_zero_of_isDigit h
  exact htable first hfirst k hk

section Digits

variable {n : Nat} {c : Char}

theorem digitValue?_of_mem_toDigits (h : c ∈ Nat.toDigits 10 n) : digitValue? c = some (c.toNat - '0'.toNat) :=
  digitValue?_of_isDigit (Nat.isDigit_of_mem_toDigits (by decide) (by decide) h)

theorem isDigit_of_mem_toDigits (h : c ∈ Nat.toDigits 10 n) : isDigit c = true := by
  rw [isDigit, digitValue?_of_mem_toDigits h]
  rfl

theorem readDigits_toDigits (n : Nat) : readDigits (Nat.toDigits 10 n) = n := by
  have hstep (m : Nat) (c : Char) (hc : c ∈ Nat.toDigits 10 n) :
      m * 10 + (digitValue? c).getD 0 = 10 * m + (c.toNat - '0'.toNat) := by
    rw [digitValue?_of_mem_toDigits hc, Option.getD_some, Nat.mul_comm]
  calc readDigits (Nat.toDigits 10 n) = Nat.ofDigitChars 10 (Nat.toDigits 10 n) 0 := List.foldl_ext _ _ _ hstep
    _ = n := Nat.ofDigitChars_ten_toDigits

theorem toList_toString (z : Int) :
    (toString z).toList = (if z < 0 then ['-'] else []) ++ Nat.toDigits 10 z.natAbs := by
  rw [Int.toString_eq_repr, Int.repr_eq_if]
  by_cases hz : z < 0
  · have habs : (-z).toNat = z.natAbs := by omega
    rw [if_neg (by omega), if_pos hz, String.toList_append, Nat.toList_repr, habs]
    rfl
  · have habs : z.toNat = z.natAbs := by omega
    rw [if_pos (by omega), if_neg hz, Nat.toList_repr, habs, List.nil_append]

end Digits

end Text

namespace Arguments

def marks : List (List Char) := [[], ['+'], ['-']]

def Numeric (text : String) : Prop :=
  ∃ blanks, (∀ c ∈ blanks, Text.isBlank c = true) ∧ ∃ mark ∈ marks, ∃ d rest,
    Text.isDigit d = true ∧ text.toList = blanks ++ mark ++ d :: rest

theorem exists_mark (cs : List Char) : ∃ mark ∈ marks, cs = mark ++ (sign cs).2 := by
  rw [sign.eq_def]
  split
  · exact ⟨['-'], by simp [marks], rfl⟩
  · exact ⟨['+'], by simp [marks], rfl⟩
  · exact ⟨[], by simp [marks], rfl⟩

theorem sign_of_isDigit {d : Char} (h : Text.isDigit d = true) (cs : List Char) :
    sign (d :: cs) = (false, d :: cs) := by
  rw [sign.eq_def]
  split
  · rename_i heq
    cases heq
    exact absurd h (by decide)
  · rename_i heq
    cases heq
    exact absurd h (by decide)
  · rfl

theorem numeric_of_leadingDigits {text : String} {d : Char} {ds : List Char} (h : leadingDigits text = d :: ds) :
    Numeric text := by
  obtain ⟨mark, hmark, hcut⟩ := exists_mark (text.toList.dropWhile Text.isBlank)
  rw [leadingDigits] at h
  generalize (sign (text.toList.dropWhile Text.isBlank)).2 = cs at h hcut
  have hd : Text.isDigit d = true := List.mem_takeWhile_imp (l := cs) (by rw [h]; exact List.mem_cons_self)
  obtain ⟨rest, hrest⟩ := List.takeWhile_prefix (l := cs) Text.isDigit
  refine ⟨text.toList.takeWhile Text.isBlank, fun c => List.mem_takeWhile_imp, mark, hmark, d, ds ++ rest, hd, ?_⟩
  calc text.toList = text.toList.takeWhile Text.isBlank ++ text.toList.dropWhile Text.isBlank :=
        List.takeWhile_append_dropWhile.symm
    _ = text.toList.takeWhile Text.isBlank ++ (mark ++ (d :: ds ++ rest)) := by rw [hcut, ← hrest, h]
    _ = text.toList.takeWhile Text.isBlank ++ mark ++ d :: (ds ++ rest) := by simp

theorem sign_dropWhile {blanks mark : List Char} {d : Char} (hblanks : ∀ c ∈ blanks, Text.isBlank c = true)
    (hmark : mark ∈ marks) (hd : Text.isDigit d = true) (rest : List Char) :
    sign ((blanks ++ mark ++ d :: rest).dropWhile Text.isBlank) = (mark == ['-'], d :: rest) := by
  rw [List.append_assoc, List.dropWhile_append_of_pos hblanks]
  simp only [marks, List.mem_cons, List.not_mem_nil, or_false] at hmark
  rcases hmark with rfl | rfl | rfl
  · rw [List.nil_append, List.dropWhile_cons_of_neg (by simp [Text.isBlank_eq_false hd]), sign_of_isDigit hd]
    rfl
  · rfl
  · rfl

theorem numeric_iff {text : String} : Numeric text ↔ leadingDigits text ≠ [] := by
  constructor
  · rintro ⟨blanks, hblanks, mark, hmark, d, rest, hd, htext⟩
    rw [leadingDigits, htext, sign_dropWhile hblanks hmark hd, List.takeWhile_cons_of_pos hd]
    exact List.cons_ne_nil _ _
  · intro h
    obtain ⟨d, ds, hdigits⟩ := List.exists_cons_of_ne_nil h
    exact numeric_of_leadingDigits hdigits

instance : DecidablePred Numeric := fun _ => decidable_of_iff _ numeric_iff.symm

theorem leadingInt_of_not_numeric {text : String} (h : ¬ Numeric text) : leadingInt text = .ok none := by
  have hdigits : leadingDigits text = [] := not_not.1 fun hne => h (numeric_iff.2 hne)
  rw [leadingInt_of_few (by simp [hdigits]), written?, hdigits]
  rfl

section Decimal

variable {blanks tail : String} (hblanks : ∀ c ∈ blanks.toList, Text.isBlank c = true)
  (htail : ∀ c ∈ tail.toList.head?, Text.isDigit c = false) (z : Int)
include hblanks

theorem sign_decimal : sign ((blanks ++ toString z ++ tail).toList.dropWhile Text.isBlank) =
    (decide (z < 0), Nat.toDigits 10 z.natAbs ++ tail.toList) := by
  obtain ⟨d, ds, hdigits⟩ := List.exists_cons_of_ne_nil (Nat.toDigits_ne_nil (n := z.natAbs) (b := 10))
  have hd : Text.isDigit d = true := Text.isDigit_of_mem_toDigits (hdigits ▸ List.mem_cons_self)
  have hmark : (if z < 0 then ['-'] else []) ∈ marks := by split <;> simp [marks]
  have hparts : (blanks ++ toString z ++ tail).toList =
      blanks.toList ++ (if z < 0 then ['-'] else []) ++ d :: (ds ++ tail.toList) := by
    rw [String.toList_append, String.toList_append, Text.toList_toString, hdigits]
    simp only [List.append_assoc, List.cons_append]
  rw [hparts, sign_dropWhile hblanks hmark hd, hdigits, List.cons_append]
  by_cases hz : z < 0 <;> simp [hz]

include htail

theorem leadingDigits_decimal : leadingDigits (blanks ++ toString z ++ tail) = Nat.toDigits 10 z.natAbs := by
  have hnone : tail.toList.takeWhile Text.isDigit = [] := by
    cases hcs : tail.toList with
    | nil => rfl
    | cons c cs => exact List.takeWhile_cons_of_neg (by simp [htail c (by simp [hcs])])
  rw [leadingDigits, sign_decimal hblanks, List.takeWhile_append_of_pos fun c => Text.isDigit_of_mem_toDigits, hnone,
    List.append_nil]

theorem leadingInt_decimal (hfew : (toString z.natAbs).length ≤ digitLimit) :
    leadingInt (blanks ++ toString z ++ tail) = .ok (some z) := by
  have hdigits := leadingDigits_decimal hblanks htail z
  have hlength : (Nat.toDigits 10 z.natAbs).length ≤ digitLimit := by
    rwa [Nat.toString_eq_repr, ← String.length_toList, Nat.toList_repr] at hfew
  have hsome : ¬ (Nat.toDigits 10 z.natAbs).isEmpty = true := by simp [Nat.toDigits_ne_nil]
  rw [leadingInt_of_few (by rwa [hdigits]), written?, hdigits, sign_decimal hblanks, Text.readDigits_toDigits,
    if_neg hsome]
  by_cases hz : z < 0
  · rw [if_pos (decide_eq_true hz), Int.ofNat_natAbs_of_nonpos hz.le, neg_neg]
  · rw [if_neg (by simpa using hz), Int.natAbs_of_nonneg (Int.not_lt.1 hz)]

end Decimal

variable {flag value usage : String} {default : Int} {before : List String}

theorem countOption_value (h : flag ∉ before) (value : String) (rest : List String) (default : Int) (usage : String) :
    countOption (before ++ [flag, value] ++ rest) flag default usage =
      match leadingInt value with
      | .error f => .error (.fault f)
      | .ok n? => .ok ⟨max 1 (if n?.getD 0 = 0 then default else n?.getD 0), before ++ rest⟩ := by
  rw [List.append_assoc, List.cons_append, List.singleton_append, countOption, takeOption_append h]
  rfl

theorem countOption_usage_iff {args : List String} {text : String} :
    countOption args flag default usage = .error (.usage text) ↔
      text = usage ∧ ∃ before, flag ∉ before ∧ args = before ++ [flag] := by
  constructor
  · intro h
    by_cases hflag : flag ∈ args
    · obtain ⟨before, after, rfl, hbefore⟩ := List.eq_append_cons_of_mem hflag
      cases after with
      | nil =>
          rw [countOption, takeOption_append hbefore] at h
          cases h
          exact ⟨rfl, before, hbefore, rfl⟩
      | cons value rest =>
          have hvalue := countOption_value hbefore value rest default usage
          rw [List.append_assoc, List.cons_append, List.singleton_append, h] at hvalue
          cases hread : leadingInt value <;> simp [hread] at hvalue
    · rw [countOption_of_not_mem hflag] at h
      cases h
  · rintro ⟨rfl, before, hbefore, rfl⟩
    rw [countOption, takeOption_append hbefore]
    rfl

/-- Wherever the flag and its value stand first, the count is the number that the value begins with. Nothing is read of
what follows the number, none and zero ask for the default, and only a flag without a value is refused by the usage. -/
theorem count_decoded (hdefault : 1 ≤ default) (flag usage : String) :
    (∀ (z : Int) (blanks tail : String), (toString z.natAbs).length ≤ digitLimit →
      (∀ c ∈ blanks.toList, Text.isBlank c = true) → (∀ c ∈ tail.toList.head?, Text.isDigit c = false) →
      leadingInt (blanks ++ toString z ++ tail) = .ok (some z) ∧
      ∀ before rest, flag ∉ before →
        countOption (before ++ [flag, blanks ++ toString z ++ tail] ++ rest) flag default usage =
          .ok ⟨if z = 0 then default else max 1 z, before ++ rest⟩) ∧
    (∀ value before rest, ¬ Numeric value → flag ∉ before →
      countOption (before ++ [flag, value] ++ rest) flag default usage = .ok ⟨default, before ++ rest⟩) ∧
    ∀ args text, countOption args flag default usage = .error (.usage text) ↔
      text = usage ∧ ∃ before, flag ∉ before ∧ args = before ++ [flag] := by
  refine ⟨fun z blanks tail hfew hblanks htail => ?_, fun value before rest hvalue hbefore => ?_,
    fun args text => countOption_usage_iff⟩
  · have hread := leadingInt_decimal hblanks htail z hfew
    refine ⟨hread, fun before rest hbefore => ?_⟩
    rw [countOption_value hbefore, hread]
    dsimp only [Option.getD_some]
    by_cases hz : z = 0
    · rw [if_pos hz, if_pos hz, max_eq_right hdefault]
    · rw [if_neg hz, if_neg hz]
  · rw [countOption_value hbefore, leadingInt_of_not_numeric hvalue]
    dsimp only [Option.getD_none]
    rw [if_pos rfl, max_eq_right hdefault]

theorem twelve_decoded :
    leadingInt "\t12x" = .ok (some 12) ∧
      countOption ["notes", "-n", "\t12x", "-n", "9"] "-n" 10 "head" = .ok ⟨12, ["notes", "-n", "9"]⟩ ∧
      countOption ["notes", "-n", " -x9"] "-n" 10 "head" = .ok ⟨10, ["notes"]⟩ := by
  obtain ⟨hnumber, hother, -⟩ := count_decoded (show (1 : Int) ≤ 10 by decide) "-n" "head"
  have hblank : Text.isBlank '\t' = true := by decide +kernel
  have hdigit : Text.isDigit 'x' = false := by decide +kernel
  obtain ⟨hread, hcount⟩ := hnumber 12 "\t" "x" (by decide +kernel) (by simpa using hblank) (by simpa using hdigit)
  refine ⟨hread, hcount ["notes"] ["-n", "9"] (by decide), hother " -x9" ["notes"] [] (by decide +kernel) (by decide)⟩

end Arguments

end Terminal
