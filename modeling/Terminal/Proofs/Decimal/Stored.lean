import Terminal.Clock
import Terminal.Proofs.Decimal.Nearest

namespace Terminal

namespace Fraction

open Binary64

def value (a : Fraction) : ℚ := a.num / a.den

variable {a b x : Fraction} {y : ℚ}

theorem value_sub (ha : 0 < a.den) (hb : 0 < b.den) : (a.sub b).value = a.value - b.value := by
  have ha' : (a.den : ℚ) ≠ 0 := by exact_mod_cast ha.ne'
  have hb' : (b.den : ℚ) ≠ 0 := by exact_mod_cast hb.ne'
  simp only [value, sub]
  push_cast
  field_simp

theorem value_times (a : Fraction) (k : ℤ) : (a.times k).value = a.value * k := by
  simp only [value, times]
  push_cast
  ring

theorem isRounding_round (ha : 0 < a.den) : IsRounding a.value a.round := isRounding_roundHalfEven a.num ha

theorem held_of_stored (h : a.stored? = some x) : a.held = .ok x := by
  rw [held, h]

theorem abs_value (a : Fraction) : |a.value| = (Ratio.mk a.num.natAbs a.den).value := by
  rw [value, Ratio.value, abs_div, abs_of_nonneg (by positivity : (0 : ℚ) ≤ a.den), Nat.cast_natAbs]
  push_cast
  rfl

theorem value_neg_iff (ha : 0 < a.den) : a.value < 0 ↔ a.num < 0 := by
  have ha' : (0 : ℚ) < a.den := by exact_mod_cast ha
  rw [value, div_lt_iff₀ ha', zero_mul]
  norm_cast

theorem ofBinary?_finite (negative : Bool) (m : ℕ) (e : ℤ) :
    ∃ x, ofBinary? (.finite negative m e) = some x ∧ 0 < x.den ∧
      x.value = if negative then -((m : ℚ) * 2 ^ e) else m * 2 ^ e := by
  have hscale : (((Ratio.mk m 1).scale 2 e).num / ((Ratio.mk m 1).scale 2 e).den : ℚ) = m * 2 ^ e := by
    have hvalue := Ratio.value_scale two_pos (Ratio.mk m 1) e
    have hone : (Ratio.mk m 1).value = m := by simp [Ratio.value]
    rw [hone] at hvalue
    exact_mod_cast hvalue
  refine ⟨_, rfl, Ratio.den_scale_pos two_pos one_pos e, ?_⟩
  cases negative with
  | true => simp [value, neg_div, hscale]
  | false => simp [value, hscale]

theorem stored_cases (ha : 0 < a.den) (hnum : a.num ≠ 0) :
    ∃ (e : ℤ) (m : ℕ), IsLastPlace |a.value| e ∧ IsRounding (|a.value| * 2 ^ (-e)) m ∧
      ((a.stored? = none ∧ (e ≤ 971 → e = 971 ∧ m = 2 ^ 53)) ∨
        ∃ x, a.stored? = some x ∧ 0 < x.den ∧ IsValue x.value ∧
          |x.value - a.value| = |m * 2 ^ e - (|a.value|)|) := by
  obtain ⟨e, m, hplace, hround, hcases⟩ :=
    ofRatio_cases (r := ⟨a.num.natAbs, a.den⟩) (a.num < 0) (Int.natAbs_pos.2 hnum) ha
  rw [← abs_value] at hplace hround
  refine ⟨e, m, hplace, hround, ?_⟩
  rcases hcases with ⟨hinfinity, hbeyond⟩ | ⟨m', e', hfinite, hm', hleast, hlast, hvalue⟩
  · refine .inl ⟨?_, hbeyond⟩
    rw [stored?, hinfinity]
    rfl
  · obtain ⟨x, hx, hden, hxvalue⟩ := ofBinary?_finite (a.num < 0) m' e'
    refine .inr ⟨x, ?_, hden, ⟨m', e', hm', hleast, hlast, ?_⟩, ?_⟩
    · rw [stored?, hfinite, hx]
    · rw [hxvalue]
      split
      · rw [abs_neg, abs_of_nonneg (by positivity)]
      · rw [abs_of_nonneg (by positivity)]
    · rw [hxvalue, hvalue]
      by_cases hneg : a.num < 0
      · have hturned : -((m : ℚ) * 2 ^ e) - a.value = |a.value| - m * 2 ^ e := by
          rw [abs_of_neg ((value_neg_iff ha).2 hneg)]
          ring
        simp only [hneg, decide_true, if_true]
        rw [hturned, abs_sub_comm]
      · rw [abs_of_nonneg (not_lt.1 fun h => hneg ((value_neg_iff ha).1 h))]
        simp [hneg]

structure Keeps (a x : Fraction) : Prop where
  den : 0 < x.den
  isValue : IsValue x.value
  nearest : ∀ y, IsValue y → |x.value - a.value| ≤ |y - a.value|

theorem stored_zero (hnum : a.num = 0) : ∃ x, a.stored? = some x ∧ 0 < x.den ∧ x.value = 0 := by
  obtain ⟨x, hx, hden, hvalue⟩ := ofBinary?_finite false 0 leastExponent
  refine ⟨x, ?_, hden, by simpa using hvalue⟩
  rw [stored?, hnum]
  exact hx

theorem keeps_of_stored (ha : 0 < a.den) (h : a.stored? = some x) : a.Keeps x := by
  by_cases hnum : a.num = 0
  · obtain ⟨x', hx', hden, hvalue⟩ := stored_zero hnum
    cases hx'.symm.trans h
    have hzero : a.value = 0 := by simp [value, hnum]
    refine ⟨hden, hvalue ▸ isValue_zero, fun y _ => ?_⟩
    rw [hvalue, hzero, sub_zero, abs_zero]
    exact abs_nonneg _
  · obtain ⟨e, m, hplace, hround, ⟨hnone, -⟩ | ⟨x', hx', hden, hvalue, hdistance⟩⟩ := stored_cases ha hnum
    · cases hnone.symm.trans h
    · cases hx'.symm.trans h
      refine ⟨hden, hvalue, fun y hy => ?_⟩
      rw [hdistance]
      exact (hplace.nearest hround hy).trans (abs_abs_sub_abs_le _ _)

theorem exists_stored (ha : 0 < a.den) (hy : IsValue y) (h : |a.value| ≤ |y|) : ∃ x, a.stored? = some x := by
  by_cases hnum : a.num = 0
  · obtain ⟨x, hx, -⟩ := stored_zero hnum
    exact ⟨x, hx⟩
  · obtain ⟨e, m, hplace, hround, ⟨-, hbeyond⟩ | ⟨x, hx, -⟩⟩ := stored_cases ha hnum
    · obtain ⟨hle, hlt⟩ := hplace.not_beyond hround hy h
      obtain ⟨he, hm⟩ := hbeyond hle
      have hm' := hlt he
      omega
    · exact ⟨x, hx⟩

theorem error_of_stored (ha : 0 < a.den) (h : a.stored? = some x) (hlarge : (2 : ℚ) ^ (-1021 : ℤ) ≤ |a.value|) :
    |x.value - a.value| ≤ |a.value| / 2 ^ 53 := by
  have hnum : a.num ≠ 0 := by
    intro hzero
    have hvalue : a.value = 0 := by simp [value, hzero]
    rw [hvalue, abs_zero] at hlarge
    exact absurd hlarge (not_le.2 (by positivity))
  obtain ⟨e, m, hplace, hround, ⟨hnone, -⟩ | ⟨x', hx', -, -, hdistance⟩⟩ := stored_cases ha hnum
  · cases hnone.symm.trans h
  · cases hx'.symm.trans h
    have habove : (2 : ℚ) ^ (52 + e) ≤ |a.value| := by
      refine hplace.above.resolve_left ?_
      rintro rfl
      exact absurd hlarge (not_le.2 hplace.below)
    have hpow : (2 : ℚ) ^ e / 2 = 2 ^ (52 + e) / 2 ^ 53 := by
      rw [zpow_add₀ two_ne_zero]
      field_simp
    rw [hdistance]
    calc |(m : ℚ) * 2 ^ e - (|a.value|)| ≤ 2 ^ e / 2 := IsLastPlace.error hround
      _ = 2 ^ (52 + e) / 2 ^ 53 := hpow
      _ ≤ |a.value| / 2 ^ 53 := by gcongr

namespace Keeps

theorem le (h : a.Keeps x) (hy : IsValue y) (hya : y ≤ a.value) : y ≤ x.value := by
  by_contra hlt
  have hnearest := h.nearest y hy
  rw [abs_sub_comm, abs_of_nonneg (by linarith), abs_sub_comm, abs_of_nonneg (by linarith)] at hnearest
  linarith

theorem ge (h : a.Keeps x) (hy : IsValue y) (hay : a.value ≤ y) : x.value ≤ y := by
  by_contra hlt
  have hnearest := h.nearest y hy
  rw [abs_of_nonneg (by linarith), abs_of_nonneg (by linarith)] at hnearest
  linarith

theorem eq (h : a.Keeps x) (ha : IsValue a.value) : x.value = a.value :=
  le_antisymm (h.ge ha le_rfl) (h.le ha le_rfl)

theorem within (h : a.Keeps x) (hy : IsValue y) (hay : |a.value| ≤ y) : |x.value| ≤ y := by
  have hbounds := abs_le.1 hay
  exact abs_le.2 ⟨h.le (isValue_neg hy) hbounds.1, h.ge hy hbounds.2⟩

end Keeps

theorem exists_within {e : ℤ} (ha : 0 < a.den) (hleast : leastExponent ≤ e) (hlast : e ≤ 971)
    (hae : |a.value| ≤ 2 ^ e) : ∃ x, a.stored? = some x ∧ a.Keeps x ∧ |x.value| ≤ 2 ^ e := by
  have hpow := isValue_pow hleast hlast
  obtain ⟨x, hx⟩ := exists_stored ha hpow (hae.trans (le_abs_self _))
  have hkeeps := keeps_of_stored ha hx
  exact ⟨x, hx, hkeeps, hkeeps.within hpow hae⟩

theorem exists_exact (ha : 0 < a.den) (hvalue : IsValue a.value) :
    ∃ x, a.stored? = some x ∧ 0 < x.den ∧ x.value = a.value := by
  obtain ⟨x, hx⟩ := exists_stored ha hvalue le_rfl
  have hkeeps := keeps_of_stored ha hx
  exact ⟨x, hx, hkeeps.den, hkeeps.eq hvalue⟩

end Fraction

end Terminal
