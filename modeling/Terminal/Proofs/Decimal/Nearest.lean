import Mathlib.Algebra.Order.Field.Power
import Mathlib.Tactic.NormNum
import Mathlib.Tactic.Positivity
import Terminal.Decimal.Binary64
import Terminal.Proofs.Decimal.Rounding

namespace Terminal

namespace Ratio

def value (r : Ratio) : ℚ := r.num / r.den

variable {r a b : Ratio}

theorem value_nonneg (r : Ratio) : 0 ≤ r.value := by
  rw [value]
  positivity

theorem value_scale {base : ℕ} (hbase : 0 < base) (r : Ratio) (e : ℤ) :
    (r.scale base e).value = r.value * (base : ℚ) ^ e := by
  have hne : (base : ℚ) ≠ 0 := by exact_mod_cast hbase.ne'
  rw [scale]
  split
  · rename_i he
    obtain ⟨n, rfl⟩ := Int.eq_ofNat_of_zero_le he
    simp only [value, Nat.pow_eq, Int.toNat_natCast, Nat.cast_mul, Nat.cast_pow, zpow_natCast]
    ring
  · rename_i he
    obtain ⟨n, hn⟩ := Int.eq_ofNat_of_zero_le (by omega : 0 ≤ -e)
    obtain rfl : e = -n := by omega
    simp only [value, Nat.pow_eq, neg_neg, Int.toNat_natCast, Nat.cast_mul, Nat.cast_pow, zpow_neg, zpow_natCast]
    field_simp

theorem den_scale_pos {base : ℕ} (hbase : 0 < base) (hr : 0 < r.den) (e : ℤ) : 0 < (r.scale base e).den := by
  rw [scale]
  split
  · exact hr
  · exact Nat.mul_pos hr (Nat.pow_pos hbase)

theorem le_iff (ha : 0 < a.den) (hb : 0 < b.den) : a.le b = true ↔ a.value ≤ b.value := by
  have ha' : (0 : ℚ) < a.den := by exact_mod_cast ha
  have hb' : (0 : ℚ) < b.den := by exact_mod_cast hb
  rw [le, decide_eq_true_iff, value, value, div_le_div_iff₀ ha' hb']
  norm_cast

theorem isRounding_round (hr : 0 < r.den) : IsRounding r.value r.round := by
  have hrounding := isRounding_roundHalfEven r.num hr
  have hvalue : ((r.num : ℤ) / r.den : ℚ) = r.value := by rw [value, Int.cast_natCast]
  rw [hvalue] at hrounding
  have hnonneg : 0 ≤ roundHalfEven r.num r.den := hrounding.le (by exact_mod_cast r.value_nonneg)
  rw [round, Int.toNat_of_nonneg hnonneg]
  exact hrounding

theorem two_zpow_le_value (hnum : 0 < r.num) (hden : 0 < r.den) :
    (2 : ℚ) ^ ((r.num.log2 : ℤ) - r.den.log2 - 1) ≤ r.value := by
  have hden' : (0 : ℚ) < r.den := by exact_mod_cast hden
  have hd : (r.den : ℚ) ≤ 2 ^ ((r.den.log2 : ℤ) + 1) := by
    exact_mod_cast (Nat.lt_log2_self (n := r.den)).le
  have hn : (2 : ℚ) ^ (r.num.log2 : ℤ) ≤ r.num := by
    exact_mod_cast Nat.log2_self_le hnum.ne'
  rw [value, le_div_iff₀ hden']
  calc (2 : ℚ) ^ ((r.num.log2 : ℤ) - r.den.log2 - 1) * r.den
      ≤ 2 ^ ((r.num.log2 : ℤ) - r.den.log2 - 1) * 2 ^ ((r.den.log2 : ℤ) + 1) := by gcongr
    _ = 2 ^ (r.num.log2 : ℤ) := by
      rw [← zpow_add₀ two_ne_zero]
      congr 1
      omega
    _ ≤ r.num := hn

theorem value_lt_two_zpow (r : Ratio) (hden : 0 < r.den) :
    r.value < 2 ^ ((r.num.log2 : ℤ) - r.den.log2 + 1) := by
  have hden' : (0 : ℚ) < r.den := by exact_mod_cast hden
  have hd : (2 : ℚ) ^ (r.den.log2 : ℤ) ≤ r.den := by
    exact_mod_cast Nat.log2_self_le hden.ne'
  have hn : (r.num : ℚ) < 2 ^ ((r.num.log2 : ℤ) + 1) := by
    exact_mod_cast Nat.lt_log2_self (n := r.num)
  rw [value, div_lt_iff₀ hden']
  calc (r.num : ℚ) < 2 ^ ((r.num.log2 : ℤ) + 1) := hn
    _ = 2 ^ ((r.num.log2 : ℤ) - r.den.log2 + 1) * 2 ^ (r.den.log2 : ℤ) := by
      rw [← zpow_add₀ two_ne_zero]
      congr 1
      omega
    _ ≤ 2 ^ ((r.num.log2 : ℤ) - r.den.log2 + 1) * r.den := by gcongr

theorem two_zpow_le_iff (hden : 0 < r.den) (e : ℤ) : ((mk 1 1).scale 2 e).le r = true ↔ (2 : ℚ) ^ e ≤ r.value := by
  have hone : (mk 1 1).value = 1 := by norm_num [value]
  rw [le_iff (den_scale_pos two_pos one_pos e) hden, value_scale two_pos, hone, one_mul]
  norm_cast

end Ratio

namespace Binary64

def lastPlace (r : Ratio) : ℤ :=
  let e : ℤ := r.num.log2 - r.den.log2 - 53
  max (if (Ratio.mk 1 1 |>.scale 2 (53 + e)).le r then e + 1 else e) leastExponent

structure IsLastPlace (x : ℚ) (e : ℤ) : Prop where
  least : leastExponent ≤ e
  below : x < 2 ^ (53 + e)
  above : e = leastExponent ∨ (2 : ℚ) ^ (52 + e) ≤ x

theorem exists_lastPlace {r : Ratio} (hnum : 0 < r.num) (hden : 0 < r.den) :
    ∃ e, lastPlace r = max e leastExponent ∧ (2 : ℚ) ^ (52 + e) ≤ r.value ∧ r.value < 2 ^ (53 + e) := by
  have hlow := Ratio.two_zpow_le_value hnum hden
  have hhigh := Ratio.value_lt_two_zpow r hden
  generalize hlength : (r.num.log2 : ℤ) - r.den.log2 = l at hlow hhigh
  have hplace : lastPlace r =
      max (if ((Ratio.mk 1 1).scale 2 l).le r then l - 52 else l - 53) leastExponent := by
    have hl : 53 + (l - 53) = l := by omega
    have hnext : l - 53 + 1 = l - 52 := by omega
    simp only [lastPlace, hlength, hl, hnext]
  rw [hplace]
  -- the difference of the lengths is exact or one too large, which the comparison finds out
  split
  · rename_i hle
    refine ⟨l - 52, rfl, ?_, ?_⟩
    · rw [show 52 + (l - 52) = l by omega]
      exact (Ratio.two_zpow_le_iff hden l).1 hle
    · rw [show 53 + (l - 52) = l + 1 by omega]
      exact hhigh
  · rename_i hle
    refine ⟨l - 53, rfl, ?_, ?_⟩
    · rw [show 52 + (l - 53) = l - 1 by omega]
      exact hlow
    · rw [show 53 + (l - 53) = l by omega]
      exact not_le.1 fun h => hle ((Ratio.two_zpow_le_iff hden l).2 h)

theorem isLastPlace_lastPlace {r : Ratio} (hnum : 0 < r.num) (hden : 0 < r.den) :
    IsLastPlace r.value (lastPlace r) := by
  obtain ⟨e, he, habove, hbelow⟩ := exists_lastPlace hnum hden
  rw [he]
  refine ⟨le_max_right _ _, hbelow.trans_le ?_, ?_⟩
  · exact zpow_le_zpow_right₀ one_le_two (by omega)
  · rcases max_choice e leastExponent with hmax | hmax
    · rw [hmax]
      exact .inr habove
    · exact .inl hmax

def IsValue (y : ℚ) : Prop :=
  ∃ (m : ℕ) (e : ℤ), m < 2 ^ 53 ∧ leastExponent ≤ e ∧ e ≤ 971 ∧ |y| = m * 2 ^ e

theorem isValue_zero : IsValue 0 := ⟨0, 0, by norm_num, by decide, by decide, by simp⟩

theorem isValue_scaled {n : ℤ} (hn : n.natAbs < 2 ^ 53) {e : ℤ} (hleast : leastExponent ≤ e) (hlast : e ≤ 971) :
    IsValue (n * 2 ^ e) := by
  refine ⟨n.natAbs, e, hn, hleast, hlast, ?_⟩
  rw [abs_mul, abs_of_nonneg (by positivity : (0 : ℚ) ≤ 2 ^ e), Nat.cast_natAbs]
  push_cast
  rfl

theorem isValue_int {n : ℤ} (hn : n.natAbs < 2 ^ 53) : IsValue n := by
  have hscaled := isValue_scaled hn (e := 0) (by decide) (by decide)
  rwa [zpow_zero, mul_one] at hscaled

theorem isValue_pow {e : ℤ} (hleast : leastExponent ≤ e) (hlast : e ≤ 971) : IsValue (2 ^ e) := by
  have hscaled := isValue_scaled (n := 1) (by decide) hleast hlast
  rwa [Int.cast_one, one_mul] at hscaled

theorem isValue_neg {y : ℚ} (h : IsValue y) : IsValue (-y) := by
  rwa [IsValue, abs_neg]

theorem isValue_round {x : ℚ} {n : ℤ} (hx : IsValue x) (hn : IsRounding x n) : IsValue n := by
  obtain ⟨m, e, hm, hleast, hlast, habs⟩ := hx
  rcases le_or_gt 0 e with he | he
  · -- the number is whole already
    obtain ⟨k, rfl⟩ := Int.eq_ofNat_of_zero_le he
    rw [zpow_natCast] at habs
    have hwhole : ∃ a : ℤ, (a : ℚ) = x := by
      rcases eq_or_eq_neg_of_abs_eq habs with hx | hx
      · exact ⟨m * 2 ^ k, by rw [hx]; push_cast; rfl⟩
      · exact ⟨-(m * 2 ^ k), by rw [hx]; push_cast; rfl⟩
    obtain ⟨a, rfl⟩ := hwhole
    obtain rfl : n = a := le_antisymm (hn.ge le_rfl) (hn.le le_rfl)
    exact ⟨m, k, hm, hleast, hlast, by rw [habs, zpow_natCast]⟩
  · have hsmall : |x| ≤ ((2 ^ 52 : ℤ) : ℚ) := by
      have hm' : (m : ℚ) ≤ 2 ^ 53 := by exact_mod_cast hm.le
      calc |x| = m * 2 ^ e := habs
        _ ≤ 2 ^ 53 * 2 ^ (-1 : ℤ) := by
          gcongr
          · exact one_le_two
          · omega
        _ = ((2 ^ 52 : ℤ) : ℚ) := by norm_num
    have hbounds := abs_le.1 hsmall
    have hupper := hn.ge hbounds.2
    have hlower : -2 ^ 52 ≤ n := hn.le (by exact_mod_cast hbounds.1)
    exact isValue_int (by omega)

namespace IsLastPlace

variable {x y : ℚ} {e : ℤ} {m : ℤ}

theorem round_le (h : IsLastPlace x e) (hm : IsRounding (x * 2 ^ (-e)) m) : m ≤ 2 ^ 53 := by
  refine hm.ge ?_
  calc x * 2 ^ (-e) ≤ 2 ^ (53 + e) * 2 ^ (-e) := by
        gcongr
        exact h.below.le
    _ = 2 ^ (53 : ℤ) := by rw [← zpow_add₀ two_ne_zero, add_neg_cancel_right]
    _ = ((2 ^ 53 : ℤ) : ℚ) := by norm_num

theorem le_of_lt {c : ℕ} {k : ℤ} (h : IsLastPlace x e) (hc : c < 2 ^ 53) (hk : leastExponent ≤ k) (hke : k < e) :
    (c : ℚ) * 2 ^ k < 2 ^ (52 + e) ∧ (2 : ℚ) ^ (52 + e) ≤ x := by
  refine ⟨?_, h.above.resolve_left (by omega)⟩
  have hc' : (c : ℚ) < 2 ^ (53 : ℤ) := by exact_mod_cast hc
  calc (c : ℚ) * 2 ^ k < 2 ^ (53 : ℤ) * 2 ^ k := by gcongr
    _ = 2 ^ (53 + k) := (zpow_add₀ two_ne_zero _ _).symm
    _ ≤ 2 ^ (52 + e) := zpow_le_zpow_right₀ one_le_two (by omega)

theorem distance_eq (x : ℚ) (e a : ℤ) : |a * 2 ^ e - x| = |x * 2 ^ (-e) - a| * 2 ^ e := by
  have hpos : (0 : ℚ) < 2 ^ e := by positivity
  have hcommon : (x * 2 ^ (-e) - a) * 2 ^ e = x - a * 2 ^ e := by
    rw [zpow_neg]
    field_simp
  rw [← abs_of_pos hpos, ← abs_mul, abs_of_pos hpos, hcommon, abs_sub_comm]

theorem error (hm : IsRounding (x * 2 ^ (-e)) m) : |m * 2 ^ e - x| ≤ 2 ^ e / 2 := by
  have hpos : (0 : ℚ) < 2 ^ e := by positivity
  have hscaled := mul_le_mul_of_nonneg_right hm.near hpos.le
  rw [distance_eq]
  linarith

theorem nearest (h : IsLastPlace x e) (hm : IsRounding (x * 2 ^ (-e)) m) (hy : IsValue y) :
    |m * 2 ^ e - x| ≤ |(|y| - x)| := by
  have hgrid (a : ℤ) : |m * 2 ^ e - x| ≤ |a * 2 ^ e - x| := by
    rw [distance_eq, distance_eq]
    exact mul_le_mul_of_nonneg_right (hm.nearest a) (by positivity)
  obtain ⟨c, k, hc, hk, -, hy⟩ := hy
  rcases le_or_gt e k with hek | hke
  · -- the other number has all its digits in these places
    obtain ⟨n, hn⟩ := Int.eq_ofNat_of_zero_le (by omega : 0 ≤ k - e)
    have hmultiple : |y| = ((c * 2 ^ n : ℕ) : ℤ) * 2 ^ e := by
      rw [hy, show k = n + e by omega, zpow_add₀ two_ne_zero, zpow_natCast]
      push_cast
      ring
    rw [hmultiple]
    exact hgrid _
  · obtain ⟨hbelow, habove⟩ := h.le_of_lt hc hk hke
    have hedge := hgrid (2 ^ 52)
    have hpow : ((2 ^ 52 : ℤ) : ℚ) * 2 ^ e = 2 ^ (52 + e) := by
      rw [zpow_add₀ two_ne_zero]
      norm_num
    have hedge' : |(2 : ℚ) ^ (52 + e) - x| = x - 2 ^ (52 + e) := by
      rw [abs_sub_comm, abs_of_nonneg (by linarith)]
    have hother : |(c : ℚ) * 2 ^ k - x| = x - c * 2 ^ k := by
      rw [abs_sub_comm, abs_of_nonneg (by linarith)]
    rw [hpow, hedge'] at hedge
    rw [hy, hother]
    linarith

theorem not_beyond (h : IsLastPlace x e) (hm : IsRounding (x * 2 ^ (-e)) m) (hy : IsValue y) (hxy : x ≤ |y|) :
    e ≤ 971 ∧ (e = 971 → m < 2 ^ 53) := by
  obtain ⟨c, k, hc, hk, hlast, hy⟩ := hy
  have hek : e ≤ k := by
    by_contra hke
    obtain ⟨hbelow, habove⟩ := h.le_of_lt hc hk (by omega)
    linarith
  refine ⟨hek.trans hlast, ?_⟩
  rintro rfl
  obtain rfl : k = 971 := by omega
  have hmc : m ≤ c := by
    refine hm.ge ?_
    have hpow : (2 : ℚ) ^ (971 : ℤ) * 2 ^ (-971 : ℤ) = 1 := by
      rw [← zpow_add₀ two_ne_zero, add_neg_cancel, zpow_zero]
    calc x * 2 ^ (-971 : ℤ) ≤ c * 2 ^ (971 : ℤ) * 2 ^ (-971 : ℤ) := by
          rw [← hy]
          gcongr
      _ = c := by rw [mul_assoc, hpow, mul_one]
  omega

end IsLastPlace

theorem ofRatio_eq {r : Ratio} (negative : Bool) (hnum : 0 < r.num) :
    ofRatio negative r =
      let (m, e) := if (r.scale 2 (-lastPlace r)).round = 2 * leastNormal then (leastNormal, lastPlace r + 1)
        else ((r.scale 2 (-lastPlace r)).round, lastPlace r)
      if 971 < e then infinity negative else finite negative m e := by
  rw [ofRatio, if_neg hnum.ne']
  rfl

theorem ofRatio_cases {r : Ratio} (negative : Bool) (hnum : 0 < r.num) (hden : 0 < r.den) :
    ∃ (e : ℤ) (m : ℕ), IsLastPlace r.value e ∧ IsRounding (r.value * 2 ^ (-e)) m ∧
      ((ofRatio negative r = .infinity negative ∧ (e ≤ 971 → e = 971 ∧ m = 2 ^ 53)) ∨
        ∃ m' e', ofRatio negative r = .finite negative m' e' ∧ m' < 2 ^ 53 ∧ leastExponent ≤ e' ∧ e' ≤ 971 ∧
          (m' : ℚ) * 2 ^ e' = m * 2 ^ e) := by
  have hplace := isLastPlace_lastPlace hnum hden
  have hround : IsRounding (r.value * 2 ^ (-lastPlace r)) ((r.scale 2 (-lastPlace r)).round) := by
    have hscaled := Ratio.isRounding_round (Ratio.den_scale_pos two_pos hden (-lastPlace r))
    rw [Ratio.value_scale two_pos] at hscaled
    exact_mod_cast hscaled
  have hof := ofRatio_eq negative hnum
  refine ⟨lastPlace r, (r.scale 2 (-lastPlace r)).round, hplace, hround, ?_⟩
  have hle := hplace.round_le hround
  have hleast := hplace.least
  generalize hm : (r.scale 2 (-lastPlace r)).round = m at *
  generalize he : lastPlace r = e at *
  have hnormal : leastNormal = 2 ^ 52 := rfl
  rw [hof]
  split
  · rename_i m₁ e₁ hpair
    split at hpair
    · rename_i hfull
      -- one digit more, so the last place moves up
      cases hpair
      by_cases hlarge : 971 < e + 1
      · rw [if_pos hlarge]
        exact .inl ⟨rfl, fun hsmall => ⟨by omega, by omega⟩⟩
      · rw [if_neg hlarge]
        refine .inr ⟨leastNormal, e + 1, rfl, by omega, by omega, by omega, ?_⟩
        rw [hfull, hnormal, zpow_add₀ two_ne_zero]
        push_cast
        ring
    · cases hpair
      by_cases hlarge : 971 < e
      · rw [if_pos hlarge]
        exact .inl ⟨rfl, fun hsmall => by omega⟩
      · rw [if_neg hlarge]
        exact .inr ⟨m, e, rfl, by omega, hleast, by omega, rfl⟩

end Binary64

end Terminal
