import Mathlib.Algebra.Order.Field.Basic
import Mathlib.Algebra.Order.Field.Rat
import Mathlib.Data.Rat.Cast.Order
import Mathlib.Tactic.FieldSimp
import Mathlib.Tactic.Linarith
import Mathlib.Tactic.Ring
import Terminal.Decimal.Round

namespace Terminal

structure IsRounding (x : ℚ) (n : ℤ) : Prop where
  near : |x - n| ≤ 1 / 2
  even : |x - n| = 1 / 2 → n % 2 = 0

theorem even_roundHalfEven {num : ℤ} {den : ℕ} (h : 0 < den)
    (hhalf : 2 * (num - roundHalfEven num den * den).natAbs = den) : roundHalfEven num den % 2 = 0 := by
  have hdiv := Int.emod_add_mul_ediv num den
  have hpos := Int.emod_nonneg num (by omega : (den : ℤ) ≠ 0)
  have hlt := Int.emod_lt_of_pos num (by omega : (0 : ℤ) < den)
  have hbelow : num - num / (den : ℤ) * den = num % den := by
    rw [Int.mul_comm]
    omega
  have habove : num - (num / (den : ℤ) + 1) * den = num % den - den := by
    rw [Int.add_mul, Int.one_mul, Int.mul_comm]
    omega
  simp only [roundHalfEven] at hhalf ⊢
  split at hhalf
  · rw [hbelow] at hhalf
    omega
  · split at hhalf
    · rw [habove] at hhalf
      omega
    · rw [if_neg (by assumption), if_neg (by assumption)]
      split
      · assumption
      · omega

theorem isRounding_roundHalfEven (num : ℤ) {den : ℕ} (h : 0 < den) :
    IsRounding (num / den) (roundHalfEven num den) := by
  have hden : (0 : ℚ) < den := by exact_mod_cast h
  have hdistance : |(num / den : ℚ) - roundHalfEven num den| =
      (num - roundHalfEven num den * den).natAbs / den := by
    have hcommon : (num / den : ℚ) - roundHalfEven num den = (num - roundHalfEven num den * den) / den := by
      field_simp
    rw [hcommon, abs_div, abs_of_pos hden, Nat.cast_natAbs]
    push_cast
    rfl
  constructor
  · have hle : (2 * (num - roundHalfEven num den * den).natAbs : ℚ) ≤ den := by
      exact_mod_cast abs_roundHalfEven_le num h
    rw [hdistance, div_le_iff₀ hden]
    linarith
  · intro hhalf
    rw [hdistance, div_eq_iff hden.ne'] at hhalf
    refine even_roundHalfEven h ?_
    have htwice : (2 * (num - roundHalfEven num den * den).natAbs : ℚ) = den := by linarith
    exact_mod_cast htwice

namespace IsRounding

variable {x : ℚ} {m n a : ℤ}

theorem le (h : IsRounding x n) (ha : (a : ℚ) ≤ x) : a ≤ n := by
  have hnear := abs_le.1 h.near
  have hlt : (a : ℚ) < n + 1 := by linarith [hnear.2]
  have hint : a < n + 1 := by exact_mod_cast hlt
  omega

theorem ge (h : IsRounding x n) (ha : x ≤ a) : n ≤ a := by
  have hnear := abs_le.1 h.near
  have hlt : (n : ℚ) < a + 1 := by linarith [hnear.1]
  have hint : n < a + 1 := by exact_mod_cast hlt
  omega

theorem nearest (h : IsRounding x n) (a : ℤ) : |x - n| ≤ |x - a| := by
  by_cases ha : a = n
  · rw [ha]
  · have hapart : (1 : ℚ) ≤ |(a : ℚ) - n| := by
      have hint : 1 ≤ |a - n| := Int.one_le_abs (by omega)
      exact_mod_cast hint
    have htriangle : |(a : ℚ) - n| ≤ |x - n| + |x - a| := by
      have hsplit : (a : ℚ) - n = (x - n) - (x - a) := by ring
      rw [hsplit]
      exact abs_sub _ _
    linarith [h.near]

theorem unique (h : IsRounding x m) (h' : IsRounding x n) : m = n := by
  have hm := abs_le.1 h.near
  have hn := abs_le.1 h'.near
  have hle : (m : ℚ) ≤ n + 1 := by linarith [hm.1, hn.2]
  have hge : (n : ℚ) ≤ m + 1 := by linarith [hm.2, hn.1]
  have hle' : m ≤ n + 1 := by exact_mod_cast hle
  have hge' : n ≤ m + 1 := by exact_mod_cast hge
  by_contra hne
  have hneighbours : m = n + 1 ∨ n = m + 1 := by omega
  -- both are a half away, so both are even
  rcases hneighbours with rfl | rfl
  · push_cast at hm
    have hx : x = n + 1 / 2 := by linarith [hm.1, hn.2]
    have heven := h.even (by rw [hx]; push_cast; ring_nf; norm_num)
    have heven' := h'.even (by rw [hx]; ring_nf; norm_num)
    omega
  · push_cast at hn
    have hx : x = m + 1 / 2 := by linarith [hm.2, hn.1]
    have heven := h.even (by rw [hx]; ring_nf; norm_num)
    have heven' := h'.even (by rw [hx]; push_cast; ring_nf; norm_num)
    omega

theorem of_abs_lt {x : ℚ} (h : |x| < 1 / 2) : IsRounding x 0 := by
  rw [← sub_zero x] at h
  exact ⟨by exact_mod_cast h.le, fun hx => absurd (by exact_mod_cast hx) h.ne⟩

theorem of_close {x : ℚ} {num n : ℤ} {den : ℕ} (hden : 0 < den) (h : IsRounding (num / den) n)
    (hclose : |x - num / den| < 1 / (2 * den)) (hhalf : |(num / den : ℚ) - n| ≠ 1 / 2) : IsRounding x n := by
  have hden' : (0 : ℚ) < den := by exact_mod_cast hden
  have hless : |(num / den : ℚ) - n| < 1 / 2 := lt_of_le_of_ne h.near hhalf
  have hgap : |(num / den : ℚ) - n| ≤ 1 / 2 - 1 / (2 * den) := by
    have hcommon : (num / den : ℚ) - n = (num - n * den) / den := by field_simp
    have hint : 2 * |num - n * den| + 1 ≤ (den : ℤ) := by
      have hcast : 2 * |(num : ℚ) - n * den| < den := by
        rw [hcommon, abs_div, abs_of_pos hden', div_lt_iff₀ hden'] at hless
        linarith
      exact_mod_cast hcast
    have hcast : 2 * |(num : ℚ) - n * den| + 1 ≤ den := by exact_mod_cast hint
    have hfraction : (1 / 2 - 1 / (2 * den) : ℚ) = (den - 1) / 2 / den := by field_simp
    rw [hcommon, abs_div, abs_of_pos hden', hfraction]
    gcongr
    linarith
  have hsum : |x - n| ≤ |x - num / den| + |(num / den : ℚ) - n| := abs_sub_le _ _ _
  have hstrict : |x - n| < 1 / 2 := by linarith
  exact ⟨hstrict.le, fun hx => absurd hx hstrict.ne⟩

end IsRounding

theorem roundHalfEven_eq {num : ℤ} {den : ℕ} (h : 0 < den) {n : ℤ} (hn : IsRounding (num / den) n) :
    roundHalfEven num den = n := (isRounding_roundHalfEven num h).unique hn

end Terminal
