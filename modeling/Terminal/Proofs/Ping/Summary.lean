import Mathlib.Algebra.Order.BigOperators.Group.List
import Terminal.Commands.Ping
import Terminal.Proofs.Ping.Timing

namespace Terminal

open Binary64

namespace Commands

theorem isValue_of_half {sum n : ℤ} {count : ℕ} (hcount : 0 < count) (hsum : sum.natAbs < 2 ^ 52)
    (hhalf : |(sum / count : ℚ) - n| = 1 / 2) : IsValue (sum / count) := by
  have hcount' : (0 : ℚ) < count := by exact_mod_cast hcount
  obtain ⟨d, hd⟩ : ∃ d : ℤ, (sum / count : ℚ) = d / 2 := by
    rcases eq_or_eq_neg_of_abs_eq hhalf with hup | hdown
    · exact ⟨2 * n + 1, by push_cast; linarith⟩
    · exact ⟨2 * n - 1, by push_cast; linarith⟩
  have htwice : d * count = 2 * sum := by
    have hcross : (d * count : ℚ) = 2 * sum := by
      field_simp at hd
      linarith
    exact_mod_cast hcross
  have habs : d.natAbs * count = 2 * sum.natAbs := by
    have hboth := congrArg Int.natAbs htwice
    simpa [Int.natAbs_mul] using hboth
  have hle : d.natAbs ≤ d.natAbs * count := Nat.le_mul_of_pos_right _ hcount
  have hdyadic : (d / 2 : ℚ) = d * 2 ^ (-1 : ℤ) := by
    norm_num
    ring
  rw [hd, hdyadic]
  exact isValue_scaled (by omega) (by decide) (by decide)

theorem round_of_small {sum : ℤ} {count : ℕ} {x : Fraction} (hcount : 0 < count) (hsum : sum.natAbs < 2 ^ 52)
    (hx : (Fraction.mk sum count).stored? = some x) : x.round = roundHalfEven sum count := by
  have hcount' : (0 : ℚ) < count := by exact_mod_cast hcount
  have hkeeps := Fraction.keeps_of_stored hcount hx
  have hrounding := isRounding_roundHalfEven sum hcount
  refine (Fraction.isRounding_round hkeeps.den).unique ?_
  have hvalue : (Fraction.mk sum count).value = sum / count := rfl
  -- a quotient in the middle is held as it is, and the error moves no other one across the middle
  by_cases hhalf : |(sum / count : ℚ) - roundHalfEven sum count| = 1 / 2
  · rw [hkeeps.eq (isValue_of_half hcount hsum hhalf)]
    exact hrounding
  · by_cases hsmall : |(sum / count : ℚ)| ≤ 2 ^ (-2 : ℤ)
    · have hquarter : (2 : ℚ) ^ (-2 : ℤ) < 1 / 2 := by norm_num
      have hwithin := hkeeps.within (isValue_pow (by decide) (by decide)) hsmall
      rw [hrounding.unique (.of_abs_lt (hsmall.trans_lt hquarter))]
      exact .of_abs_lt (hwithin.trans_lt hquarter)
    · have hpow : (2 : ℚ) ^ (-1021 : ℤ) ≤ 2 ^ (-2 : ℤ) := zpow_le_zpow_right₀ one_le_two (by decide)
      have hlarge : (2 : ℚ) ^ (-1021 : ℤ) ≤ |(Fraction.mk sum count).value| := by
        rw [hvalue]
        exact hpow.trans (not_le.1 hsmall).le
      have herror := Fraction.error_of_stored hcount hx hlarge
      rw [hvalue] at herror
      refine .of_close hcount hrounding ?_ hhalf
      have hsum' : |(sum : ℚ)| < 2 ^ 52 := by
        have hcast : ((sum.natAbs : ℕ) : ℚ) < 2 ^ 52 := by exact_mod_cast hsum
        rwa [Nat.cast_natAbs, Int.cast_abs] at hcast
      calc |x.value - sum / count| ≤ |(sum / count : ℚ)| / 2 ^ 53 := herror
        _ = |(sum : ℚ)| / count / 2 ^ 53 := by rw [abs_div, abs_of_pos hcount']
        _ < 2 ^ 52 / count / 2 ^ 53 := by gcongr
        _ = 1 / (2 * count) := by
          field_simp

structure Spread (times : List ℤ) (least mean most : ℤ) : Prop where
  least_mem : least ∈ times
  least_le : ∀ t ∈ times, least ≤ t
  most_mem : most ∈ times
  le_most : ∀ t ∈ times, t ≤ most
  between : least ≤ mean ∧ mean ≤ most
  nearest : ∃ x, (Fraction.mk times.sum times.length).Keeps x ∧ mean = x.round
  exact : times.sum.natAbs < 2 ^ 52 → mean = roundHalfEven times.sum times.length

def spreadText (least mean most : ℤ) : String :=
  "rtt min/avg/max = " ++ toString least ++ "/" ++ toString mean ++ "/" ++ toString most ++ " ms"

theorem exists_spread {times : List ℤ} {least most : ℤ} (hbinary : ∀ t ∈ times, IsValue t)
    (hleast : times.min? = some least) (hmost : times.max? = some most) :
    ∃ m, mean times = .ok m ∧ Spread times least m most := by
  obtain ⟨hleast_mem, hleast_le⟩ := List.min?_eq_some_iff.1 hleast
  obtain ⟨hmost_mem, hle_most⟩ := List.max?_eq_some_iff.1 hmost
  have hcount : 0 < times.length := List.length_pos_of_mem hleast_mem
  have hcount' : (0 : ℚ) < times.length := by exact_mod_cast hcount
  have hlow : (least : ℚ) ≤ (Fraction.mk times.sum times.length).value := by
    have hsum := List.card_nsmul_le_sum times least hleast_le
    rw [nsmul_eq_mul] at hsum
    rw [Fraction.value, le_div_iff₀ hcount', mul_comm]
    exact_mod_cast hsum
  have hhigh : (Fraction.mk times.sum times.length).value ≤ most := by
    have hsum := List.sum_le_card_nsmul times most hle_most
    rw [nsmul_eq_mul] at hsum
    rw [Fraction.value, div_le_iff₀ hcount', mul_comm]
    exact_mod_cast hsum
  have hstored : ∃ x, (Fraction.mk times.sum times.length).stored? = some x := by
    rcases le_max_iff.1 (abs_le_max_abs_abs hlow hhigh) with hle | hle
    · exact Fraction.exists_stored hcount (hbinary least hleast_mem) hle
    · exact Fraction.exists_stored hcount (hbinary most hmost_mem) hle
  obtain ⟨x, hx⟩ := hstored
  have hkeeps := Fraction.keeps_of_stored hcount hx
  have hround := Fraction.isRounding_round hkeeps.den
  refine ⟨x.round, ?_, hleast_mem, hleast_le, hmost_mem, hle_most, ?_, ⟨x, hkeeps, rfl⟩, ?_⟩
  · have hsum : times.foldl (· + ·) 0 = times.sum := List.sum_eq_foldl.symm
    rw [mean, hsum, Fraction.held_of_stored hx]
    rfl
  · exact ⟨hround.le (hkeeps.le (hbinary least hleast_mem) hlow), hround.ge (hkeeps.ge (hbinary most hmost_mem) hhigh)⟩
  · intro hsmall
    exact round_of_small hcount hsmall hx

def IsSpreadOf (times : List ℤ) (lines : List String) : Prop :=
  (times = [] ∧ lines = []) ∨
    ∃ least mean most, lines = [spreadText least mean most] ∧ Spread times least mean most

theorem exists_timesText {times : List ℤ} (hbinary : ∀ t ∈ times, IsValue t) :
    ∃ lines, timesText times = .ok lines ∧ IsSpreadOf times lines := by
  cases times with
  | nil => exact ⟨[], rfl, .inl ⟨rfl, rfl⟩⟩
  | cons t times =>
      obtain ⟨m, hm, hspread⟩ := exists_spread hbinary List.min?_cons' List.max?_cons'
      refine ⟨_, ?_, .inr ⟨_, _, _, rfl, hspread⟩⟩
      rw [timesText, hm]
      rfl

end Commands

end Terminal
