namespace Terminal

def roundHalfEven (num : Int) (den : Nat) : Int :=
  let q := num / den
  let r := num % den
  if 2 * r < den then q
  else if (den : Int) < 2 * r then q + 1
  else if q % 2 = 0 then q else q + 1

theorem abs_roundHalfEven_le (num : Int) {den : Nat} (h : 0 < den) :
    2 * (num - roundHalfEven num den * den).natAbs ≤ den := by
  have hdiv := Int.emod_add_mul_ediv num den
  have hpos := Int.emod_nonneg num (by omega : (den : Int) ≠ 0)
  have hlt := Int.emod_lt_of_pos num (by omega : (0 : Int) < den)
  simp only [roundHalfEven]
  have hq : (num / (den : Int) + 1) * den = den * (num / den) + den := by
    rw [Int.add_mul, Int.mul_comm, Int.one_mul]
  have hq' : num / (den : Int) * den = den * (num / den) := Int.mul_comm ..
  split
  · rw [hq']; omega
  · split
    · rw [hq]; omega
    · split
      · rw [hq']; omega
      · rw [hq]; omega

end Terminal
