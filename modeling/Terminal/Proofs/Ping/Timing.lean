import Terminal.Proofs.Decimal.Stored

namespace Terminal

open Binary64

namespace Clock

def time (start finish : ℤ) : Except Fault ℤ := do
  let a ← probeSeconds start
  let b ← probeSeconds finish
  roundTrip a b

def InRange (ticks : ℤ) : Prop := ticks.natAbs ≤ 2 ^ 960

instance (ticks : ℤ) : Decidable (InRange ticks) := inferInstanceAs (Decidable (ticks.natAbs ≤ 2 ^ 960))

variable {start finish : ℤ}

theorem exists_probeSeconds (h : InRange start) :
    ∃ x : Fraction, probeSeconds start = .ok x ∧ 0 < x.den ∧ |x.value| ≤ 2 ^ (950 : ℤ) := by
  have hvalue : |(Fraction.mk start ticksPerSecond).value| ≤ 2 ^ (950 : ℤ) := by
    have habs : |(start : ℚ)| ≤ 2 ^ (960 : ℤ) := by
      have hcast : ((start.natAbs : ℕ) : ℚ) ≤ ((2 ^ 960 : ℕ) : ℚ) := Nat.cast_le.2 h
      rwa [Nat.cast_natAbs, Int.cast_abs, Nat.cast_pow, Nat.cast_ofNat] at hcast
    have hticks : |((ticksPerSecond : ℕ) : ℚ)| = 2 ^ (10 : ℤ) := by norm_num [ticksPerSecond]
    rw [Fraction.value, abs_div, hticks, div_le_iff₀ (by positivity), ← zpow_add₀ two_ne_zero]
    exact habs
  obtain ⟨x, hx, hkeeps, hwithin⟩ :=
    Fraction.exists_within (a := ⟨start, ticksPerSecond⟩) Nat.succ_pos' (by decide) (by decide) hvalue
  exact ⟨x, Fraction.held_of_stored hx, hkeeps.den, hwithin⟩

theorem exists_time (hstart : InRange start) (hfinish : InRange finish) :
    ∃ ms, time start finish = .ok ms ∧ IsValue ms := by
  obtain ⟨a, ha, haden, hasmall⟩ := exists_probeSeconds hstart
  obtain ⟨b, hb, hbden, hbsmall⟩ := exists_probeSeconds hfinish
  have hdifference : |(b.sub a).value| ≤ 2 ^ (951 : ℤ) := by
    rw [Fraction.value_sub hbden haden]
    calc |b.value - a.value| ≤ |b.value| + |a.value| := abs_sub _ _
      _ ≤ 2 ^ (950 : ℤ) + 2 ^ (950 : ℤ) := add_le_add hbsmall hasmall
      _ = 2 ^ (950 + 1 : ℤ) := by rw [zpow_add₀ two_ne_zero, zpow_one, mul_two]
  obtain ⟨d, hd, hdkeeps, hdsmall⟩ :=
    Fraction.exists_within (Nat.mul_pos hbden haden) (by decide) (by decide) hdifference
  have hscaled : |(d.times 1000).value| ≤ 2 ^ (961 : ℤ) := by
    rw [Fraction.value_times, abs_mul]
    calc |d.value| * |((1000 : ℤ) : ℚ)| ≤ 2 ^ (951 : ℤ) * 2 ^ (10 : ℤ) := by
          gcongr
          norm_num
      _ = 2 ^ (951 + 10 : ℤ) := (zpow_add₀ two_ne_zero _ _).symm
  obtain ⟨m, hm, hmkeeps, -⟩ := Fraction.exists_within (a := d.times 1000) hdkeeps.den (by decide) (by decide) hscaled
  refine ⟨m.round, ?_, isValue_round hmkeeps.isValue (Fraction.isRounding_round hmkeeps.den)⟩
  have hbetween : between? 1000 a b = some m := by
    rw [between?, hd]
    exact hm
  simp only [time, ha, hb, bind, Except.bind, roundTrip, hbetween]

theorem time_of_small (hstart : start.natAbs < 2 ^ 53) (hfinish : finish.natAbs < 2 ^ 53)
    (hdifference : (finish - start).natAbs < 2 ^ 46) :
    time start finish = .ok (roundHalfEven ((finish - start) * 1000) ticksPerSecond) := by
  have hreading {t : ℤ} (ht : t.natAbs < 2 ^ 53) :
      ∃ x : Fraction, probeSeconds t = .ok x ∧ 0 < x.den ∧ x.value = t * 2 ^ (-10 : ℤ) := by
    have hvalue : (Fraction.mk t ticksPerSecond).value = t * 2 ^ (-10 : ℤ) := by
      rw [Fraction.value]
      norm_num [ticksPerSecond]
      ring
    obtain ⟨x, hx, hden, hexact⟩ :=
      Fraction.exists_exact (a := ⟨t, ticksPerSecond⟩) Nat.succ_pos' (hvalue ▸ isValue_scaled ht (by decide) (by decide))
    exact ⟨x, Fraction.held_of_stored hx, hden, hexact.trans hvalue⟩
  obtain ⟨a, ha, haden, havalue⟩ := hreading hstart
  obtain ⟨b, hb, hbden, hbvalue⟩ := hreading hfinish
  have hsub : (b.sub a).value = ((finish - start : ℤ) : ℚ) * 2 ^ (-10 : ℤ) := by
    rw [Fraction.value_sub hbden haden, havalue, hbvalue]
    push_cast
    ring
  obtain ⟨d, hd, hdden, hdvalue⟩ := Fraction.exists_exact (Nat.mul_pos hbden haden)
    (hsub ▸ isValue_scaled (by omega) (by decide) (by decide))
  -- a tick is 125 parts in 128 of a millisecond
  have htimes : (d.times 1000).value = (((finish - start) * 125 : ℤ) : ℚ) * 2 ^ (-7 : ℤ) := by
    rw [Fraction.value_times, hdvalue, hsub]
    push_cast
    ring
  obtain ⟨m, hm, hmden, hmvalue⟩ := Fraction.exists_exact (a := d.times 1000) hdden
    (htimes ▸ isValue_scaled (by omega) (by decide) (by decide))
  have hbetween : between? 1000 a b = some m := by
    rw [between?, hd]
    exact hm
  have hround : roundHalfEven ((finish - start) * 1000) ticksPerSecond = m.round := by
    refine roundHalfEven_eq (by decide) ?_
    have hvalue : (((finish - start) * 1000 : ℤ) : ℚ) / (ticksPerSecond : ℕ) = m.value := by
      rw [hmvalue, htimes]
      norm_num [ticksPerSecond]
      ring
    rw [hvalue]
    exact Fraction.isRounding_round hmden
  simp only [time, ha, hb, bind, Except.bind, roundTrip, hbetween, hround]

end Clock

end Terminal
