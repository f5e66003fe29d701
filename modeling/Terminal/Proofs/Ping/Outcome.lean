import Terminal.Proofs.Ping.Timing
import Terminal.Session.Basic

namespace Terminal

def ProbeEnd.ticks : ProbeEnd → ℤ
  | answer k => k
  | failure | silence => 0

namespace World

def probe (w : World) (i : ℕ) : Probe := w.probes.getD i w.laterProbe

def clock (w : World) : ℕ → ℤ
  | 0 => w.ticks
  | i + 1 => w.clock i + (w.probe i).ending.ticks

def trip? (w : World) (i : ℕ) : Option ℤ :=
  match (w.probe i).ending with
  | .answer _ => (Clock.time (w.clock i) (w.clock (i + 1))).toOption
  | .failure | .silence => none

def afterProbe (call : String × Option Number) (w : World) : World :=
  { w with
    ticks := w.clock 1
    probes := w.probes.tail
    pauses := w.pauses.tail
    probed := w.probed ++ [call] }

/-- Of the next probes and pauses none cancels the command, and the clock stays in its range. -/
structure Calm (w : World) (count : ℕ) : Prop where
  probes : ∀ i < count, (w.probe i).cancels = false
  pauses : ∀ i < count, w.pauses.getD i false = false
  clock : ∀ i ≤ count, Clock.InRange (w.clock i)

variable (call : String × Option Number) (w : World)

theorem probe_afterProbe (i : ℕ) : (w.afterProbe call).probe i = w.probe (i + 1) := by
  simp only [probe, afterProbe, List.getD_eq_getElem?_getD, List.getElem?_tail]

theorem clock_afterProbe (i : ℕ) : (w.afterProbe call).clock i = w.clock (i + 1) := by
  induction i with
  | zero => rfl
  | succ i ih =>
      rw [clock, ih, probe_afterProbe]
      rfl

theorem trip?_afterProbe (i : ℕ) : (w.afterProbe call).trip? i = w.trip? (i + 1) := by
  rw [trip?, probe_afterProbe, clock_afterProbe, clock_afterProbe, trip?]

variable {w} {count : ℕ}

theorem Calm.afterProbe (h : w.Calm (count + 1)) : (w.afterProbe call).Calm count := by
  refine ⟨fun i hi => ?_, fun i hi => ?_, fun i hi => ?_⟩
  · rw [probe_afterProbe]
    exact h.probes (i + 1) (by omega)
  · have hnext := h.pauses (i + 1) (by omega)
    simpa [World.afterProbe, List.getD_eq_getElem?_getD] using hnext
  · rw [clock_afterProbe]
    exact h.clock (i + 1) (by omega)

theorem Calm.trip?_of_answer (h : w.Calm count) {i : ℕ} (hi : i < count) {k : ℤ} (hk : (w.probe i).ending = .answer k) :
    ∃ ms : ℤ, Clock.time (w.clock i) (w.clock (i + 1)) = .ok ms ∧ w.trip? i = some ms ∧ Binary64.IsValue ms := by
  obtain ⟨ms, hms, hbinary⟩ := Clock.exists_time (h.clock i hi.le) (h.clock (i + 1) hi)
  refine ⟨ms, hms, ?_, hbinary⟩
  simp only [trip?, hk, hms, Except.toOption]

theorem Calm.isSome_trip?_iff (h : w.Calm count) {i : ℕ} (hi : i < count) :
    (w.trip? i).isSome ↔ ∃ k, (w.probe i).ending = .answer k := by
  cases hk : (w.probe i).ending with
  | answer k =>
      obtain ⟨ms, -, htrip, -⟩ := h.trip?_of_answer hi hk
      simp [htrip]
  | failure => simp [trip?, hk]
  | silence => simp [trip?, hk]

theorem Calm.isValue_of_trip? (h : w.Calm count) {i : ℕ} (hi : i < count) {ms : ℤ} (hms : w.trip? i = some ms) :
    Binary64.IsValue ms := by
  obtain ⟨k, hk⟩ := (h.isSome_trip?_iff hi).1 (by simp [hms])
  obtain ⟨ms', -, htrip, hbinary⟩ := h.trip?_of_answer hi hk
  cases hms.symm.trans htrip
  exact hbinary

/-- The time that is shown for a probe: there is one if the probe was answered, and it is the exact one unless the
clock has run very far. -/
structure Told (w : World) (i : ℕ) : Prop where
  answered : (w.trip? i).isSome ↔ ∃ k, (w.probe i).ending = .answer k
  time : ∀ k, (w.probe i).ending = .answer k → ∃ ms, Clock.time (w.clock i) (w.clock i + k) = .ok ms ∧ w.trip? i = some ms
  exact : ∀ k, (w.probe i).ending = .answer k → (w.clock i).natAbs < 2 ^ 53 → (w.clock i + k).natAbs < 2 ^ 53 →
    k.natAbs < 2 ^ 46 → w.trip? i = some (roundHalfEven (k * 1000) Clock.ticksPerSecond)

theorem Calm.told (h : w.Calm count) {i : ℕ} (hi : i < count) : w.Told i := by
  have hnext {k : ℤ} (hk : (w.probe i).ending = .answer k) : w.clock (i + 1) = w.clock i + k := by
    rw [World.clock, hk]
    rfl
  refine ⟨h.isSome_trip?_iff hi, ?_, ?_⟩
  · intro k hk
    obtain ⟨ms, htime, htrip, -⟩ := h.trip?_of_answer hi hk
    exact ⟨ms, hnext hk ▸ htime, htrip⟩
  · intro k hk hstart hfinish hsmall
    obtain ⟨ms, htime, htrip, -⟩ := h.trip?_of_answer hi hk
    have hexact := Clock.time_of_small hstart hfinish (by omega)
    rw [hnext hk, hexact, add_sub_cancel_left] at htime
    cases htime
    exact htrip

end World

end Terminal
