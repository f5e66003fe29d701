import Terminal.Decimal.Fraction
import Terminal.Failure

namespace Terminal

def Fraction.held (a : Fraction) : Except Fault Fraction :=
  match a.stored? with
  | some x => .ok x
  | none => .error .quotientTooLarge

namespace Clock

def seconds (ms : Int) : Except Fault Fraction := Fraction.held ⟨ms, 1000⟩

def ticksPerSecond : Nat := 1024

def probeSeconds (ticks : Int) : Except Fault Fraction := Fraction.held ⟨ticks, ticksPerSecond⟩

/-- What lies between two readings, in units of which a second has `scale`. -/
def between? (scale : Int) (start finish : Fraction) : Option Fraction := do
  let seconds ← (finish.sub start).stored?
  (seconds.times scale).stored?

def roundTrip (start finish : Fraction) : Except Fault Int :=
  match between? 1000 start finish with
  | some ms => .ok ms.round
  | none => .error .notFinite

def elapsed (start finish : Fraction) : Except Fault Int :=
  match between? 1 start finish with
  | some s => .ok s.truncate
  | none => .error .notFinite

def shownMillis (ms : Int) : Int :=
  match (Fraction.mk ms 1000).stored?.bind fun s => (s.times 1000).stored? with
  | some shown => shown.round
  | none => ms

end Clock

end Terminal
