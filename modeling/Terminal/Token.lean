import Terminal.Decimal.Number

namespace Terminal

structure Token where
  cancelled : Bool
  signal : Option Bool
  deriving DecidableEq, Repr

namespace Token

def fresh : Token := ⟨false, none⟩

def cancel (t : Token) : Token := ⟨true, t.signal.map fun _ => true⟩

def listen (t : Token) : Token := ⟨t.cancelled, some (t.signal.getD t.cancelled)⟩

def isSignalled (t : Token) : Bool := t.signal == some true

def disturb (cancels : Bool) (t : Token) : Token := if cancels then t.cancel else t

def wait (cancels : Bool) (t : Token) : Bool × Token :=
  let t := t.listen.disturb cancels
  (t.isSignalled, t)

def sleep (cancels : Bool) (t : Token) : Token :=
  if t.cancelled then t else t.listen.disturb cancels

inductive Work (α : Type) where
  | value (a : α)
  | failure (a : α)
  | never
  deriving Repr

inductive Raced (α : Type) where
  | value (a : α)
  | failure (a : α)
  | cancelled
  | timedOut (limit : Number)
  | waiting
  deriving Repr

/-- Waits for work, for the signal and for a time limit, whichever is first. Work that ends is heard before
the signal, and work is not begun for a token that is cancelled already. -/
def race {α : Type} (limit : Option Number) (cancels : Bool) (work : Work α) (t : Token) :
    Raced α × Token :=
  if t.cancelled then (.cancelled, t)
  else
    let t := (t.disturb cancels).listen
    match work with
    | .value a => (.value a, t)
    | .failure a => (.failure a, t)
    | .never =>
      if t.isSignalled then (.cancelled, t)
      else match limit with
        | some limit => (.timedOut limit, t)
        | none => (.waiting, t)

def timeoutText (limit : Number) : String := "timed out after " ++ limit.text ++ "s"

def InStep (t : Token) : Prop := ∀ s, t.signal = some s → s = t.cancelled

theorem inStep_fresh : fresh.InStep := by simp [InStep, fresh]

theorem InStep.cancel {t : Token} : t.cancel.InStep := by
  simp [InStep, Token.cancel]

theorem InStep.listen {t : Token} (h : t.InStep) : t.listen.InStep := by
  cases t with
  | mk c s => cases s <;> simp_all [InStep, Token.listen]

end Token

end Terminal
