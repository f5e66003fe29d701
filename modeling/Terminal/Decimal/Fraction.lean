import Terminal.Decimal.Binary64

namespace Terminal

structure Fraction where
  num : Int
  den : Nat
  deriving DecidableEq, Repr

namespace Fraction

def sub (a b : Fraction) : Fraction := ⟨a.num * b.den - b.num * a.den, a.den * b.den⟩

def times (a : Fraction) (k : Int) : Fraction := ⟨a.num * k, a.den⟩

def floor (a : Fraction) : Int := a.num / a.den

def truncate (a : Fraction) : Int := a.num.tdiv a.den

def round (a : Fraction) : Int := roundHalfEven a.num a.den

def ofBinary? : Binary64 → Option Fraction
  | .finite negative m e =>
    let r := (Ratio.mk m 1).scale 2 e
    some ⟨if negative then -r.num else r.num, r.den⟩
  | _ => none

def stored? (a : Fraction) : Option Fraction :=
  ofBinary? (.ofRatio (a.num < 0) ⟨a.num.natAbs, a.den⟩)

end Fraction

end Terminal
