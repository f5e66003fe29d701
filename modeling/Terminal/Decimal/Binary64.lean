import Terminal.Decimal.Round

namespace Terminal

inductive Binary64 where
  | nan
  | infinity (negative : Bool)
  | finite (negative : Bool) (mantissa : Nat) (exponent : Int)
  deriving DecidableEq, Repr

structure Ratio where
  num : Nat
  den : Nat

namespace Ratio

def scale (r : Ratio) (base : Nat) (e : Int) : Ratio :=
  if 0 ≤ e then ⟨r.num * base.pow e.toNat, r.den⟩
  else ⟨r.num, r.den * base.pow (-e).toNat⟩

def le (a b : Ratio) : Bool := a.num * b.den ≤ b.num * a.den

def lt (a b : Ratio) : Bool := a.num * b.den < b.num * a.den

def floor (r : Ratio) : Nat := r.num / r.den

def round (r : Ratio) : Nat := (roundHalfEven r.num r.den).toNat

def distance (a b : Ratio) : Ratio :=
  ⟨((a.num * b.den : Int) - b.num * a.den).natAbs, a.den * b.den⟩

def width (n : Nat) : Nat := (Nat.toDigits 10 n).length

def magnitude (r : Ratio) : Int :=
  let k : Int := width r.num - width r.den
  if (Ratio.mk 1 1 |>.scale 10 k).le r then k else k - 1

end Ratio

namespace Binary64

def leastExponent : Int := -1074

def leastNormal : Nat := 0x10000000000000

def zero (negative : Bool) : Binary64 := finite negative 0 leastExponent

def ofRatio (negative : Bool) (r : Ratio) : Binary64 :=
  if r.num = 0 then zero negative
  else
    let e : Int := r.num.log2 - r.den.log2 - 53
    let e := if (Ratio.mk 1 1 |>.scale 2 (53 + e)).le r then e + 1 else e
    let e := max e leastExponent
    let m := (r.scale 2 (-e)).round
    let (m, e) := if m = 2 * leastNormal then (leastNormal, e + 1) else (m, e)
    if 971 < e then infinity negative else finite negative m e

def ofDecimal (negative : Bool) (digits : Nat) (e : Int) : Binary64 :=
  let top : Int := Ratio.width digits + e
  if digits = 0 ∨ top < -330 then zero negative
  else if 310 < top then infinity negative
  else ofRatio negative (Ratio.mk digits 1 |>.scale 10 e)

/-- The two decimals with last place `10 ^ p` next to `v` that lie between `low` and `high`, the nearer
one if both do. -/
def neighbour? (v low high : Ratio) (closed : Bool) (p : Int) : Option Nat :=
  let at' (c : Nat) : Ratio := Ratio.mk c 1 |>.scale 10 p
  let inside (c : Nat) : Bool :=
    if closed then low.le (at' c) && (at' c).le high else low.lt (at' c) && (at' c).lt high
  let c := (v.scale 10 (-p)).floor
  match inside c, inside (c + 1) with
  | true, false => some c
  | false, true => some (c + 1)
  | false, false => none
  | true, true =>
    let below := v.distance (at' c)
    let above := v.distance (at' (c + 1))
    if below.lt above then some c
    else if above.lt below then some (c + 1)
    else if c % 2 = 0 then some c else some (c + 1)

def search (v low high : Ratio) (closed : Bool) (top : Int) : Nat → Nat → Nat × Int
  | 0, count => ((v.scale 10 (count - top)).round, top - count)
  | limit + 1, count =>
    match neighbour? v low high closed (top - count) with
    | some c => (c, top - count)
    | none => search v low high closed top limit (count + 1)

/-- Digits and last place of the shortest decimal that reads back as `m · 2 ^ e`. -/
def shortest (m : Nat) (e : Int) : Nat × Int :=
  let quarter (k : Nat) : Ratio := Ratio.mk k 1 |>.scale 2 (e - 2)
  let v := quarter (4 * m)
  let low := quarter (if m = leastNormal ∧ leastExponent < e then 4 * m - 1 else 4 * m - 2)
  search v low (quarter (4 * m + 2)) (m % 2 == 0) v.magnitude 17 0

end Binary64

end Terminal
