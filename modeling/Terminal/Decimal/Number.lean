import Terminal.Decimal.Binary64

namespace Terminal

inductive Number where
  | whole (n : Int)
  | binary (x : Binary64)
  deriving DecidableEq, Repr

namespace Number

def plainPowers : Int × Int := (-4, 16)

def zeros (n : Nat) : List Char := List.replicate n '0'

def trimZeros (d : Nat) (p : Int) : List Char × Int :=
  let ds := (Nat.toDigits 10 d).reverse
  let kept := ds.dropWhile (· == '0')
  (kept.reverse, p + (ds.length - kept.length : Nat))

def exponentText (e : Int) : List Char :=
  let ds := Nat.toDigits 10 e.natAbs
  'e' :: (if e < 0 then '-' else '+') :: (zeros (2 - ds.length) ++ ds)

def withPoint (whole : Nat) (ds : List Char) : List Char :=
  ds.take whole ++ '.' :: ds.drop whole

def decimalText (ds : List Char) (p : Int) : List Char :=
  let top := ds.length - 1 + p
  if plainPowers.1 ≤ top ∧ top < plainPowers.2 then
    if 0 ≤ p then ds ++ zeros p.toNat ++ ['.', '0']
    else if 0 ≤ top then withPoint (top + 1).toNat ds
    else '0' :: '.' :: (zeros (-top - 1).toNat ++ ds)
  else
    (if ds.length ≤ 1 then ds else withPoint 1 ds) ++ exponentText top

def signText (negative : Bool) (s : List Char) : String :=
  .ofList (if negative then '-' :: s else s)

def text : Number → String
  | whole n => toString n
  | binary .nan => "nan"
  | binary (.infinity negative) => signText negative ['i', 'n', 'f']
  | binary (.finite negative 0 _) => signText negative ['0', '.', '0']
  | binary (.finite negative m e) =>
    let (d, p) := Binary64.shortest m e
    let (ds, p) := trimZeros d p
    signText negative (decimalText ds p)

end Number

end Terminal
