namespace Terminal.Text

inductive UnitForm where
  | single
  | double (highFirst : Bool)
  | quadruple (highFirst : Bool)
  deriving DecidableEq, Repr

def UnitForm.ofBytes : List UInt8 → UnitForm
  | [0, _] => .double true
  | [_, 0] => .double false
  | 0 :: 0 :: _ :: _ :: _ => .quadruple true
  | 0 :: _ :: _ :: _ :: _ => .double true
  | _ :: 0 :: 0 :: 0 :: _ => .quadruple false
  | _ :: 0 :: _ :: _ :: _ => .double false
  | _ => .single

def joinBytes (bytes : List UInt8) : Nat := bytes.foldl (fun n b => n * 256 + b.toNat) 0

def joinUnit (highFirst : Bool) (bytes : List UInt8) : Nat :=
  joinBytes (if highFirst then bytes else bytes.reverse)

def doubles? (highFirst : Bool) : List UInt8 → Option (List Nat)
  | [] => some []
  | a :: b :: rest => (doubles? highFirst rest).map (joinUnit highFirst [a, b] :: ·)
  | _ => none

def quadruples? (highFirst : Bool) : List UInt8 → Option (List Nat)
  | [] => some []
  | a :: b :: c :: d :: rest =>
    (quadruples? highFirst rest).map (joinUnit highFirst [a, b, c, d] :: ·)
  | _ => none

def isHighHalf (n : Nat) : Bool := 0xD800 ≤ n && n < 0xDC00

def isLowHalf (n : Nat) : Bool := 0xDC00 ≤ n && n < 0xE000

def replacement : Char := '\uFFFD'

def ofUnit (n : Nat) : Char := if isHighHalf n || isLowHalf n then replacement else .ofNat n

def joinHalves : List Nat → List Char
  | [] => []
  | [n] => [ofUnit n]
  | n :: k :: rest =>
    if isHighHalf n && isLowHalf k then
      .ofNat (0x10000 + (n - 0xD800) * 0x400 + (k - 0xDC00)) :: joinHalves rest
    else ofUnit n :: joinHalves (k :: rest)

def respelled? (s : String) : Option String :=
  let bytes := s.toUTF8.toList
  match UnitForm.ofBytes bytes with
  | .single => some s
  | .double highFirst => (doubles? highFirst bytes).map fun units => .ofList (joinHalves units)
  | .quadruple highFirst =>
    (quadruples? highFirst bytes).bind fun units =>
      if units.all (· < 0x110000) then some (.ofList (units.map ofUnit)) else none

end Terminal.Text
