import Terminal.Text.Char
import Terminal.Text.Pieces

namespace Terminal.Address

def isOctet (s : List Char) : Bool :=
  s.all Char.isDigit && s.length ≤ 3 &&
    match s with
    | [] => false
    | ['0'] => true
    | '0' :: _ => false
    | _ => (Text.readBase? 10 s).any (· ≤ 255)

def isQuad (s : List Char) : Bool :=
  let octets := Text.pieces (· == '.') s
  octets.length == 4 && octets.all isOctet

def isGroup (s : List Char) : Bool :=
  1 ≤ s.length && s.length ≤ 4 && s.all fun c => (Text.hexValue? c).isSome

def groups? : List (List Char) → Option Nat
  | [] => some 0
  | [s] => if isGroup s then some 1 else if isQuad s then some 2 else none
  | s :: rest => if isGroup s then (groups? rest).map (· + 1) else none

def orNone (parts : List (List Char)) : List (List Char) := if parts = [[]] then [] else parts

def isGroups (s : List Char) : Bool :=
  match Text.pieces (· == ':') s with
  | [] => false
  | first :: rest =>
    match rest.span fun part => !part.isEmpty with
    | (middle, _ :: after :: more) =>
      let before := orNone (first :: middle)
      before.all isGroup && (groups? (orNone (after :: more))).any (before.length + · ≤ 7)
    | _ => groups? (first :: rest) == some 8

def isZoned (s : List Char) : Bool :=
  match Text.cutAt '%' s with
  | none => isGroups s
  | some (address, zone) => !zone.isEmpty && !zone.contains '%' && isGroups address

def isLater : List Char → Bool
  | 'v' :: s =>
    match Text.cutAt '.' s with
    | some (version, text) =>
      !version.isEmpty && !text.isEmpty && version.all fun c => (Text.hexValue? c).isSome
    | none => false
  | _ => false

end Terminal.Address
