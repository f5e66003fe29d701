import Terminal.Pattern.Cursor
import Terminal.Text.Name

namespace Terminal.Pattern.Reading

def isOctal (c : Char) : Bool := '0' ≤ c && c ≤ '7'

def isHex (c : Char) : Bool := (Text.hexValue? c).isSome

def controlCode? : Char → Option Nat
  | 'a' => some 7
  | 'b' => some 8
  | 'f' => some 12
  | 'n' => some 10
  | 'r' => some 13
  | 't' => some 9
  | 'v' => some 11
  | '\\' => some 92
  | _ => none

def category? (s : Switches) : Char → Option Member
  | 'd' => some (.category false s.ascii .digit)
  | 'D' => some (.category true s.ascii .digit)
  | 's' => some (.category false s.ascii .space)
  | 'S' => some (.category true s.ascii .space)
  | 'w' => some (.category false s.ascii .word)
  | 'W' => some (.category true s.ascii .word)
  | _ => none

def anchor? (s : Switches) : Char → Option Anchor
  | 'A' => some .textStart
  | 'Z' => some .textStop
  | 'b' => some (.boundary false s.ascii)
  | 'B' => some (.boundary true s.ascii)
  | _ => none

def hexEscape (letter : Char) (count : Nat) : Reading Nat := do
  let digits ← takeWhile isHex count
  let escape := '\\' :: letter :: digits
  if digits.length ≠ count then fail (.incompleteEscape (.ofList escape)) escape.length
  let n := (Text.readBase? 16 digits).getD 0
  if 0x7FFFFFFF < n then
    throw (.fault .codeTooLarge)
  if 0x10FFFF < n then fail (.badEscape (.ofList escape)) escape.length
  return n

def namedEscape : Reading Nat := do
  if !(← accept '\x7b') then fail .missingBrace 0
  let name ← name '\x7d' "character name"
  match Text.Name.code? name with
  | some n => return n
  | none => fail (.unknownCharacter name) (name.length + 4)

def octalEscape (digits : List Char) : Reading Nat := do
  let n := (Text.readBase? 8 digits).getD 0
  if 0o377 < n then fail (.octalTooLarge (.ofList ('\\' :: digits))) (digits.length + 1)
  return n

def sharedEscape (c : Char) : Reading Nat := do
  if c = 'x' then hexEscape c 2
  else if c = 'u' then hexEscape c 4
  else if c = 'U' then hexEscape c 8
  else if c = 'N' then namedEscape
  else if c.isAlphanum then fail (.badEscape (.ofList ['\\', c])) 2
  else return c.toNat

def setEscape (s : Switches) (c : Char) : Reading Member := do
  match controlCode? c, category? s c with
  | some n, _ => return .code n
  | none, some m => return m
  | none, none =>
    if isOctal c then
      let more ← takeWhile isOctal 2
      return .code (← octalEscape (c :: more))
    else return .code (← sharedEscape c)

def digitEscape (s : Switches) (c : Char) : Reading Pattern := do
  let more ← takeWhile Char.isDigit 1
  match more with
  | [d] =>
    if isOctal c && isOctal d then
      match ← takeWhile isOctal 1 with
      | [e] => return .one (.ofCode false s.fold (← octalEscape [c, d, e]))
      | _ => groupEscape [c, d]
    else groupEscape [c, d]
  | _ => groupEscape [c]
where
  groupEscape (digits : List Char) : Reading Pattern := do
    let n := (Text.readBase? 10 digits).getD 0
    if n < (← get).groups then
      if !(← isClosed n) then fail .openGroup (digits.length + 1)
      checkLookBehind n
      reference n s
    else fail (.invalidGroup n) digits.length

def escape (s : Switches) (c : Char) : Reading Pattern := do
  match anchor? s c, category? s c, controlCode? c with
  | some a, _, _ => return .anchor a
  | none, some m, _ => return .one (.ofMembers false s.fold [m])
  | none, none, some n => return .one (.ofCode false s.fold n)
  | none, none, none =>
    if c = '0' then
      let more ← takeWhile isOctal 2
      return .one (.ofCode false s.fold ((Text.readBase? 8 (c :: more)).getD 0))
    else if c.isDigit then digitEscape s c
    else return .one (.ofCode false s.fold (← sharedEscape c))

end Terminal.Pattern.Reading
