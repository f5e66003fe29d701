import Terminal.Pattern.Basic
import Terminal.Pattern.Flaw

namespace Terminal.Pattern

structure Switches where
  ignoreCase : Bool := false
  multiline : Bool := false
  dotAll : Bool := false
  verbose : Bool := false
  ascii : Bool := false
  unicode : Bool := false
  template : Bool := false
  deriving DecidableEq, Repr

namespace Switches

def union (a b : Switches) : Switches where
  ignoreCase := a.ignoreCase || b.ignoreCase
  multiline := a.multiline || b.multiline
  dotAll := a.dotAll || b.dotAll
  verbose := a.verbose || b.verbose
  ascii := a.ascii || b.ascii
  unicode := a.unicode || b.unicode
  template := a.template || b.template

def within (outside on off : Switches) : Switches :=
  let base := if on.ascii || on.unicode then { outside with ascii := false, unicode := false }
    else outside
  let s := base.union on
  { s with
    ignoreCase := s.ignoreCase && !off.ignoreCase
    multiline := s.multiline && !off.multiline
    dotAll := s.dotAll && !off.dotAll
    verbose := s.verbose && !off.verbose }

def meet (a b : Switches) : Bool :=
  (a.ignoreCase && b.ignoreCase) || (a.multiline && b.multiline) || (a.dotAll && b.dotAll) ||
    (a.verbose && b.verbose)

def ofLetter? : Char → Option Switches
  | 'i' => some { ignoreCase := true }
  | 'm' => some { multiline := true }
  | 's' => some { dotAll := true }
  | 'x' => some { verbose := true }
  | 'a' => some { ascii := true }
  | 't' => some { template := true }
  | 'u' => some { unicode := true }
  | _ => none

def fold (s : Switches) : Fold :=
  if !s.ignoreCase then .exact else if s.ascii then .ascii else .full

end Switches

structure Cursor where
  rest : List Char
  place : Nat
  switches : Switches
  groups : Nat := 1
  names : List (String × Nat) := []
  closed : List (Nat × Nat × Nat) := []
  lookBehind : Option Nat := none
  /-- Groups that a condition asked for, with the place of the first time. -/
  asked : List (Nat × Nat) := []
  depth : Nat := 0

abbrev Reading := StateT Cursor (Except ReadError)

abbrev Token := List Char

namespace Reading

def place : Reading Nat := return (← get).place

def fail {α : Type} (f : Flaw) (back : Nat) : Reading α := do
  throw (.flaw f (some ((← place) - back)))

def failAt {α : Type} (f : Flaw) (place : Nat) : Reading α := throw (.flaw f (some place))

def tokenOf : List Char → Option Token
  | [] => none
  | '\\' :: c :: _ => some ['\\', c]
  | c :: _ => some [c]

def peek : Reading (Option Token) := return tokenOf (← get).rest

/-- A backslash must have a character after it as soon as it comes into sight. -/
def checkEscape : Reading Unit := do
  let s ← get
  if s.rest = ['\\'] then failAt .danglingEscape s.place

def take : Reading (Option Token) := do
  let s ← get
  match tokenOf s.rest with
  | none => return none
  | some t =>
    set { s with rest := s.rest.drop t.length, place := s.place + t.length }
    checkEscape
    return some t

def accept (c : Char) : Reading Bool := do
  if (← peek) = some [c] then
    let _ ← take
    return true
  else return false

def goBack (rest : List Char) (place : Nat) : Reading Unit :=
  modify fun s => { s with rest, place }

def takeWhile (p : Char → Bool) : Nat → Reading (List Char)
  | 0 => return []
  | limit + 1 => do
    match ← peek with
    | some [c] =>
      if p c then
        let _ ← take
        return c :: (← takeWhile p limit)
      else return []
    | _ => return []

def remaining : Reading Nat := return (← get).rest.length

def nameUntil (closer : Char) (what : String) : Nat → List Char → Reading String
  | 0, _ => fail (.missingName what) 0
  | fuel + 1, done => do
    match ← take with
    | none =>
      if done.isEmpty then fail (.missingName what) 0
      else fail (.unterminatedName closer) done.length
    | some t =>
      if t = [closer] then
        if done.isEmpty then fail (.missingName what) 1 else return .ofList done
      else nameUntil closer what fuel (done ++ t)

def name (closer : Char) (what : String) : Reading String := do
  nameUntil closer what ((← remaining) + 1) []

def checkName (name : String) : Reading Unit := do
  if !Text.isName name.toList then fail (.badGroupName name) (name.length + 1)

def skipLine : Nat → Reading Unit
  | 0 => return
  | fuel + 1 => do
    match ← take with
    | none | some ['\n'] => return
    | _ => skipLine fuel

def skipComment (start : Nat) : Nat → Reading Unit
  | 0 => return
  | fuel + 1 => do
    match ← peek with
    | none => failAt .unterminatedComment start
    | some _ => if (← take) = some [')'] then return else skipComment start fuel

def isClosed (n : Nat) : Reading Bool := return (← get).closed.any (·.1 == n)

def checkLookBehind (n : Nat) : Reading Unit := do
  match (← get).lookBehind with
  | none => return
  | some groups =>
    if !(← isClosed n) then fail .openGroup 0
    if groups ≤ n then fail .lookBehindGroup 0

def openGroup (name : Option String) : Reading Nat := do
  let s ← get
  let n := s.groups
  match name with
  | none => set { s with groups := n + 1 }
  | some name =>
    match s.names.lookup name with
    | some old => fail (.redefinedGroup name n old) (name.length + 1)
    | none => set { s with groups := n + 1, names := (name, n) :: s.names }
  return n

def closeGroup (n : Nat) (p : Pattern) : Reading Unit :=
  modify fun s => { s with closed := (n, p.width.1, p.width.2) :: s.closed }

def reference (n : Nat) (s : Switches) : Reading Pattern := do
  match (← get).closed.lookup n with
  | some (least, most) => return .again n s.fold least most
  | none => return .again n s.fold 0 0

end Reading

end Terminal.Pattern
