import Terminal.Failure
import Terminal.Text.Char
import Terminal.Text.Pieces

namespace Terminal.Arguments

def digitLimit : Nat := 4300

def sign : List Char → Bool × List Char
  | '-' :: cs => (true, cs)
  | '+' :: cs => (false, cs)
  | cs => (false, cs)

def leadingInt (text : String) : Except Fault (Option Int) :=
  let (negative, cs) := sign (text.toList.dropWhile Text.isBlank)
  let digits := cs.takeWhile Text.isDigit
  if digits.isEmpty then .ok none
  else if digitLimit < digits.length then .error (.tooManyDigits digits.length)
  else
    let n : Int := Text.readDigits digits
    .ok (some (if negative then -n else n))

def isFlag (arg : String) : Bool := Text.startsWith arg "-"

def flagLetters (args : List String) : List Char :=
  (args.filter isFlag).flatMap fun arg => arg.toList.dropWhile (· == '-')

def hasFlag (args : List String) (letter : Char) : Bool := (flagLetters args).contains letter

def positional (args : List String) : List String := args.filter fun arg => !isFlag arg

def takeOption (flag : String) : List String → Option (Option String × List String)
  | [] => none
  | arg :: args =>
    if arg = flag then
      match args with
      | [] => some (none, [])
      | value :: rest => some (some value, rest)
    else (takeOption flag args).map fun (value, rest) => (value, arg :: rest)

structure CountOption where
  count : Int
  rest : List String
  deriving DecidableEq, Repr

/-- The count that follows `flag`. A value that is no number or zero counts as `default`, and a count that is
given is at least one. -/
def countOption (args : List String) (flag : String) (default : Int) (usage : String) :
    Except Failure CountOption :=
  match takeOption flag args with
  | none => .ok ⟨default, args⟩
  | some (none, _) => .error (.usage usage)
  | some (some value, rest) =>
    match leadingInt value with
    | .error f => .error (.fault f)
    | .ok n =>
      let count := n.getD 0
      .ok ⟨max 1 (if count = 0 then default else count), rest⟩

end Terminal.Arguments
