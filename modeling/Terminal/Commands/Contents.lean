import Terminal.Calendar
import Terminal.Commands.Basic
import Terminal.Pattern.Matcher
import Terminal.Pattern.Reader

namespace Terminal.Commands

def withLines (v : View) (label path : String) (f : List String → Except Failure Result) :
    Except Failure Result :=
  match v.read path with
  | .error e => line (label ++ ": " ++ e.message)
  | .ok content => f (Text.lines content)

def cat : Handler := fun args => report fun v =>
  match args with
  | [] => usage "cat <file>"
  | path :: _ => withLines v ("cat: " ++ path) path lines

def lineCount : Int := 10

def part (name : String) (pick : Nat → List String → List String) : Handler := fun args => report fun v => do
  let text := name ++ " [-n N] <file>"
  let option ← Arguments.countOption args "-n" lineCount text
  match option.rest with
  | [] => usage text
  | path :: _ => withLines v name path fun l => lines (pick option.count.toNat l)

def head : Handler := part "head" List.take

def tail : Handler := part "tail" fun n l => l.drop (l.length - n)

def select {ε : Type} (accepts : String → Except ε Bool) (numbers : Bool) :
    Nat → List String → Except ε (List String)
  | _, [] => .ok []
  | n, s :: rest => do
    let here ← accepts s
    let found ← select accepts numbers (n + 1) rest
    return if here then (if numbers then toString n ++ ":" ++ s else s) :: found else found

def matchLines {ε : Type} (accepts : String → Except ε Bool) (numbers : Bool) (l : List String) :
    Except ε (List String) := do
  match ← select accepts numbers 1 l with
  | [] => return ["(no matches)"]
  | found => return found

def grep : Handler := fun args => report fun v =>
  match Arguments.positional args with
  | source :: path :: _ =>
    match Pattern.read source (Arguments.hasFlag args 'i') with
    | .error (.flaw f place) => line ("grep: " ++ Pattern.describe source f place)
    | .error (.fault f) => .error (.fault f)
    | .ok pattern =>
      withLines v "grep" path fun l => do
        lines (← orFault (matchLines pattern.search (Arguments.hasFlag args 'n') l))
  | _ => usage "grep [-i] [-n] <pattern> <file>"

def wc : Handler := fun args => report fun v =>
  match args with
  | [] => usage "wc <file>"
  | path :: _ =>
    match v.read path with
    | .error e => line ("wc: " ++ e.message)
    | .ok content =>
      line (" ".intercalate [toString (Text.lines content).length,
        toString (Text.words content).length, toString content.length, path])

def nano : Handler := fun args =>
  match args with
  | [] => failUsage "nano <file>"
  | path :: _ =>
    .call .look fun v =>
      let content := match v.read path with
        | .ok content => content
        | .error _ => ""
      (Script.printAll (("--- Editing " ++ path ++ " (type :wq to save & exit) ---") ::
        Text.lines content ++ ["", "(editor not interactive in this demo)"])).bind fun _ => quietly

def stat : Handler := fun args => report fun v =>
  match args with
  | [] => usage "stat <path>"
  | path :: _ =>
    match v.stat path with
    | .error _ => line ("stat: " ++ path ++ ": " ++ noSuch)
    | .ok st => do
      let created ← orFault (stampText st.created)
      let updated ← orFault (stampText st.updated)
      lines ["  File: " ++ st.path, "  Type: " ++ (if st.isDir then "dir" else "file"),
        "  Size: " ++ toString st.size, "Create: " ++ created, "Modify: " ++ updated]

def touch : Handler := fun args =>
  match args with
  | [] => failUsage "touch <file>"
  | path :: _ => changing ("touch: " ++ path) (.touch path) quietly

/-- A command on two paths that does one thing to the files. -/
def between (name : String) (op : String → String → FileOp) : Handler := fun args =>
  match args with
  | source :: target :: _ => changing name (op source target) quietly
  | _ => failUsage (name ++ " <src> <dest>")

def mv : Handler := between "mv" .rename

def cp : Handler := between "cp" .copy

end Terminal.Commands
