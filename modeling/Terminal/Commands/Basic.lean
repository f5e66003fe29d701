import Terminal.Arguments
import Terminal.Script

namespace Terminal.Commands

def noSuch : String := "No such file or directory"

def report (f : View → Except Failure Result) : Script (Option Result) :=
  .call .look fun v =>
    match f v with
    | .ok r => .done (some r)
    | .error e => .fail e

def lines (l : List String) : Except Failure Result := .ok (.ofLines l)

def line (s : String) : Except Failure Result := lines [s]

def usage {α : Type} (text : String) : Except Failure α := .error (.usage text)

def quietly : Script (Option Result) := .done (some {})

def say (s : String) : Script (Option Result) := .done (some (.ofLines [s]))

def failUsage (text : String) : Script (Option Result) := .fail (.usage text)

def changing (label : String) (op : FileOp) (next : Script (Option Result)) : Script (Option Result) :=
  .call (.change op) fun outcome =>
    match outcome with
    | .ok () => next
    | .error e => say (label ++ ": " ++ e.message)

def orFault {α : Type} : Except Fault α → Except Failure α
  | .ok a => .ok a
  | .error f => .error (.fault f)

def orFileFault {α : Type} : Except FileError α → Except Failure α
  | .ok a => .ok a
  | .error e => .error (.fault (.file e))

def number (text : String) : Except Failure (Option Int) := orFault (Arguments.leadingInt text)

end Terminal.Commands
