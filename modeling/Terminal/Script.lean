import Terminal.Config
import Terminal.Failure
import Terminal.Files.Listing
import Terminal.Files.Operation
import Terminal.Record
import Terminal.Theme

/-!
Scripts: what a command does, one call after the other. A call goes to the session that the command runs in,
and the script goes on with the reply. Calls change nothing by themselves: what they mean is said where a
script is run.
-/

namespace Terminal

structure CommandInfo where
  name : String
  description : String
  usage : Option String := none
  deriving DecidableEq, Repr

def CommandInfo.describe (c : CommandInfo) : List String :=
  (c.name ++ " - " ++ c.description) ::
    match c.usage with
    | none | some "" => []
    | some usage => ["usage: " ++ usage]

inductive Phase where
  | idle
  | running
  deriving DecidableEq, Repr

def Phase.label : Phase → String
  | idle => "idle"
  | running => "running"

structure Glance where
  scrollback : List Record
  running : Bool
  cwd : String
  prompt : String
  theme : ThemeName

inductive Offer where
  | busy
  | idle
  deriving DecidableEq, Repr

inductive Action where
  | glance
  | prompt
  | running
  | phase
  | submit (line : String)
  | cancel
  | interrupt (typed : String)
  | complete (line : String)
  | clear
  | welcome
  | moveTo (path : String)
  | cycleTheme
  | older
  | newer
  deriving DecidableEq, Repr

abbrev Action.Reply : Action → Type
  | glance => Glance
  | phase => Phase
  | submit _ => Offer
  | cancel | running => Bool
  | prompt | complete _ => String
  | cycleTheme => ThemeName
  | older | newer => Option String
  | interrupt _ | clear | welcome | moveTo _ => Unit

structure View where
  cwd : String
  env : Environment
  files : Tree
  history : List String
  commands : List CommandInfo
  config : Config
  startedAt : Int
  wall : Int
  monotonic : Int
  cancelled : Bool

/-- How a probe was answered; its time cannot be told where a clock has run too far. -/
inductive Echo where
  | answered (ms : Int)
  | lost
  | cancelled
  | broken (f : Fault)
  deriving DecidableEq, Repr

inductive Call where
  | look
  | print (text : String)
  | clear
  | moveTo (path : String)
  | setVariable (key value : String)
  | openLink (url : String)
  | change (op : FileOp)
  | probe (url : String)
  | pause
  | act (a : Action)
  | note (text : String)

abbrev Call.Reply : Call → Type
  | look => View
  | change _ => Except FileError Unit
  | probe _ => Echo
  | act a => a.Reply
  | print _ | clear | moveTo _ | setVariable _ _ | openLink _ | pause | note _ => Unit

inductive Script (α : Type) where
  | done (a : α)
  | fail (f : Failure)
  | endless
  | call (c : Call) (next : c.Reply → Script α)

namespace Script

variable {α β σ : Type}

protected def bind : Script α → (α → Script β) → Script β
  | done a, f => f a
  | fail e, _ => fail e
  | endless, _ => endless
  | call c next, f => call c fun r => (next r).bind f

instance : Monad Script where
  pure := done
  bind := Script.bind

@[simp] theorem bind_done (a : α) (f : α → Script β) : (done a).bind f = f a := rfl

@[simp] theorem bind_done_right (s : Script α) : s.bind done = s := by
  induction s with
  | call c next ih => simp [Script.bind, ih]
  | _ => rfl

theorem bind_assoc {γ : Type} (s : Script α) (f : α → Script β) (g : β → Script γ) :
    (s.bind f).bind g = s.bind fun a => (f a).bind g := by
  induction s with
  | call c next ih => simp [Script.bind, ih]
  | _ => rfl

def ask (c : Call) : Script c.Reply := call c done

def look : Script View := ask .look

def print (text : String) : Script Unit := ask (.print text)

def change (op : FileOp) : Script (Except FileError Unit) := ask (.change op)

def printAll : List String → Script Unit
  | [] => done ()
  | text :: rest => call (.print text) fun _ => printAll rest

def ofExcept {ε : Type} (f : ε → Failure) : Except ε α → Script α
  | .ok a => done a
  | .error e => fail (f e)

inductive Outcome (α : Type) where
  | done (a : α)
  | failed (f : Failure)
  | endless

def run (perform : (c : Call) → σ → c.Reply × σ) : Script α → σ → Outcome α × σ
  | done a, s => (.done a, s)
  | fail f, s => (.failed f, s)
  | endless, s => (.endless, s)
  | call c next, s =>
    let (reply, s) := perform c s
    run perform (next reply) s

end Script

structure Result where
  lines : Option (List String) := none
  clear : Bool := false
  cwd : Option String := none
  deriving DecidableEq, Repr

def Result.ofLines (lines : List String) : Result := { lines := some lines }

abbrev Handler := List String → Script (Option Result)

structure Command where
  info : CommandInfo
  handler : Handler

namespace View

def resolve (v : View) (path : String) : String := Path.resolve v.cwd path

def exists? (v : View) (path : String) : Bool := v.files.exists? (v.resolve path)

def isDir (v : View) (path : String) : Bool := v.files.isDir (v.resolve path)

def list (v : View) (path : String) : List String := v.files.list (v.resolve path)

def read (v : View) (path : String) : Except FileError String := v.files.read (v.resolve path)

def stat (v : View) (path : String) : Except FileError Tree.Stat := v.files.stat (v.resolve path)

def drawing (v : View) (path : String) (depth : Int) : Except Fault String :=
  v.files.drawing Tree.levelLimit (v.resolve path) depth

def command? (v : View) (name : String) : Option CommandInfo :=
  v.commands.find? fun c => c.name == name

end View

end Terminal
