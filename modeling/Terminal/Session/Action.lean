import Terminal.Session.Basic

namespace Terminal.Session

abbrev Emit := Record → Session → Session

def banner : List String := ["Welcome to Stellar Terminal. Type `help` to begin.", ""]

def cancelMark : String := "^C"

section

variable (emit : Emit)

def print (text : String) (s : Session) : Session := emit (.output text) s

def welcome (s : Session) : Session :=
  if s.welcomed then s
  else banner.foldl (fun s text => emit (.system text) s) { s with welcomed := true }

def cancel (s : Session) : Bool × Session :=
  match s.token with
  | none => (false, s)
  | some t => (true, { s with token := some t.cancel })

def interrupt (line : String) (s : Session) : Session :=
  if s.running then s.cancel.2
  else if line = "" then s
  else { emit (s.typed (line ++ cancelMark)) s with place := none }

def complete (line : String) (s : Session) : String × Session :=
  if s.running then (line, s)
  else
    let c := Completion.ofLine s.source line
    (c.line, if c.shown.isEmpty then s else s.print emit ("  ".intercalate c.shown))

def older (s : Session) : Option String × Session :=
  let (place, line) := Recall.older s.history s.place
  (line, { s with place })

def newer (s : Session) : Option String × Session :=
  let (place, line) := Recall.newer s.history s.place
  (line, { s with place })

/-- Does what a client asks for. A line that is offered is not run: it has to be submitted from outside. -/
def act : (a : Action) → Session → a.Reply × Session
  | .glance, s => (s.glance, s)
  | .prompt, s => (s.prompt, s)
  | .running, s => (s.running, s)
  | .phase, s => (s.phase, s)
  | .submit _, s => (if s.running then .busy else .idle, s)
  | .cancel, s => s.cancel
  | .interrupt line, s => ((), s.interrupt emit line)
  | .complete line, s => s.complete emit line
  | .clear, s => ((), s.clear)
  | .welcome, s => ((), s.welcome emit)
  | .moveTo path, s => ((), s.moveTo path)
  | .cycleTheme, s => let s := s.cycleTheme; (s.theme, s)
  | .older, s => s.older
  | .newer, s => s.newer

def fire (s : Session) (h : Hook) : Session :=
  let (reply, s) := s.act emit h.action
  { s with watcher := { s.watcher with replies := s.watcher.replies ++ [⟨h.action, reply⟩] } }

end

/-- Adds a record where hooks fire up to `depth` deep. -/
def emitWithin : Nat → Emit
  | 0, r, s => s.push r
  | depth + 1, r, s =>
    let s := s.push r
    s.watcher.due.foldl (fire (emitWithin depth)) s

def emit (r : Record) (s : Session) : Session := emitWithin s.watcher.hooks.length r s

end Terminal.Session
