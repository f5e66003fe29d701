import Terminal.Session.Action

namespace Terminal.Session

def view (prior : List String) (s : Session) : View where
  cwd := s.cwd
  env := s.env
  files := s.files
  history := prior
  commands := s.registry.infos
  config := s.config
  startedAt := s.startedAt
  wall := s.world.wall
  monotonic := s.world.monotonic
  cancelled := s.cancelled

def takeProbe (url : String) (s : Session) : Probe × Session :=
  (s.world.probes.headD s.world.laterProbe,
    { s with world := { s.world with
        probes := s.world.probes.tail
        probed := s.world.probed ++ [(url, s.config.pingTimeout)] } })

def tick (ticks : Int) (s : Session) : Session :=
  { s with world := { s.world with ticks := s.world.ticks + ticks } }

def timed (start : Fraction) (s : Session) : Echo :=
  match Clock.probeSeconds s.world.ticks >>= Clock.roundTrip start with
  | .ok ms => .answered ms
  | .error f => .broken f

/-- Waits for the end of the next probe. An answer that is there is heard even if the command was cancelled
meanwhile. -/
def awaitProbe (url : String) (start : Fraction) (s : Session) : Echo × Session :=
  let (p, s) := s.takeProbe url
  let s := if p.cancels then s.cancel.2 else s
  match p.ending with
  | .answer ticks => let s := s.tick ticks; (s.timed start, s)
  | .failure => (.lost, s)
  | .silence => (if s.cancelled then .cancelled else .lost, s)

def probe (url : String) (s : Session) : Echo × Session :=
  if s.cancelled then (.cancelled, s)
  else match Clock.probeSeconds s.world.ticks with
    | .ok start => s.awaitProbe url start
    | .error f => (.broken f, s)

def pause (s : Session) : Session :=
  if s.cancelled then s
  else
    let cut := s.world.pauses.headD false
    let s := { s with world := { s.world with pauses := s.world.pauses.tail } }
    if cut then s.cancel.2 else s

def perform (emit : Emit) (prior : List String) : (c : Call) → Session → c.Reply × Session
  | .look, s => (s.view prior, s)
  | .print text, s => ((), if s.cancelled then s else s.print emit text)
  | .clear, s => ((), s.clear)
  | .moveTo path, s => ((), s.moveTo path)
  | .setVariable key value, s => ((), s.setVariable key value)
  | .openLink url, s => ((), s.openLink url)
  | .change op, s => s.edit (op.resolve s.cwd)
  | .probe url, s => s.probe url
  | .pause, s => ((), s.pause)
  | .act a, s => s.act emit a
  | .note text, s => ((), { s with world := { s.world with notes := s.world.notes ++ [text] } })

def apply (emit : Emit) (r : Result) (s : Session) : Session :=
  let s := if r.clear then s.clear else s
  let s := (r.lines.getD []).foldl (fun s line => s.print emit line) s
  match r.cwd with
  | some path => s.moveTo path
  | none => s

def markCancelled (s : Session) : Session :=
  { s with turn := s.turn.map fun t => { t with cancelled := true } }

def endCancelled (emit : Emit) (name : String) (s : Session) : Session :=
  (s.markCancelled.report .info ("cancelled: " ++ name)).print emit cancelMark

def endFault (emit : Emit) (name : String) (f : Fault) (s : Session) : Session :=
  if s.cancelled then s.markCancelled.print emit cancelMark
  else
    (s.report .error (name ++ ": " ++ f.label ++ ": " ++ f.message)).print emit
      (if f.message = "" then f.label else f.message)

def conclude (emit : Emit) (name : String) (ending : Except Failure (Option Result)) (s : Session) :
    Session :=
  match ending with
  | .ok result =>
    if s.cancelled then s.endCancelled emit name
    else match result with
      | some r => s.apply emit r
      | none => s
  | .error .cancelled => s.endCancelled emit name
  | .error (.fault f) => s.endFault emit name f
  | .error f => (s.report .warning f.message).print emit f.message

def launch (s : Session) : Session := { s with token := some .fresh, phase := .running }

def land (s : Session) : Session := { s with token := none, phase := .idle }

inductive Submission where
  | settled (t : Turn)
  | busy
  | endless
  deriving DecidableEq, Repr

def finish (s : Session) : Submission × Session :=
  (.settled (s.turn.getD {}), { s with turn := none })

def runCommand (emit : Emit) (prior : List String) (c : Command) (name : String) (args : List String)
    (s : Session) : Submission × Session :=
  match (c.handler args).run (perform emit prior) s.launch with
  | (.done result, s) => (s.conclude emit name (.ok result)).land.finish
  | (.failed f, s) => (s.conclude emit name (.error f)).land.finish
  | (.endless, s) => (.endless, s)

/-- Records a line and does what it says. A blank line is recorded as empty and does nothing more; the command
of any other line is looked up after the line is added to the history. -/
def submit (line : String) (s : Session) : Submission × Session :=
  if s.running then (.busy, s)
  else
    let s := { s with turn := some {} }
    match Text.words line with
    | [] => (emit (s.typed "") s).finish
    | name :: args =>
      let s := emit (s.typed line) s
      let prior := s.history
      let s := { s with history := s.history ++ [line], place := none }
      match s.registry.get? name with
      | none =>
        let message := "command not found: " ++ name
        ((s.report .warning message).print emit message).finish
      | some c => (s.report .debug ("run " ++ Text.trim line)).runCommand emit prior c name args

end Terminal.Session
