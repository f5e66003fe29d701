import Terminal.Clock
import Terminal.Completion
import Terminal.Log
import Terminal.Recall
import Terminal.Registry
import Terminal.Token

namespace Terminal

structure Turn where
  records : List Record := []
  cleared : Bool := false
  cancelled : Bool := false
  deriving DecidableEq, Repr

def Turn.output (t : Turn) : List String := t.records.filterMap Record.output?

inductive Notice where
  | record (r : Record)
  | clear
  deriving DecidableEq, Repr

inductive ProbeEnd where
  | answer (ticks : Int)
  | failure
  | silence
  deriving DecidableEq, Repr

structure Probe where
  ending : ProbeEnd := .answer 0
  cancels : Bool := false
  deriving DecidableEq, Repr

/-- What lies around a session: the clocks in milliseconds, the one for probes in its own ticks, how the next
probes end and all that come after them, whether the next pauses are cut short, and what was sent out. -/
structure World where
  wall : Int
  monotonic : Int := 0
  ticks : Int := 0
  probes : List Probe := []
  laterProbe : Probe := {}
  pauses : List Bool := []
  probed : List (String × Option Number) := []
  opened : List String := []
  notes : List String := []
  deriving DecidableEq, Repr

/-- Something that a listener does as soon as it hears of the record with the number `after`. -/
structure Hook where
  after : Nat
  action : Action
  deriving DecidableEq, Repr

structure Watcher where
  hooks : List Hook := []
  heard : Nat := 0
  replies : List ((a : Action) × a.Reply) := []

def Watcher.due (w : Watcher) : List Hook := w.hooks.filter fun h => h.after == w.heard

structure Session where
  config : Config
  files : Tree
  registry : Registry
  cwd : String
  env : Environment
  history : List String := []
  place : Option Nat := none
  scrollback : List Record := []
  phase : Phase := .idle
  token : Option Token := none
  turn : Option Turn := none
  welcomed : Bool := false
  startedAt : Int
  log : Log
  world : World
  notices : List Notice := []
  watcher : Watcher := {}

namespace Session

def logCapacity : Nat := 1000

def start (config : Config) (files : Tree) (registry : Registry) (log : Log) (world : World) : Session :=
  let cwd := Path.normalize config.home
  { config, files, registry, cwd, log, world
    env := config.environment.put "PWD" cwd
    startedAt := world.monotonic }

def valueOf (s : Session) (key : String) : String := (s.env.get? key).getD ""

def user (s : Session) : String := s.valueOf "USER"

def host (s : Session) : String := s.valueOf "HOST"

def prompt (s : Session) : String := promptText s.user s.host s.cwd

def theme (s : Session) : ThemeName := .ofLabel (s.env.get? "THEME")

def running (s : Session) : Bool := s.phase == .running

def cancelled (s : Session) : Bool := s.token.any Token.cancelled

def push (r : Record) (s : Session) : Session :=
  { s with
    scrollback := s.scrollback ++ [r]
    turn := s.turn.map fun t => { t with records := t.records ++ [r] }
    notices := s.notices ++ [.record r]
    watcher := { s.watcher with heard := s.watcher.heard + 1 } }

def clear (s : Session) : Session :=
  { s with
    scrollback := []
    turn := s.turn.map fun t => { t with records := [], cleared := true }
    notices := s.notices ++ [.clear] }

def typed (s : Session) (text : String) : Record := .input text s.user s.host s.cwd

def report (level : Level) (message : String) (s : Session) : Session :=
  { s with log := s.log.add ⟨level, message, "session", s.user⟩ }

def moveTo (path : String) (s : Session) : Session :=
  let cwd := Path.normalize (Path.resolve s.cwd path)
  { s with cwd, env := s.env.put "PWD" cwd }

def setVariable (key value : String) (s : Session) : Session :=
  { s with env := s.env.put key value }

def cycleTheme (s : Session) : Session :=
  let name := s.theme.next
  (s.setVariable "THEME" name.label).report .info ("theme set to " ++ name.label)

def glance (s : Session) : Glance := ⟨s.scrollback, s.running, s.cwd, s.prompt, s.theme⟩

def source (s : Session) : Completion.Source := ⟨s.registry.names, s.files, s.cwd⟩

def openLink (url : String) (s : Session) : Session :=
  { s with world := { s.world with opened := s.world.opened ++ [url] } }

def advance (ms : Int) (s : Session) : Session :=
  { s with world := { s.world with
      wall := s.world.wall + ms, monotonic := s.world.monotonic + ms } }

def edit (op : FileOp) (s : Session) : Except FileError Unit × Session :=
  let (files, outcome) := op.perform s.world.wall s.files
  (outcome, { s with files })

def watch (hooks : List Hook) (s : Session) : Session := { s with watcher := { hooks } }

@[simp] theorem scrollback_push (r : Record) (s : Session) :
    (s.push r).scrollback = s.scrollback ++ [r] := rfl

@[simp] theorem scrollback_clear (s : Session) : s.clear.scrollback = [] := rfl

end Session

end Terminal
