import Terminal.Failure

namespace Terminal

inductive Level where
  | debug
  | info
  | warning
  | error
  deriving DecidableEq, Repr

namespace Level

def label : Level → String
  | debug => "DEBUG"
  | info => "INFO"
  | warning => "WARNING"
  | error => "ERROR"

def all : List Level := [debug, info, warning, error]

def ofLabel? (label : String) : Option Level := all.find? fun l => l.label == label

def rank : Level → Nat
  | debug => 0
  | info => 1
  | warning => 2
  | error => 3

end Level

structure LogEntry where
  level : Level
  message : String
  source : String
  user : String
  deriving DecidableEq, Repr

def LogEntry.text (e : LogEntry) : String :=
  "[" ++ e.level.label ++ "] " ++ e.source ++ ": " ++ e.message

structure Log where
  capacity : Option Nat
  entries : List LogEntry
  deriving DecidableEq, Repr

namespace Log

def empty (capacity : Option Nat) : Log := ⟨capacity, []⟩

def capacityLimit : Int := 0x7FFFFFFFFFFFFFFF

def start : Option Int → Except Fault Log
  | none => .ok (empty none)
  | some n =>
    if n < -capacityLimit - 1 ∨ capacityLimit < n then .error .capacityTooLarge
    else if n < 0 then .error .negativeCapacity
    else .ok (empty (some n.toNat))

def newest (capacity : Option Nat) (entries : List LogEntry) : List LogEntry :=
  match capacity with
  | none => entries
  | some n => entries.drop (entries.length - n)

def add (l : Log) (e : LogEntry) : Log := { l with entries := newest l.capacity (l.entries ++ [e]) }

def clear (l : Log) : Log := { l with entries := [] }

def size (l : Log) : Nat := l.entries.length

def select (least : Option Level) (source : Option String) (l : Log) : List LogEntry :=
  l.entries.filter fun e =>
    least.all (fun level => level.rank ≤ e.level.rank) && source.all (· == e.source)

theorem size_add_le {l : Log} {n : Nat} (h : l.capacity = some n) (e : LogEntry) :
    (l.add e).size ≤ n := by
  simp only [size, add, newest, h, List.length_drop]
  omega

end Log

end Terminal
