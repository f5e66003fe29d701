import Terminal.Script

namespace Terminal

structure Registry where
  commands : Table Command
  frozen : Bool

inductive RegistryError where
  | frozen
  deriving DecidableEq, Repr

def RegistryError.message : RegistryError → String
  | frozen => "Command registry is frozen"

namespace Registry

def empty : Registry := ⟨[], false⟩

def get? (r : Registry) (name : String) : Option Command := r.commands.get? name

def names (r : Registry) : List String := r.commands.keys

def infos (r : Registry) : List CommandInfo := r.commands.map fun e => e.2.info

def size (r : Registry) : Nat := r.commands.length

def freeze (r : Registry) : Registry := { r with frozen := true }

def add (c : Command) (r : Registry) : Except RegistryError Registry :=
  if r.frozen then .error .frozen
  else .ok { r with commands := r.commands.put c.info.name c }

def aliasOf (name : String) (description : Option String) (c : Command) : Command :=
  let text := description.getD ""
  { c with info := { c.info with
      name
      description := if text = "" then c.info.description ++ " (alias)" else text } }

def addAlias (name existing : String) (description : Option String) (r : Registry) :
    Except RegistryError Registry :=
  if r.frozen then .error .frozen
  else match r.get? existing with
    | none => .ok r
    | some c => r.add (aliasOf name description c)

theorem get?_add_self {r r' : Registry} {c : Command} (h : r.add c = .ok r') :
    r'.get? c.info.name = some c := by
  simp only [add] at h
  split at h
  · simp at h
  · simp only [Except.ok.injEq] at h
    subst h
    simp [get?]

end Registry

end Terminal
