import Terminal.Files.Tree

namespace Terminal

structure Completion where
  line : String
  shown : List String := []
  deriving DecidableEq, Repr

structure PathCandidate where
  path : String
  isDir : Bool
  deriving DecidableEq, Repr

def PathCandidate.text (c : PathCandidate) : String := if c.isDir then c.path ++ "/" else c.path

namespace Completion

def commonStart : List Char → List Char → List Char
  | a :: as, b :: bs => if a = b then a :: commonStart as bs else []
  | _, _ => []

def sharedStart : List String → String
  | [] => ""
  | s :: rest => .ofList (rest.foldl (fun start t => commonStart start t.toList) s.toList)

structure Source where
  commands : List String
  files : Tree
  cwd : String

def commandCandidates (src : Source) (start : String) : List String :=
  src.commands.filter fun name => Text.startsWith name start

def lookupPath (head : String) : String :=
  let bare := String.ofList (Text.dropRightWhile (· == '/') head.toList)
  if bare ≠ "" then bare else if head ≠ "" then "/" else "."

def pathCandidates (src : Source) (typed : String) : List PathCandidate :=
  let (head, base) := Path.cutLast typed
  let dir := Path.resolve src.cwd (lookupPath head)
  if src.files.isDir dir then
    ((src.files.list dir).filter fun name => Text.startsWith name base).map fun name =>
      ⟨head ++ name, src.files.isDir (Path.resolve dir name)⟩
  else []

def endsBlank (line : String) : Bool := line.toList.getLast?.any Text.isBlank

def candidates (src : Source) (text line : String) : List String :=
  let words := Text.words line
  if words.isEmpty || (words.length == 1 && line.toList.getLast? != some ' ') then
    commandCandidates src text
  else (pathCandidates src text).map PathCandidate.text

def firstWord (src : Source) (line typed : String) : Completion :=
  if typed = "" then ⟨line, []⟩
  else match commandCandidates src typed with
    | [] => ⟨line, []⟩
    | [name] => ⟨name ++ " ", []⟩
    | names =>
      let start := sharedStart names
      if start ≠ "" ∧ start ≠ typed then ⟨start, []⟩ else ⟨line, names⟩

def withLast (fields : List String) (last : String) : String :=
  " ".intercalate (fields.dropLast ++ [last])

def laterWord (src : Source) (line : String) : Completion :=
  let fields := Text.fields line
  let last := fields.getLastD ""
  if last = "" then ⟨line, []⟩
  else match pathCandidates src last with
    | [] => ⟨line, []⟩
    | [only] => ⟨withLast fields (only.path ++ if only.isDir then "/" else " "), []⟩
    | found =>
      let (head, base) := Path.cutLast last
      let names := found.map fun c => String.ofList (c.path.toList.drop head.length)
      let start := sharedStart names
      if start ≠ "" ∧ start ≠ base then ⟨withLast fields (head ++ start), []⟩ else ⟨line, names⟩

def ofLine (src : Source) (line : String) : Completion :=
  match Text.words line with
  | [] => if endsBlank line then laterWord src line else firstWord src line ""
  | [word] => if endsBlank line then laterWord src line else firstWord src line word
  | _ => laterWord src line

/-- The candidate at a place; a place below zero counts from the end. `none` if there is no such place to
count to. -/
def pick? (found : List String) (place : Int) : Option (Option String) :=
  if 0 ≤ place then some found[place.toNat]?
  else if found.length < place.natAbs then none
  else some found[found.length - place.natAbs]?

end Completion

end Terminal
