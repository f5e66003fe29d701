import Terminal.Path
import Terminal.Files.Error
import Terminal.Files.Forest

/-!
A file system held in memory: a root directory and everything below it. Every operation gives the tree
as it leaves it together with its outcome, so that what a failed operation did is visible too.
-/

namespace Terminal

structure Tree where
  stamp : Stamp
  entries : Forest
  deriving DecidableEq, Repr

abbrev Tree.Step := Tree × Except FileError Unit

namespace Tree

def empty (now : Int) : Tree := ⟨.at now "/", .nil⟩

def node? (t : Tree) : List String → Option Node
  | [] => some (.dir t.stamp t.entries)
  | path => t.entries.walk? path

def get? (t : Tree) (path : String) : Option Node := t.node? (Path.split path)

def exists? (t : Tree) (path : String) : Bool := (t.get? path).isSome

def isDir (t : Tree) (path : String) : Bool := (t.get? path).any Node.isDir

def list (t : Tree) (path : String) : List String :=
  match t.get? path with
  | some (.dir _ below) => below.names
  | _ => []

def read (t : Tree) (path : String) : Except FileError String :=
  match t.get? path with
  | none => .error .noSuchFile
  | some (.dir _ _) => .error .notReadable
  | some (.file doc) => .ok doc.content

structure Stat where
  path : String
  name : String
  isDir : Bool
  size : Nat
  created : Int
  updated : Int
  deriving DecidableEq, Repr

def stat (t : Tree) (path : String) : Except FileError Stat :=
  match t.get? path with
  | none => .error .noSuchPath
  | some node =>
    .ok ⟨path, Path.name path, node.isDir, node.size, node.stamp.created, node.stamp.updated⟩

end Tree

/-- Walks down `path` from the entries of a directory and does `act` to the entries of the last one. A
directory that is missing is made on the way; a file on the way stops the walk. -/
def Forest.descend (now : Int) (act : Forest → Forest × Except FileError Unit) :
    List String → Forest → Forest × Except FileError Unit
  | [], f => act f
  | name :: path, f =>
    match f.find? name with
    | some (.file _) => (f, .error (.segmentIsFile name))
    | some (.dir stamp below) =>
      let (below', outcome) := descend now act path below
      (f.put name (.dir stamp below'), outcome)
    | none =>
      let (below', outcome) := descend now act path .nil
      (f.put name (.dir (.at now name) below'), outcome)

def Forest.detach : List String → Forest → Option Forest
  | [], f => some f
  | [name], f => some (f.remove name)
  | name :: next :: path, f =>
    match f.find? name with
    | some (.dir stamp below) =>
      (detach (next :: path) below).map fun below' => f.put name (.dir stamp below')
    | _ => none

namespace Tree

variable (now : Int)

def descend (act : Forest → Forest × Except FileError Unit) (path : List String) (t : Tree) : Step :=
  let (entries, outcome) := t.entries.descend now act path
  ({ t with entries }, outcome)

def modify (change : Node → Node) : List String → Tree → Tree
  | [], t =>
    match change (.dir t.stamp t.entries) with
    | .dir stamp entries => ⟨stamp, entries⟩
    | .file _ => t
  | path, t => { t with entries := t.entries.modify change path }

def mkdir (path : String) (t : Tree) : Step :=
  if t.isDir path then (t, .ok ())
  else t.descend now (fun f => (f, .ok ())) (Path.split path)

def write (path content : String) (t : Tree) : Step :=
  match (Path.split path).getLast? with
  | none => (t, .error .invalidPath)
  | some name =>
    t.descend now (fun f => match f.find? name with
      | some (.dir _ _) => (f, .error (.isDirectory path))
      | _ => (f.put name (.file ⟨content, .at now name⟩), .ok ())) (Path.split path).dropLast

def append (path content : String) (t : Tree) : Step :=
  match t.get? path with
  | none => t.write now path content
  | some (.dir _ _) => (t, .error (.cannotAppend path))
  | some (.file _) => (modify (·.append now content) (Path.split path) t, .ok ())

def touch (path : String) (t : Tree) : Step :=
  match t.get? path with
  | none => t.write now path ""
  | some _ => (modify (·.touch now) (Path.split path) t, .ok ())

/-- Removes one entry with everything below it. The root stays, and an entry that is missing from a
directory is no failure. -/
def rm (path : String) (t : Tree) : Step :=
  match t.entries.detach (Path.split path) with
  | some entries => ({ t with entries }, .ok ())
  | none => (t, .error (.missing path))

def rmdir (path : String) (t : Tree) : Step :=
  match t.get? path with
  | none => (t, .ok ())
  | some (.file _) => (t, .error .notADirectory)
  | some (.dir _ .nil) => t.rm path
  | some (.dir _ _) => (t, .error .notEmpty)

def copy (source target : String) (t : Tree) : Step :=
  match t.get? source with
  | none => (t, .error (.noSource source))
  | some (.dir _ _) => (t, .error (.isDirectory source))
  | some (.file doc) => t.write now target doc.content

def rename (source target : String) (t : Tree) : Step :=
  match t.get? source with
  | none => (t, .error (.missing source))
  | some (.dir _ _) => (t, .error .cannotRenameDirectory)
  | some (.file doc) =>
    match t.write now target doc.content with
    | (t', .error e) => (t', .error e)
    | (t', .ok ()) => if Path.split source = Path.split target then (t', .ok ()) else t'.rm source

def welcome : String := "Welcome to Terminal. Type `help` to get started."

def seeded : Tree :=
  let t := (empty now).mkdir now "/home" |>.1
  let t := t.mkdir now "/home/guest" |>.1
  let t := t.write now "/home/guest/readme.txt" welcome |>.1
  let t := t.mkdir now "/projects" |>.1
  t.write now "/projects/todo.md" "- build terminal\n- ship app" |>.1

end Tree

end Terminal
