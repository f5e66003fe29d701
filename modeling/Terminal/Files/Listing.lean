import Terminal.Failure
import Terminal.Files.Tree

namespace Terminal

structure Listed where
  path : String
  isDir : Bool
  size : Nat
  created : Int
  updated : Int
  deriving DecidableEq, Repr

namespace Forest

def listing (base : String) : Forest → List Listed
  | nil => []
  | file n doc rest =>
    ⟨base ++ "/" ++ n, false, doc.content.length, doc.stamp.created, doc.stamp.updated⟩ ::
      listing base rest
  | dir n stamp below rest =>
    ⟨base ++ "/" ++ n, true, 0, stamp.created, stamp.updated⟩ ::
      (listing (base ++ "/" ++ n) below ++ listing base rest)

def isLast : Forest → Bool
  | nil => true
  | _ => false

def branch (rest : Forest) : String := if rest.isLast then "└── " else "├── "

def rail (rest : Forest) : String := if rest.isLast then "    " else "│   "

/-- The lines of a drawing, `depth` levels deep, each after `indent`. It fails where it comes to a directory
that is `room` levels down and is to be drawn too. -/
def draw (indent : String) : (room depth : Nat) → Forest → Except Fault (List String)
  | _, 0, _ => .ok []
  | 0, _ + 1, _ => .error .tooManyLevels
  | _ + 1, _ + 1, nil => .ok []
  | room + 1, depth + 1, file n _ rest => do
    let others ← draw indent (room + 1) (depth + 1) rest
    return (indent ++ branch rest ++ n) :: others
  | room + 1, depth + 1, dir n _ below rest => do
    let inner ← draw (indent ++ rail rest) room depth below
    let others ← draw indent (room + 1) (depth + 1) rest
    return (indent ++ branch rest ++ n ++ "/") :: (inner ++ others)

end Forest

namespace Tree

def listing (t : Tree) : List Listed := t.entries.listing ""

def drawing (room : Nat) (t : Tree) (path : String) (depth : Int) : Except Fault String :=
  match t.get? path with
  | some (.dir _ below) => do
    let lines ← below.draw "" room depth.toNat
    return "\n".intercalate (Path.header path :: lines)
  | _ => .ok ""

/-- How many levels there is room for in a drawing. -/
def levelLimit : Nat := 975

end Tree

end Terminal
