import Terminal.Text.Pieces

namespace Terminal.Path

def isSlash (c : Char) : Bool := c == '/' || c == '\\'

def split (path : String) : List String := Text.tokens isSlash path

def absolute (parts : List String) : String := "/" ++ "/".intercalate parts

/-- Reads `.` as nothing and `..` as one step up; `stack` holds the components so far, last first. -/
def settle : List String → List String → List String
  | stack, [] => stack.reverse
  | stack, part :: parts =>
    if part = "." then settle stack parts
    else if part = ".." then settle stack.tail parts
    else settle (part :: stack) parts

/-- An empty path and `.` mean the working directory, a path with a leading slash means itself, and any
other path is read below the working directory. -/
def resolve (cwd path : String) : String :=
  if path = "" ∨ path = "." then if cwd = "" then "/" else cwd
  else if Text.startsWith path "/" then path
  else absolute (settle [] (split cwd ++ split path))

def normalize (path : String) : String := absolute (settle [] (split path))

def parent (path : String) : String := absolute (split path).dropLast

def name (path : String) : String := (split path).getLastD "/"

def header (path : String) : String :=
  if path = "/" then "/" else .ofList (Text.dropRightWhile (· == '/') path.toList) ++ "/"

def cutLast (path : String) : String × String :=
  let base := path.toList.reverse.takeWhile (· != '/')
  (.ofList (path.toList.take (path.length - base.length)), .ofList base.reverse)

def IsComponent (part : String) : Prop :=
  part ≠ "" ∧ part ≠ "." ∧ part ≠ ".." ∧ ∀ c ∈ part.toList, isSlash c = false

/-- The one spelling that a stored path has. -/
def Canonical (path : String) : Prop :=
  ∃ parts, (∀ part ∈ parts, IsComponent part) ∧ path = absolute parts

end Terminal.Path
