import Terminal.Files.Tree

namespace Terminal

inductive FileOp where
  | mkdir (path : String)
  | write (path content : String)
  | append (path content : String)
  | touch (path : String)
  | rm (path : String)
  | rmdir (path : String)
  | copy (source target : String)
  | rename (source target : String)
  deriving DecidableEq, Repr

namespace FileOp

def perform (now : Int) (t : Tree) : FileOp → Tree.Step
  | mkdir path => t.mkdir now path
  | write path content => t.write now path content
  | append path content => t.append now path content
  | touch path => t.touch now path
  | rm path => t.rm path
  | rmdir path => t.rmdir path
  | copy source target => t.copy now source target
  | rename source target => t.rename now source target

def mapPaths (f : String → String) : FileOp → FileOp
  | mkdir path => mkdir (f path)
  | write path content => write (f path) content
  | append path content => append (f path) content
  | touch path => touch (f path)
  | rm path => rm (f path)
  | rmdir path => rmdir (f path)
  | copy source target => copy (f source) (f target)
  | rename source target => rename (f source) (f target)

def resolve (cwd : String) : FileOp → FileOp := mapPaths (Path.resolve cwd)

end FileOp

end Terminal
