import Terminal.Text.Pieces

namespace Terminal

/-- One line of the scrollback. An input line keeps the user, the host and the directory of the moment it was
typed at, so that it is drawn after the prompt of that moment ever after. -/
inductive Record where
  | input (text user host cwd : String)
  | output (text : String)
  | system (text : String)
  deriving DecidableEq, Repr

def promptText (user host cwd : String) : String := user ++ "@" ++ host ++ ":" ++ cwd ++ "$"

namespace Record

def text : Record → String
  | input text _ _ _ => text
  | output text => text
  | system text => text

def kind : Record → String
  | input _ _ _ _ => "input"
  | output _ => "output"
  | system _ => "system"

def prompt? : Record → Option String
  | input _ user host cwd => some (promptText user host cwd)
  | _ => none

def output? : Record → Option String
  | output text => some text
  | _ => none

def draw : Record → String
  | input text user host cwd => Text.trimRight (promptText user host cwd ++ " " ++ text)
  | r => r.text

end Record

end Terminal
