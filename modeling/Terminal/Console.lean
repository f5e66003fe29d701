import Terminal.Session.Turn

namespace Terminal.Console

inductive Key where
  | line (text : String)
  | interrupt (typed : String)
  | tab (text line : String)
  | wait (ms : Int)
  deriving DecidableEq, Repr

def title : String :=
  let border := String.ofList (List.replicate 38 '=')
  "\n  " ++ border ++ "\n         Stellar Terminal v1.1\n  " ++ border ++ "\n"

def clearScreen : String := "\x1b[2J\x1b[H"

def editing : List String := [" \t", "tab: complete"]

def promptText (s : Session) : String := s.prompt ++ " "

def noticeText : Notice → String
  | .record (.input ..) => ""
  | .record r => r.draw ++ "\n"
  | .clear => clearScreen

def isExit (line : String) : Bool :=
  let word := Text.trim line
  word == "exit" || word == "logout"

structure Screen where
  session : Session
  written : List String := []
  tabs : List (List String) := []
  closed : Bool := false

namespace Screen

def write (text : String) (c : Screen) : Screen := { c with written := c.written ++ [text] }

def refresh (c : Screen) : Screen :=
  { c.write (String.join (c.session.notices.map noticeText)) with
    session := { c.session with notices := [] } }

def change (f : Session → Session) (c : Screen) : Screen := { c with session := f c.session }

def showPrompt (c : Screen) : Screen := c.write (promptText c.session)

def close (c : Screen) : Screen := { c with closed := true }

def logOut (c : Screen) : Screen := (c.write "logout\n").close

def start (s : Session) : Screen :=
  let c : Screen := { session := s }
  ((c.write (title ++ "\n")).change (·.welcome Session.emit)).refresh.showPrompt

/-- Runs a line. Nothing more is read while a command runs, so a command that never ends is the last thing
that happens. -/
def enter (text : String) (c : Screen) : Screen :=
  if isExit text then c.logOut
  else match c.session.submit text with
    | (.endless, session) => { c with session }.refresh.close
    | (_, session) => { c with session }.refresh.showPrompt

def press (c : Screen) (key : Key) : Screen :=
  if c.closed then c
  else match key with
    | .line text => c.enter text
    | .interrupt typed =>
      ((c.write "^C\n").change (·.interrupt Session.emit typed)).refresh.showPrompt
    | .tab text line =>
      { c with tabs := c.tabs ++ [Completion.candidates c.session.source text line] }
    | .wait ms => c.change (·.advance ms)

def endInput (c : Screen) : Screen := if c.closed then c else (c.write "\n").logOut

end Screen

def run (keys : List Key) (s : Session) : Screen := (keys.foldl Screen.press (.start s)).endInput

end Terminal.Console
