import Terminal.Session.Turn

namespace Terminal.Session

def performAlone (listening : Bool) (prior : List String) :
    (c : Call) → Session → c.Reply × Session
  | .moveTo path, s => ((), { s with cwd := path })
  | .print text, s => ((), if listening then s.push (.output text) else s)
  | .openLink url, s => ((), if listening then s.openLink url else s)
  | c, s => s.perform (fun r s => s.push r) prior c

def trial (listening : Bool) (c : Command) (args : List String) (s : Session) :
    Script.Outcome (Option Result) × Session :=
  (c.handler args).run (performAlone listening s.history) s.launch

end Terminal.Session
