import Terminal.Clock
import Terminal.Commands.Basic
import Terminal.Url

namespace Terminal.Commands

def pingUsage : String := "ping [-c N] <host|url>"

def mean (times : List Int) : Except Fault Int :=
  (Fraction.held ⟨times.foldl (· + ·) 0, times.length⟩).map Fraction.round

def timesText : List Int → Except Fault (List String)
  | [] => .ok []
  | t :: times =>
    (mean (t :: times)).map fun m =>
      ["rtt min/avg/max = " ++ toString (times.foldl min t) ++ "/" ++ toString m ++ "/" ++
        toString (times.foldl max t) ++ " ms"]

def summary (target : String) (sent : Int) (times : List Int) : Except Fault (List String) :=
  (timesText times).map fun shown =>
    ("--- " ++ target ++ " ping statistics ---") ::
      (toString sent ++ " packets transmitted, " ++ toString times.length ++ " received") :: shown

def unlessCancelled {α : Type} (next : Script α) : Script α :=
  .call .look fun v => if v.cancelled then .fail .cancelled else next

def answerText (seq : Nat) (ms : Int) : String :=
  "seq=" ++ toString seq ++ " time=" ++ toString ms ++ " ms"

def lossText (seq : Nat) : String := "seq=" ++ toString seq ++ " timeout"

/-- Sends `left` probes, the first with the number `seq`, with a pause after each; `next` gets the times of
those that were answered. -/
def probes (url : String) (next : List Int → Script (Option Result)) :
    Nat → Nat → List Int → Script (Option Result)
  | 0, _, times => next times
  | left + 1, seq, times =>
    unlessCancelled <|
      .call (.probe url) fun echo =>
        match echo with
        | .cancelled => .fail .cancelled
        | .broken f => .fail (.fault f)
        | .answered ms =>
          .call (.print (answerText seq ms)) fun _ => .call .pause fun _ =>
            unlessCancelled (probes url next left (seq + 1) (times ++ [ms]))
        | .lost =>
          .call (.print (lossText seq)) fun _ => .call .pause fun _ =>
            unlessCancelled (probes url next left (seq + 1) times)

def ping : Handler := fun args =>
  .call .look fun v =>
    match Arguments.countOption args "-c" v.config.pingCount pingUsage with
    | .error e => .fail e
    | .ok ⟨_, []⟩ => failUsage pingUsage
    | .ok ⟨count, target :: _⟩ =>
      .call (.print ("PING " ++ target ++ " with HTTP HEAD (" ++ toString count ++ " packets)")) fun _ =>
        probes (Url.complete target)
          (fun times =>
            ((Script.ofExcept .fault (summary target count times)).bind Script.printAll).bind fun _ =>
              quietly)
          count.toNat 0 []

end Terminal.Commands
