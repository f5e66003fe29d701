import Terminal.Commands.Basic
import Terminal.Text.Case
import Terminal.Url

namespace Terminal.Commands

def pwd : Handler := fun _ => report fun v => line v.cwd

def whoami : Handler := fun _ => report fun v => line ((v.env.get? "USER").getD "")

def env : Handler := fun _ => report fun v => lines (v.env.map fun e => e.1 ++ "=" ++ e.2)

def assignment? (text : String) : Option (String × String) :=
  match Text.cutAt '=' text.toList with
  | some (c :: cs, value) => some (.ofList (c :: cs), .ofList value)
  | _ => none

def set : Handler := fun args =>
  match args.head?.bind assignment? with
  | none => failUsage "set KEY=value"
  | some (key, value) =>
    .call (.setVariable key value) fun _ =>
      if key = "PWD" then .call (.moveTo value) fun _ => quietly else quietly

def themes : String :=
  "Available themes: " ++ ", ".intercalate (ThemeName.all.map ThemeName.label)

def currentTheme (v : View) : String := "Current theme: " ++ (v.env.get? "THEME").getD "None"

def theme : Handler := fun args =>
  match String.ofList (Text.lowerText (args.headD "").toList) with
  | "" => report fun v => lines [currentTheme v, themes]
  | "list" => say themes
  | "current" => report fun v => line (currentTheme v)
  | name =>
    match ThemeName.ofLabel? name with
    | none => say themes
    | some t => .call (.setVariable "THEME" t.label) fun _ => say ("Theme set to " ++ t.label)

def openLink : Handler := fun args =>
  match args with
  | [] => failUsage "open <url>"
  | target :: _ =>
    let url := Url.complete target
    match Url.check url with
    | .error _ => say "open: invalid URL"
    | .ok () => .call (.openLink url) fun _ => say ("Opening " ++ url ++ "...")

def numbered (first : Nat) : List String → List String
  | [] => []
  | s :: rest => (toString first ++ "  " ++ s) :: numbered (first + 1) rest

def numberedTail (all : List String) (count : Nat) : List String :=
  let skipped := all.length - count
  numbered (skipped + 1) (all.drop skipped)

def historyUsage : String := "history [-n N]"

def history : Handler := fun args => report fun v =>
  match Arguments.takeOption "-n" args with
  | none => lines (numbered 1 v.history)
  | some (none, _) => usage historyUsage
  | some (some value, _) => do
    match ← number value with
    | none => usage historyUsage
    | some n => if n ≤ 0 then usage historyUsage else lines (numberedTail v.history n.toNat)

end Terminal.Commands
