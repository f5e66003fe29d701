import Terminal.Calendar
import Terminal.Commands.Basic

namespace Terminal.Commands

def columnWidth (names : List String) : Int := names.foldl (fun w n => max w (n.length : Int)) 0

def overview (commands : List CommandInfo) : List String :=
  let width := columnWidth (commands.map CommandInfo.name)
  "Available commands:" ::
    (commands.map fun c => Text.padRight c.name width ++ "  - " ++ c.description) ++
    ["Use `help <command>` or `man <command>` to learn more."]

def help : Handler := fun args => report fun v =>
  match args.head?.bind v.command? with
  | some c => lines c.describe
  | none => lines (overview v.commands)

def man : Handler := fun args => report fun v =>
  match args with
  | [] => usage "man <command>"
  | name :: _ =>
    match v.command? name with
    | some c => lines c.describe
    | none => line ("man: " ++ name ++ ": not found")

def which : Handler := fun args => report fun v =>
  match args with
  | [] => usage "which <command>"
  | name :: _ =>
    if (v.command? name).isSome then line ("/bin/" ++ name) else line (name ++ " not found")

def clear : Handler := fun _ => .done (some { clear := true })

def echo : Handler := fun args => say (" ".intercalate args)

def uname : Handler := fun _ => say "Darwin Web 24.4.0 x86_64 (Browser)"

def about : Handler := fun _ =>
  .done (some (.ofLines [
    "Stellar Terminal v1.1",
    "Web terminal with a virtual filesystem and rich commands.",
    "Type `help` to see commands."]))

def date : Handler := fun _ => report fun v => do
  let now ← orFault (Moment.ofMillis v.wall)
  line now.longText

def uptime : Handler := fun _ => report fun v => do
  let start ← orFault (Clock.seconds v.startedAt)
  let now ← orFault (Clock.seconds v.monotonic)
  line ("up " ++ toString (← orFault (Clock.elapsed start now)) ++ "s")

def setAlias : Handler := fun args =>
  say (if args.isEmpty then "(alias not implemented)" else "(alias set - no effect in demo)")

end Terminal.Commands
