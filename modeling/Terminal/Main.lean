import Std.Time.DateTime.Timestamp
import Terminal.Commands
import Terminal.Console

namespace Terminal.Console

def wallMillis : IO Int :=
  return (← Std.Time.Timestamp.now).toMillisecondsSinceUnixEpoch.toInt

def atThisMoment (c : Screen) : IO Screen := do
  let wall ← wallMillis
  let monotonic ← IO.monoMsNow
  return c.change fun s => { s with world := { s.world with wall, monotonic } }

def flush (output : IO.FS.Stream) (c : Screen) : IO Screen := do
  output.putStr (String.join c.written)
  output.flush
  return { c with written := [] }

def chomp (line : String) : String :=
  .ofList (Text.dropRightWhile (fun c => c == '\n' || c == '\r') line.toList)

partial def loop (input output : IO.FS.Stream) (c : Screen) : IO Unit := do
  let c ← flush output c
  if c.closed then return
  let line ← input.getLine
  let c ← atThisMoment c
  if line.isEmpty then
    let _ ← flush output c.endInput
  else
    loop input output (c.press (.line (chomp line)))

def sitting : IO Unit := do
  let wall ← wallMillis
  let monotonic ← IO.monoMsNow
  let world : World := { wall, monotonic, laterProbe := { ending := .failure } }
  let s := Session.start {} (.seeded wall) .builtin (.empty Session.logCapacity) world
  loop (← IO.getStdin) (← IO.getStdout) (.start s)

end Terminal.Console

def main : IO Unit := Terminal.Console.sitting
