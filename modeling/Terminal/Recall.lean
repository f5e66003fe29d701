namespace Terminal.Recall

def older (lines : List String) (place : Option Nat) : Option Nat × Option String :=
  if lines.isEmpty then (place, none)
  else
    let i := match place with
      | none => lines.length - 1
      | some i => i - 1
    (some i, lines[i]?)

def newer (lines : List String) (place : Option Nat) : Option Nat × Option String :=
  match place with
  | none => (none, none)
  | some i =>
    if lines.isEmpty then (place, none)
    else if lines.length ≤ i + 1 then (none, some "")
    else (some (i + 1), lines[i + 1]?)

end Terminal.Recall
