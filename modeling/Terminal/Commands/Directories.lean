import Terminal.Calendar
import Terminal.Commands.Basic

namespace Terminal.Commands

structure Columns where
  kind : Nat := 4
  size : Nat := 6
  date : Nat := 16

def columns : Columns := {}

structure Row where
  shown : String
  stat : Tree.Stat

def kindText (isDir : Bool) : String := if isDir then "dir" else "file"

def Row.text (width : Int) (r : Row) : Except Failure String := do
  let date ← orFault (stampText r.stat.updated)
  return Text.padRight r.shown width ++ "  " ++ Text.padRight (kindText r.stat.isDir) columns.kind ++
    "  " ++ Text.padRight (toString r.stat.size) columns.size ++ "  " ++ date

def childRow (v : View) (path name : String) : Except Failure Row := do
  let stat ← orFileFault (v.stat (Path.resolve path name))
  return ⟨if stat.isDir then name ++ "/" else name, stat⟩

def ownRows (v : View) (path : String) : Except Failure (List Row) := do
  let here ← orFileFault (v.stat path)
  let above ← orFileFault (v.stat (Path.parent path))
  return [⟨".", here⟩, ⟨"..", above⟩]

def longListing (v : View) (path : String) (all : Bool) : Except Failure (List String) := do
  let own ← if all then ownRows v path else .ok []
  let children ← (v.list path).mapM (childRow v path)
  let rows := own ++ children
  let width := rows.foldl (fun w r => max w (r.shown.length : Int)) 4
  let total := width.toNat + 2 + columns.kind + 2 + columns.size + 2 + columns.date
  let texts ← rows.mapM (Row.text width)
  return (Text.padRight "name" width ++ "  type  size  updated") ::
    .ofList (List.replicate total '-') :: texts

def shortListing (v : View) (path : String) (all : Bool) : String :=
  "  ".intercalate ((if all then [".", ".."] else []) ++ v.list path)

def ls : Handler := fun args => report fun v =>
  let typed := (Arguments.positional args).headD "."
  let path := v.resolve typed
  let all := Arguments.hasFlag args 'a'
  if !v.exists? path then line ("ls: " ++ typed ++ ": " ++ noSuch)
  else if !v.isDir path then line typed
  else if Arguments.hasFlag args 'l' then do lines (← longListing v path all)
  else line (shortListing v path all)

def destination (v : View) (target : String) : String :=
  if target = "~" then v.config.home
  else if target = "-" then
    let old := (v.env.get? "OLDPWD").getD ""
    if old = "" then v.cwd else old
  else Path.normalize (v.resolve target)

def cd : Handler := fun args =>
  .call .look fun v =>
    let target := args.headD "/"
    let path := destination v target
    if !v.exists? path then .fail (.notFound ("cd: " ++ target ++ ": " ++ noSuch))
    else if !v.isDir path then .fail (.typeMismatch ("cd: " ++ target ++ ": Not a directory"))
    else
      .call (.setVariable "OLDPWD" v.cwd) fun _ =>
        .done (some { lines := if target = "-" then some [path] else none, cwd := some path })

def treeDepth : Int := 2

def tree : Handler := fun args => report fun v => do
  let typed := args.headD "."
  let depth ← match args with
    | _ :: value :: _ => (do return ((← number value).map (max 0)).getD treeDepth)
    | _ => .ok treeDepth
  let path := v.resolve typed
  if !v.exists? path then .error (.notFound ("tree: " ++ typed ++ ": " ++ noSuch))
  else if !v.isDir path then .error (.typeMismatch ("tree: " ++ typed ++ ": Not a directory"))
  else lines (Text.lines (← orFault (v.drawing path depth)))

def mkdirAll (label made : String) : List String → Script (Option Result)
  | [] => quietly
  | part :: parts =>
    let path := made ++ "/" ++ part
    changing label (.mkdir path) (mkdirAll label path parts)

def mkdir : Handler := fun args =>
  match Arguments.positional args with
  | [] => failUsage "mkdir [-p] <dir>"
  | typed :: _ =>
    .call .look fun v =>
      let path := v.resolve typed
      let label := "mkdir: " ++ typed
      if args.contains "-p" then mkdirAll label "" (Path.split path)
      else if !v.isDir (Path.parent path) then say (label ++ ": " ++ noSuch)
      else changing label (.mkdir path) quietly

/-- The paths that a walk meets which goes from the paths on `stack` into every directory, last entry first.
`none` if the walk has not ended after `fuel` paths. -/
def walk (v : View) : Nat → List String → List String → Option (List String)
  | _, [], met => some met.reverse
  | 0, _ :: _, _ => none
  | fuel + 1, path :: stack, met =>
    let below := if v.isDir path then (v.list path).map (Path.resolve path) else []
    walk v fuel (below.reverse ++ stack) (path :: met)

/-- More paths than a walk can meet that ends. -/
def walkLimit (v : View) : Nat := 3 * (v.files.entries.size + 1)

def victims (v : View) (path : String) : Option (List String) :=
  (walk v (walkLimit v) [path] []).map fun met => met.mergeSort fun a b => b.length ≤ a.length

def removeAll (label : String) : List String → Script (Option Result)
  | [] => quietly
  | path :: paths =>
    .call .look fun v =>
      changing label (if v.isDir path then .rmdir path else .rm path) (removeAll label paths)

def rm : Handler := fun args =>
  match Arguments.positional args with
  | [] => failUsage "rm [-r] <path>"
  | typed :: _ =>
    .call .look fun v =>
      let path := v.resolve typed
      let label := "rm: " ++ typed
      if !v.exists? path then say (label ++ ": " ++ noSuch)
      else if !v.isDir path then changing label (.rm path) quietly
      else if !args.contains "-r" then .fail (.precondition "rm: is a directory (use -r)")
      else match victims v path with
        | some paths => removeAll label paths
        | none => .endless

end Terminal.Commands
