import Terminal.Json.Writer
import Terminal.Record
import Terminal.Theme

namespace Terminal.Web

structure Page where
  colours : List (String × String)
  prompt : String
  appended : List String
  deriving DecidableEq, Repr

def escapeChar (c : Char) : List Char :=
  match c with
  | '&' => "&amp;".toList
  | '<' => "&lt;".toList
  | '>' => "&gt;".toList
  | '"' => "&#34;".toList
  | c => if c.toNat = 39 then "&#39;".toList else [c]

def escape (s : String) : String := .ofList (s.toList.flatMap escapeChar)

def recordJson (r : Record) : Json :=
  .object <| [("kind", .text r.kind), ("text", .text r.text)] ++
    match r.prompt? with
    | some prompt => [("prompt", .text prompt)]
    | none => []

def recordsJson (records : List Record) : Json := .array (records.map recordJson)

def colours (t : Theme) : List (String × String) :=
  [("bg", t.background), ("fg", t.foreground), ("accent", t.accent), ("subtle", t.subtle),
    ("cursor", t.cursor)]

def themeJson (t : Theme) : Json :=
  .object [("name", .text t.name.label), ("background", .text t.background),
    ("foreground", .text t.foreground), ("accent", .text t.accent), ("subtle", .text t.subtle),
    ("cursor", .text t.cursor)]

def Page.of (theme : ThemeName) (prompt : String) (records : List Record) : Page where
  colours := Web.colours theme.palette
  prompt := escape prompt
  appended := records.map fun r => (recordJson r).sorted.writeShielded

end Terminal.Web
