import Terminal.Session.Turn
import Terminal.Web.Page
import Terminal.Web.Request

namespace Terminal.Web

structure Response where
  status : Nat
  body : Option Json := none
  page : Option Page := none

namespace Response

def ok (fields : List (String × Json)) : Response := ⟨200, some (.object fields), none⟩

def problem (status : Nat) (message : String) : Response :=
  ⟨status, some (.object [("error", .text message)]), none⟩

def missing (field : String) : Response := problem 400 ("Missing '" ++ field ++ "' field")

def busy : Response := problem 409 "a command is already running"

def line (l : Option String) : Response := ok [("line", l.elim .null .text)]

end Response

def addedSince (length : Nat) (g : Glance) : Json := recordsJson (g.scrollback.drop length)

def reply : Route → Script Response
  | .page => .call (.act .glance) fun g =>
      .done ⟨200, none, some (.of g.theme g.prompt g.scrollback)⟩
  | .execute line => .call (.act (.submit line)) fun _ => .done .busy
  | .complete line =>
    .call (.act .glance) fun before =>
      .call (.act (.complete line)) fun completed =>
        .call (.act .glance) fun after =>
          .done (.ok [("line", .text completed),
            ("lines", addedSince before.scrollback.length after)])
  | .older => .call (.act .older) fun line => .done (.line line)
  | .newer => .call (.act .newer) fun line => .done (.line line)
  | .interrupt line =>
    .call (.act .glance) fun before =>
      .call (.act (.interrupt line)) fun _ =>
        .call (.act .glance) fun after =>
          .done (.ok [("lines", addedSince before.scrollback.length after)])
  | .clear => .call (.act .clear) fun _ => .done (.ok [("cleared", .bool true)])
  | .theme => .call (.act .cycleTheme) fun name =>
      .done ⟨200, some (themeJson name.palette), none⟩
  | .status => .call (.act .glance) fun g =>
      .done (.ok [("running", .bool g.running), ("cwd", .text g.cwd), ("prompt", .text g.prompt),
        ("theme", .text g.theme.label)])
  | .missing field => .done (.missing field)
  | .unknownDirection d => .done (.problem 400 ("Unknown direction '" ++ d ++ "'"))
  | .bare => .done ⟨200, none, none⟩
  | .noSuchPage => .done ⟨404, none, none⟩
  | .wrongMethod => .done ⟨405, none, none⟩
  | .moved => .done ⟨308, none, none⟩
  | .broken => .done ⟨500, none, none⟩

def turnJson (t : Turn) (s : Session) : Response :=
  .ok [("lines", recordsJson t.records), ("cleared", .bool t.cleared), ("cwd", .text s.cwd),
    ("prompt", .text s.prompt), ("open", .array (s.world.opened.map .text))]

inductive Served where
  | answered (r : Response)
  | unsent (o : Obstacle)
  | endless

end Terminal.Web

namespace Terminal.Session

def serveLine (line : String) (s : Session) : Web.Served × Session :=
  if s.running then (.answered .busy, s)
  else
    match submit line { s with world := { s.world with opened := [] } } with
    | (.settled t, s) => (.answered (Web.turnJson t s), s)
    | (.busy, s) => (.answered .busy, s)
    | (.endless, s) => (.endless, s)

def serveRoute (route : Web.Route) (s : Session) : Web.Served × Session :=
  match route with
  | .execute line => s.serveLine line
  | route =>
    match (Web.reply route).run (perform emit []) s with
    | (.done response, s) => (.answered response, s)
    | (_, s) => (.endless, s)

def serve (r : Web.Request) (s : Session) : Web.Served × Session :=
  match Web.Route.of r with
  | .error obstacle => (.unsent obstacle, s)
  | .ok route => s.serveRoute route

end Terminal.Session
