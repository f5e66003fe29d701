import Terminal.Json.Reader
import Terminal.Text.Units
import Terminal.Url

namespace Terminal.Web

structure Request where
  method : String
  path : String
  contentType : Option String
  body : String

def mimeType (contentType : String) : List Char :=
  (Text.trim (.ofList (contentType.toList.takeWhile (· != ';')))).toList.map Char.toLower

def endsWith (s ending : List Char) : Bool := ending.reverse.isPrefixOf s.reverse

def isJsonType (contentType : String) : Bool :=
  let mime := mimeType contentType
  mime == "application/json".toList ||
    ("application/".toList.isPrefixOf mime && endsWith mime "+json".toList)

def mark : Char := '\uFEFF'

def bodyText? (body : String) : Option String :=
  match body.toList with
  | c :: cs => if c = mark then some (.ofList cs) else Text.respelled? body
  | [] => some ""

def depthLimit : Nat := 975

inductive Sent where
  | nothing
  | value (v : Json)
  | tooDeep

def Request.sent (r : Request) : Sent :=
  if r.contentType.any isJsonType then
    match (bodyText? r.body).map (Json.readWithin depthLimit) with
    | none | some (.error .malformed) => .nothing
    | some (.error .tooDeep) => .tooDeep
    | some (.ok v) => .value v
  else .nothing

inductive Obstacle where
  | flaw (f : Url.Flaw)
  | brokenHeader
  deriving DecidableEq, Repr

namespace Obstacle

def message : Obstacle → String
  | flaw f => f.message
  | brokenHeader => "Header values must not contain newline characters."

def label : Obstacle → String
  | flaw f => f.label
  | brokenHeader => "ValueError"

def orFlaw {α : Type} : Except Url.Flaw α → Except Obstacle α
  | .ok a => .ok a
  | .error f => .error (flaw f)

end Obstacle

inductive Route where
  | page
  | execute (line : String)
  | complete (line : String)
  | older
  | newer
  | interrupt (line : String)
  | clear
  | theme
  | status
  | missing (field : String)
  | unknownDirection (direction : String)
  | bare
  | noSuchPage
  | wrongMethod
  | moved
  | broken
  deriving DecidableEq, Repr

namespace Route

def withField (r : Request) (key : String) (f : String → Route) : Route :=
  match r.sent with
  | .nothing => missing key
  | .tooDeep => broken
  | .value v =>
    match v.field? key with
    | some value => f value.asText
    | none => missing key

def ofDirection (direction : String) : Route :=
  if direction = "up" then older else if direction = "down" then newer else unknownDirection direction

end Route

inductive Endpoint where
  | page
  | asset
  | status
  | execute
  | complete
  | history
  | interrupt
  | clear
  | theme
  deriving DecidableEq, Repr

namespace Endpoint

def assets : List Char := "/static/".toList

def isAsset (path : List Char) : Bool :=
  assets.isPrefixOf path &&
    match path.drop assets.length with
    | c :: cs => c != '/' && cs.all (· != '\n')
    | [] => false

def ofPath? (path : List Char) : Option Endpoint :=
  match String.ofList path with
  | "/" => some page
  | "/api/status" => some status
  | "/api/execute" => some execute
  | "/api/complete" => some complete
  | "/api/history" => some history
  | "/api/interrupt" => some interrupt
  | "/api/clear" => some clear
  | "/api/theme" => some theme
  | _ => if isAsset path then some asset else none

def isRead : Endpoint → Bool
  | page | asset | status => true
  | _ => false

def takes (e : Endpoint) (method : String) : Bool :=
  method == "OPTIONS" || if e.isRead then method == "GET" || method == "HEAD" else method == "POST"

def route (r : Request) : Endpoint → Route
  | page => .page
  | asset => .noSuchPage
  | status => .status
  | execute => .withField r "command" .execute
  | complete => .withField r "line" .complete
  | history => .withField r "direction" .ofDirection
  | interrupt => .withField r "line" .interrupt
  | clear => .clear
  | theme => .theme

end Endpoint

namespace Route

def mergeSlashes : List Char → List Char
  | '/' :: '/' :: rest => '/' :: mergeSlashes rest
  | c :: rest => c :: mergeSlashes rest
  | [] => []

theorem length_mergeSlashes_le (s : List Char) : (mergeSlashes s).length ≤ s.length := by
  fun_induction mergeSlashes s with
  | case1 rest ih => simp only [List.length_cons]; omega
  | case2 c rest hc ih => simp only [List.length_cons]; omega
  | case3 => simp

/-- The path that a request goes to, with one slash in front. Outside of the path a request may name a site,
and the path that is left may name another. -/
def location (r : Request) : Except Url.Flaw (List Char) := do
  let (site, outer) ← Url.cut r.path.toList
  let (_, inner) ← Url.cut outer
  Url.checkSite site
  match Url.unescape inner with
  | [] => return []
  | path => return '/' :: path.dropWhile (· == '/')

def checkHeader (r : Request) : Except Obstacle Unit :=
  if r.contentType.any fun t => t.toList.any fun c => c == '\n' || c == '\r' then
    .error .brokenHeader
  else .ok ()

def arrived (method : String) (r : Request) (e : Endpoint) : Route :=
  if method = "OPTIONS" ∨ (method = "HEAD" ∧ e ≠ .asset) then bare else e.route r

/-- A request that goes nowhere by its path is sent on to the path with merged slashes, or with one in place
of nothing, if that takes its method. -/
def astray (method : String) (path : List Char) : Route :=
  let path' := if path.isEmpty then ['/'] else mergeSlashes path
  match Endpoint.ofPath? path' with
  | some e => if e.takes method then moved else if path.isEmpty then noSuchPage else wrongMethod
  | none => if (Endpoint.ofPath? path).isSome then wrongMethod else noSuchPage

def of (r : Request) : Except Obstacle Route := do
  let path ← Obstacle.orFlaw (location r)
  checkHeader r
  let method := String.ofList (r.method.toList.map Char.toUpper)
  match Endpoint.ofPath? path with
  | some e => return if e.takes method then arrived method r e else astray method path
  | none => return astray method path

end Route

end Terminal.Web
