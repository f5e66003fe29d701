import Terminal.Text.Category
import Terminal.Url.Address

namespace Terminal.Url

inductive Flaw where
  | brackets
  | laterAddress
  | quadInBrackets
  | noAddress (host : String)
  | hiddenDelimiter (site : String)
  | incomplete (url : String)
  | emptyLabel
  | longLabel
  | portNotNumber (port : String)
  | portTooLarge
  deriving DecidableEq, Repr

def Flaw.message : Flaw → String
  | brackets => "Invalid IPv6 URL"
  | laterAddress => "IPvFuture address is invalid"
  | quadInBrackets => "An IPv4 address cannot be in brackets"
  | noAddress host => Text.quoted host ++ " does not appear to be an IPv4 or IPv6 address"
  | hiddenDelimiter site =>
    "netloc '" ++ site ++ "' contains invalid characters under NFKC normalization"
  | incomplete url => "invalid URL: " ++ url
  | emptyLabel => "encoding with 'idna' codec failed (UnicodeError: label empty or too long)"
  | longLabel => "encoding with 'idna' codec failed (UnicodeError: label too long)"
  | portNotNumber port => "Port could not be cast to integer value as " ++ Text.quoted port
  | portTooLarge => "Port out of range 0-65535"

def Flaw.label : Flaw → String
  | emptyLabel | longLabel => "UnicodeError"
  | _ => "ValueError"

def hasScheme : List Char → Bool
  | [] => false
  | c :: cs => ['/', '/'].isPrefixOf cs && c == ':' || hasScheme cs

def complete (target : String) : String :=
  if hasScheme target.toList then target else "https://" ++ target

def clean (url : List Char) : List Char :=
  (url.dropWhile (·.toNat ≤ 32)).filter fun c => c != '\t' && c != '\r' && c != '\n'

def isSchemeChar (c : Char) : Bool := c.isAlphanum || c == '+' || c == '-' || c == '.'

def cutScheme (url : List Char) : Option (List Char) × List Char :=
  match Text.cutAt ':' url with
  | some (c :: cs, rest) =>
    if c.isAlpha && cs.all isSchemeChar then (some (c :: cs), rest) else (none, url)
  | _ => (none, url)

def siteOf : List Char → List Char
  | '/' :: '/' :: rest => rest.takeWhile fun c => c != '/' && c != '?' && c != '#'
  | _ => []

def hostAndPort (site : List Char) : List Char := (site.reverse.takeWhile (· != '@')).reverse

def checkHost (host : List Char) : Except Flaw Unit :=
  if host.head? = some 'v' then
    if Address.isLater host then .ok () else .error .laterAddress
  else if Address.isQuad host then .error .quadInBrackets
  else if Address.isZoned host then .ok ()
  else .error (.noAddress (.ofList host))

def checkBrackets (site : List Char) : Except Flaw Unit :=
  if site.contains '[' != site.contains ']' then .error .brackets
  else if !site.contains '[' then .ok ()
  else
    let place := hostAndPort site
    match Text.cutAt '[' place with
    | none => checkHost (place.takeWhile (· != ':'))
    | some (before, inside) =>
      let port := (inside.dropWhile (· != ']')).drop 1
      if !before.isEmpty || !(port.isEmpty || port.head? == some ':') then .error .brackets
      else checkHost (inside.takeWhile (· != ']'))

/-- Characters that stand for one of the delimiters `/ ? # @ :` or for several characters with one of them. -/
def hiddenDelimiters : List Nat := [
  0x2047, 0x2048, 0x2049, 0x2100, 0x2101, 0x2105, 0x2106, 0x2A74, 0xFE13, 0xFE16, 0xFE55, 0xFE56,
  0xFE5F, 0xFE6B, 0xFF03, 0xFF0F, 0xFF1A, 0xFF1F, 0xFF20]

def checkDelimiters (site : List Char) : Except Flaw Unit :=
  if site.any fun c => hiddenDelimiters.contains c.toNat then
    .error (.hiddenDelimiter (.ofList site))
  else .ok ()

def hostOf (site : List Char) : List Char × List Char :=
  let place := hostAndPort site
  match Text.cutAt '[' place with
  | some (_, inside) =>
    (inside.takeWhile (· != ']'), ((inside.dropWhile (· != ']')).dropWhile (· != ':')).drop 1)
  | none => (place.takeWhile (· != ':'), (place.dropWhile (· != ':')).drop 1)

def labelLimit : Nat := 63

def checkLabels (host : List Char) : Except Flaw Unit :=
  let labels := Text.pieces (· == '.') host
  if labels.dropLast.any fun l => l.isEmpty || labelLimit < l.length then .error .emptyLabel
  else if labels.any fun l => labelLimit < l.length then .error .longLabel
  else .ok ()

def portLimit : Nat := 65535

def checkPort (port : List Char) : Except Flaw Unit :=
  if !port.all Char.isDigit then .error (.portNotNumber (.ofList port))
  else if (Text.readBase? 10 port).any (portLimit < ·) then .error .portTooLarge
  else .ok ()

def checkSite (site : List Char) : Except Flaw Unit := do
  let (host, port) := hostOf site
  if host.all fun c => c.toNat < 128 then checkLabels host
  checkPort port

def cut (url : List Char) : Except Flaw (List Char × List Char) := do
  let (_, rest) := cutScheme (clean url)
  let site := siteOf rest
  checkBrackets site
  checkDelimiters site
  let rest := if ['/', '/'].isPrefixOf rest then rest.drop (site.length + 2) else rest
  return (site, rest.takeWhile fun c => c != '?' && c != '#')

/-- Percent signs with two hexadecimal digits are read as bytes, and each byte as one character: a character
beyond the plain ones is not told apart from its bytes. -/
def unescape : List Char → List Char
  | '%' :: a :: b :: rest =>
    match Text.readBase? 16 [a, b] with
    | some n => .ofNat n :: unescape rest
    | none => '%' :: unescape (a :: b :: rest)
  | c :: rest => c :: unescape rest
  | [] => []

theorem unescape_eq_self {s : List Char} (h : '%' ∉ s) : unescape s = s := by
  fun_induction unescape s with
  | case1 a b rest n hn ih => simp at h
  | case2 a b rest hn ih => simp at h
  | case3 c rest hc ih => rw [ih (fun hm => h (List.mem_cons_of_mem _ hm))]
  | case4 => rfl

def check (url : String) : Except Flaw Unit := do
  let (scheme, rest) := cutScheme (clean url.toList)
  let site := siteOf rest
  checkBrackets site
  checkDelimiters site
  if scheme.isNone || site.isEmpty || site.contains ' ' then throw (.incomplete url)

end Terminal.Url
