import Terminal.Decimal.Number

namespace Terminal.Outside

structure HeadRequest where
  url : String
  headers : List (String × String)
  timeout : Option Number
  followsRedirects : Bool
  deriving DecidableEq, Repr

inductive Event where
  | sent (r : HeadRequest)
  | closed
  | newTab (url : String)
  deriving DecidableEq, Repr

def headRequest (url : String) (timeout : Option Number) : HeadRequest :=
  ⟨url, [("User-Agent", "StellarTerminal/1.1"), ("Cache-Control", "no-store")], timeout, false⟩

def probe (url : String) (timeout : Option Number) (answered : Bool) : List Event :=
  .sent (headRequest url timeout) :: if answered then [.closed] else []

def browse (url : String) : List Event := [.newTab url]

end Terminal.Outside
