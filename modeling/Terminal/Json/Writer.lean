import Terminal.Json.Value

namespace Terminal.Json

def escapeUnicode (n : Nat) : List Char :=
  if n < 0x10000 then '\\' :: 'u' :: Text.hex 4 n
  else
    let k := n - 0x10000
    '\\' :: 'u' :: (Text.hex 4 (0xD800 + k / 0x400) ++ '\\' :: 'u' :: Text.hex 4 (0xDC00 + k % 0x400))

def escapeChar (c : Char) : List Char :=
  if c = '"' ∨ c = '\\' then ['\\', c]
  else if c = '\n' then ['\\', 'n']
  else if c = '\r' then ['\\', 'r']
  else if c = '\t' then ['\\', 't']
  else if c.toNat = 8 then ['\\', 'b']
  else if c.toNat = 12 then ['\\', 'f']
  else if 32 ≤ c.toNat ∧ c.toNat < 127 then [c]
  else escapeUnicode c.toNat

def quote (s : String) : String := .ofList ('"' :: (s.toList.flatMap escapeChar ++ ['"']))

def numberText : Number → String
  | .binary .nan => "NaN"
  | .binary (.infinity true) => "-Infinity"
  | .binary (.infinity false) => "Infinity"
  | n => n.text

mutual

def write : Json → String
  | null => "null"
  | bool true => "true"
  | bool false => "false"
  | number n => numberText n
  | text s => quote s
  | array items => "[" ++ ", ".intercalate (writeItems items) ++ "]"
  | object fields => "\x7b" ++ ", ".intercalate (writeFields fields) ++ "\x7d"

def writeItems : List Json → List String
  | [] => []
  | v :: vs => write v :: writeItems vs

def writeFields : List (String × Json) → List String
  | [] => []
  | (k, v) :: rest => (quote k ++ ": " ++ write v) :: writeFields rest

end

def shield (c : Char) : List Char :=
  if c = '<' ∨ c = '>' ∨ c = '&' ∨ c.toNat = 39 then escapeUnicode c.toNat else [c]

def writeShielded (v : Json) : String := .ofList (v.write.toList.flatMap shield)

end Terminal.Json
