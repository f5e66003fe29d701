import Terminal.Text.Char
import Terminal.Text.Name.Alphabets
import Terminal.Text.Name.Ancient
import Terminal.Text.Name.Others
import Terminal.Text.Name.Pictures
import Terminal.Text.Name.Syllables
import Terminal.Text.Name.Symbols

namespace Terminal.Text.Name

/-- The place in a table: the code point of the next name, the words of the name before it, and the code
point that was looked for. -/
structure Scan where
  code : Nat := 0
  words : List String := []
  found : Option Nat := none

namespace Scan

def name (target : List String) (shared : Nat) (own : String) (s : Scan) : Scan :=
  let words := s.words.take shared ++ own.splitOn " "
  { code := s.code + 1, words, found := s.found.or (if words = target then some s.code else none) }

def entry (target : List String) (s : Scan) (e : String) : Scan :=
  match e.toList with
  | [] => s
  | '=' :: digits => { s with code := (readBase? 16 digits).getD 0 }
  | c :: rest =>
    if c.isDigit then s.name target (c.toNat - '0'.toNat) (.ofList rest) else s.name target 0 e

end Scan

def inTable? (name table : String) : Option Nat :=
  let target := name.splitOn " "
  (((table.splitOn "\n").flatMap fun (line : String) => line.splitOn ";").foldl (Scan.entry target) {}).found

def coded : List (String × Nat × Nat) := [
  ("CJK COMPATIBILITY IDEOGRAPH-", 0xF900, 0xFA6D), ("CJK COMPATIBILITY IDEOGRAPH-", 0xFA70, 0xFAD9),
  ("CJK COMPATIBILITY IDEOGRAPH-", 0x2F800, 0x2FA1D), ("KHITAN SMALL SCRIPT CHARACTER-", 0x18B00, 0x18CD5),
  ("NUSHU CHARACTER-", 0x1B170, 0x1B2FB)]

def after? (beginning name : String) : Option (List Char) :=
  beginning.toList.isPrefixOf? name.toList

def writtenCode? (digits : List Char) : Option Nat :=
  if (digits.length = 4 || (digits.length = 5 && digits.head? != some '0')) &&
      digits.all (fun c => c.isDigit || c.isUpper) then
    readBase? 16 digits
  else none

def codedCode? (name : String) : Option Nat :=
  coded.findSome? fun (beginning, first, last) => do
    let n ← writtenCode? (← after? beginning name)
    if first ≤ n ∧ n ≤ last then some n else none

def selector? (name : String) : Option Nat := do
  let digits ← after? "VS" name
  let n ← readBase? 10 digits
  if digits.isEmpty ∨ digits.head? = some '0' ∨ !digits.all Char.isDigit then none
  else if n ≤ 16 then some (0xFE00 + n - 1)
  else if n ≤ 256 then some (0xE0100 + n - 17)
  else none

def ideographs : List (Nat × Nat) := [
  (0x3400, 0x4DBF), (0x4E00, 0x9FFF), (0x20000, 0x2A6DF), (0x2A700, 0x2B738), (0x2B740, 0x2B81D),
  (0x2B820, 0x2CEA1), (0x2CEB0, 0x2EBE0), (0x30000, 0x3134A)]

def ideograph? (digits : List Char) : Option Nat := do
  if (digits.length = 4 ∨ digits.length = 5) ∧ digits.all (fun c => c.isDigit || c.isUpper) then
    let n ← readBase? 16 digits
    if ideographs.any fun (first, last) => first ≤ n && n ≤ last then some n else none
  else none

def initials : List String :=
  ["G", "GG", "N", "D", "DD", "R", "M", "B", "BB", "S", "SS", "", "J", "JJ", "C", "K", "T", "P", "H"]

def vowels : List String :=
  ["A", "AE", "YA", "YAE", "EO", "E", "YEO", "YE", "O", "WA", "WAE", "OE", "YO", "U", "WEO", "WE", "WI",
    "YU", "EU", "YI", "I"]

def finals : List String :=
  ["", "G", "GG", "GS", "N", "NJ", "NH", "D", "L", "LG", "LM", "LB", "LS", "LT", "LP", "LH", "M", "B", "BS",
    "S", "SS", "NG", "J", "C", "K", "T", "P", "H"]

def sound? (sounds : List String) (s : List Char) : Option (Nat × List Char) :=
  sounds.zipIdx.foldl
    (fun best (sound, i) =>
      match sound.toList.isPrefixOf? s with
      | none => best
      | some rest => if best.all (rest.length < ·.2.length) then some (i, rest) else best)
    none

def syllable? (s : List Char) : Option Nat := do
  let (i, s) ← sound? initials s
  let (v, s) ← sound? vowels s
  let (f, s) ← sound? finals s
  if s.isEmpty then some (0xAC00 + (i * vowels.length + v) * finals.length + f) else none

def code? (name : String) : Option Nat :=
  match after? "HANGUL SYLLABLE " name, after? "CJK UNIFIED IDEOGRAPH-" name with
  | some sounds, _ => syllable? sounds
  | none, some digits => ideograph? digits
  | none, none =>
    let name : String := .ofList (name.toList.map Char.toUpper)
    (codedCode? name).or ((selector? name).or
      ([alphabets, symbols, syllables, ancient, pictures, others].findSome? (inTable? name)))

end Terminal.Text.Name
