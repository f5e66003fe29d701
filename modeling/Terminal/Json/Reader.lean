import Terminal.Json.Value

namespace Terminal.Json

def digitLimit : Nat := 4300

def isGap (c : Char) : Bool := c == ' ' || c == '\t' || c == '\n' || c == '\r'

def skipGaps (s : List Char) : List Char := s.dropWhile isGap

def strip? : List Char → List Char → Option (List Char)
  | [], s => some s
  | _ :: _, [] => none
  | c :: cs, d :: ds => if c = d then strip? cs ds else none

def unit? : List Char → Option (Nat × List Char)
  | a :: b :: c :: d :: rest => (Text.readBase? 16 [a, b, c, d]).map (·, rest)
  | _ => none

def lowHalf? : List Char → Option (Nat × List Char)
  | '\\' :: 'u' :: rest =>
    match unit? rest with
    | some (n, rest) => if 0xDC00 ≤ n ∧ n < 0xE000 then some (n, rest) else none
    | none => none
  | _ => none

def unicode? (s : List Char) : Option (Char × List Char) :=
  match unit? s with
  | none => none
  | some (n, rest) =>
    if 0xD800 ≤ n ∧ n < 0xDC00 then
      match lowHalf? rest with
      | some (k, rest) => some (Char.ofNat (0x10000 + (n - 0xD800) * 0x400 + (k - 0xDC00)), rest)
      | none => some (Char.ofNat 0xFFFD, rest)
    else if 0xDC00 ≤ n ∧ n < 0xE000 then some (Char.ofNat 0xFFFD, rest)
    else some (Char.ofNat n, rest)

def escape? : List Char → Option (Char × List Char)
  | '"' :: rest => some ('"', rest)
  | '\\' :: rest => some ('\\', rest)
  | '/' :: rest => some ('/', rest)
  | 'b' :: rest => some (Char.ofNat 8, rest)
  | 'f' :: rest => some (Char.ofNat 12, rest)
  | 'n' :: rest => some ('\n', rest)
  | 'r' :: rest => some ('\r', rest)
  | 't' :: rest => some ('\t', rest)
  | 'u' :: rest => unicode? rest
  | _ => none

def textBody : Nat → List Char → List Char → Option (String × List Char)
  | 0, _, _ => none
  | _ + 1, _, [] => none
  | fuel + 1, done, c :: rest =>
    if c = '"' then some (.ofList done.reverse, rest)
    else if c = '\\' then
      match escape? rest with
      | some (c, rest) => textBody fuel (c :: done) rest
      | none => none
    else if c.toNat < 32 then none
    else textBody fuel (c :: done) rest

def isPlainDigit (c : Char) : Bool := '0' ≤ c && c ≤ '9'

def plainDigits (s : List Char) : List Char × List Char := s.span isPlainDigit

def fraction? : List Char → Option (List Char × List Char)
  | '.' :: rest =>
    match plainDigits rest with
    | ([], _) => none
    | ds => some ds
  | _ => none

def signedDigits? (negative : Bool) (s : List Char) : Option (Int × List Char) :=
  match plainDigits s with
  | ([], _) => none
  | (ds, rest) =>
    let n : Int := (Text.readBase? 10 ds).getD 0
    some (if negative then -n else n, rest)

def power? : List Char → Option (Int × List Char)
  | c :: rest =>
    if c = 'e' ∨ c = 'E' then
      match rest with
      | '+' :: rest => signedDigits? false rest
      | '-' :: rest => signedDigits? true rest
      | rest => signedDigits? false rest
    else none
  | [] => none

def wholeDigits? : List Char → Option (List Char × List Char)
  | '0' :: rest => some (['0'], rest)
  | s => match plainDigits s with
    | ([], _) => none
    | ds => some ds

def number? (negative : Bool) (s : List Char) : Option (Number × List Char) :=
  match wholeDigits? s with
  | none => none
  | some (ds, rest) =>
    match fraction? rest, power? ((fraction? rest).elim rest Prod.snd) with
    | none, none =>
      if digitLimit < ds.length then none
      else
        let n : Int := (Text.readBase? 10 ds).getD 0
        some (.whole (if negative then -n else n), rest)
    | frac, pow =>
      let fs := frac.elim [] Prod.fst
      let rest := pow.elim (frac.elim rest Prod.snd) Prod.snd
      let e := pow.elim 0 Prod.fst - fs.length
      some (.binary (.ofDecimal negative ((Text.readBase? 10 (ds ++ fs)).getD 0) e), rest)

def scalar? (s : List Char) : Option (Json × List Char) :=
  match s with
  | '"' :: rest => (textBody (rest.length + 1) [] rest).map fun (s, rest) => (text s, rest)
  | 'n' :: _ => (strip? ['n', 'u', 'l', 'l'] s).map (null, ·)
  | 't' :: _ => (strip? ['t', 'r', 'u', 'e'] s).map (bool true, ·)
  | 'f' :: _ => (strip? ['f', 'a', 'l', 's', 'e'] s).map (bool false, ·)
  | 'N' :: _ => (strip? ['N', 'a', 'N'] s).map (number (.binary .nan), ·)
  | 'I' :: _ =>
    (strip? "Infinity".toList s).map (number (.binary (.infinity false)), ·)
  | '-' :: 'I' :: _ =>
    (strip? "-Infinity".toList s).map (number (.binary (.infinity true)), ·)
  | '-' :: rest => (number? true rest).map fun (n, rest) => (number n, rest)
  | s => (number? false s).map fun (n, rest) => (number n, rest)

inductive Flaw where
  | malformed
  | tooDeep
  deriving DecidableEq, Repr

abbrev Reading (α : Type) := Except Flaw (α × List Char)

def orMalformed {α : Type} : Option (α × List Char) → Reading α
  | some r => .ok r
  | none => .error .malformed

mutual

def value : Nat → Nat → List Char → Reading Json
  | 0, _, _ => .error .malformed
  | _ + 1, 0, '[' :: _ => .error .tooDeep
  | _ + 1, 0, '\x7b' :: _ => .error .tooDeep
  | fuel + 1, depth + 1, '[' :: rest =>
    match skipGaps rest with
    | ']' :: rest => .ok (array [], rest)
    | rest => (items fuel depth rest).map fun (vs, rest) => (array vs, rest)
  | fuel + 1, depth + 1, '\x7b' :: rest =>
    match skipGaps rest with
    | '\x7d' :: rest => .ok (object [], rest)
    | rest => (fields fuel depth [] rest).map fun (fs, rest) => (object fs, rest)
  | _ + 1, _, s => orMalformed (scalar? s)

def items : Nat → Nat → List Char → Reading (List Json)
  | 0, _, _ => .error .malformed
  | fuel + 1, depth, s =>
    match value fuel depth s with
    | .error e => .error e
    | .ok (v, rest) =>
      match skipGaps rest with
      | ']' :: rest => .ok ([v], rest)
      | ',' :: rest =>
        (items fuel depth (skipGaps rest)).map fun (vs, rest) => (v :: vs, rest)
      | _ => .error .malformed

def fields : Nat → Nat → List (String × Json) → List Char → Reading (List (String × Json))
  | 0, _, _, _ => .error .malformed
  | fuel + 1, depth, done, '"' :: rest =>
    match textBody (rest.length + 1) [] rest with
    | none => .error .malformed
    | some (key, rest) =>
      match skipGaps rest with
      | ':' :: rest =>
        match value fuel depth (skipGaps rest) with
        | .error e => .error e
        | .ok (v, rest) =>
          let done := setField key v done
          match skipGaps rest with
          | '\x7d' :: rest => .ok (done, rest)
          | ',' :: rest => fields fuel depth done (skipGaps rest)
          | _ => .error .malformed
      | _ => .error .malformed
  | _ + 1, _, _, _ => .error .malformed

end

def readWithin (depth : Nat) (s : String) : Except Flaw Json :=
  let cs := skipGaps s.toList
  match value (cs.length + 1) depth cs with
  | .ok (v, rest) => if (skipGaps rest).isEmpty then .ok v else .error .malformed
  | .error e => .error e

def read? (s : String) : Option Json := (readWithin s.length s).toOption

end Terminal.Json
