import Terminal.Pattern.Escape
import Terminal.Text.Pieces

namespace Terminal.Pattern

inductive Piece where
  | pattern (p : Pattern)
  | bundle (ps : List Pattern)

namespace Piece

def toList : Piece → List Pattern
  | pattern p => [p]
  | bundle ps => ps

def isAnchor : Piece → Bool
  | pattern (.anchor _) => true
  | _ => false

def isRepeated : Piece → Bool
  | pattern (.repeated _ _ _ _) => true
  | _ => false

end Piece

def sameLeaf : Pattern → Pattern → Bool
  | .one a, .one b => a == b
  | .anchor a, .anchor b => a == b
  | .again n f _ _, .again m g _ _ => n == m && f == g
  | _, _ => false

def allBeginWith (p : Pattern) (branches : List (List Pattern)) : Bool :=
  branches.all fun b => b.head?.any (sameLeaf p)

def factor : Nat → List (List Pattern) → List Pattern × List (List Pattern)
  | 0, branches => ([], branches)
  | fuel + 1, branches =>
    match branches.head?.bind List.head? with
    | none => ([], branches)
    | some p =>
      if allBeginWith p branches then
        let (front, branches) := factor fuel (branches.map List.tail)
        (p :: front, branches)
      else ([], branches)

def branchMembers? : List Pattern → Option (List Member)
  | [.one (.single false _ n)] => some [.code n]
  | [.one (.set false _ members)] => some members
  | _ => none

def join (s : Switches) (branches : List (List Pattern)) : List Pattern :=
  match branches with
  | [b] => b
  | _ =>
    let (front, branches) := factor ((branches.map List.length).foldl max 0) branches
    match branches.mapM branchMembers? with
    | some members => front ++ [.one (.ofMembers false s.fold members.flatten.eraseDups)]
    | none => front ++ [.ofBranches (branches.map .ofList)]

namespace Reading

def setPattern (negated : Bool) (s : Switches) (members : List Member) : Pattern :=
  match members.eraseDups with
  | [.code n] => .one (.ofCode negated s.fold n)
  | members => .one (.ofMembers negated s.fold members)

def member (s : Switches) (t : Token) : Reading Member := do
  match t with
  | ['\\', c] => setEscape s c
  | c :: _ => return .code c.toNat
  | [] => return .code 0

/-- The members of a set that began at `start`, up to its closing bracket; `done` holds those before, last
first. -/
def members (s : Switches) (start : Nat) : Nat → List Member → Reading (List Member)
  | 0, _ => failAt .unterminatedSet start
  | fuel + 1, done => do
    let some this ← take | failAt .unterminatedSet start
    if this = [']'] && !done.isEmpty then return done.reverse
    let lo ← member s this
    if !(← accept '-') then members s start fuel (lo :: done)
    else
      let some that ← take | failAt .unterminatedSet start
      if that = [']'] then return (.code '-'.toNat :: lo :: done).reverse
      let hi ← member s that
      match lo, hi with
      | .code a, .code b =>
        if b < a then
          fail (.badRange (.ofList this) (.ofList that)) (this.length + 1 + that.length)
        else members s start fuel (.range a b :: done)
      | _, _ => fail (.badRange (.ofList this) (.ofList that)) (this.length + 1 + that.length)

def set (s : Switches) : Reading Pattern := do
  let start := (← place) - 1
  let negated ← accept '^'
  return setPattern negated s (← members s start ((← remaining) + 1) [])

def repeatLimit : Nat := 0xFFFFFFFF

def repeatNumber (digits : List Char) : Reading Nat := do
  if 4300 < digits.length then throw (.fault (.tooManyDigits digits.length))
  let n := (Text.readBase? 10 digits).getD 0
  if repeatLimit ≤ n then throw (.fault .repetitionTooLarge)
  return n

def bounds (c : Char) : Reading (Option (Nat × Option Nat)) := do
  if c = '?' then return some (0, some 1)
  else if c = '*' then return some (0, none)
  else if c = '+' then return some (1, none)
  else if (← peek) = some ['\x7d'] then return none
  else
    let here ← place
    let rest := (← get).rest
    let lo ← takeWhile Char.isDigit (← remaining)
    let comma ← accept ','
    let hi ← if comma then takeWhile Char.isDigit (← remaining) else pure lo
    if !(← accept '\x7d') then
      goBack rest here
      return none
    let least ← if lo.isEmpty then pure 0 else repeatNumber lo
    if hi.isEmpty then return some (least, none)
    let most ← repeatNumber hi
    if most < least then failAt .repeatBounds here
    return some (least, some most)

def greed : Reading Greed := do
  if ← accept '?' then return .lazy
  if ← accept '+' then return .possessive
  return .greedy

def repeatLast (here : Nat) (least : Nat) (most : Option Nat) :
    List Piece → Reading (List Piece)
  | [] => failAt .nothingToRepeat here
  | piece :: done => do
    if piece.isAnchor then failAt .nothingToRepeat here
    if piece.isRepeated then failAt .multipleRepeat here
    return .pattern (.repeated (← greed) least most (.ofList piece.toList)) :: done

def switchesOn (c : Char) (on : Switches) : Nat → Reading (Switches × Char)
  | 0 => fail .missingFlagEnd 0
  | fuel + 1 => do
    if c = 'L' then fail .localeFlag 0
    let some s := Switches.ofLetter? c | fail .missingFlagEnd 1
    let on := on.union s
    if (s.ascii || s.unicode) && on.ascii && on.unicode then fail .clashingFlags 0
    match ← take with
    | none => fail .missingFlagEnd 0
    | some [c] =>
      if c = ')' ∨ c = '-' ∨ c = ':' then return (on, c)
      else if c = 'L' ∨ (Switches.ofLetter? c).isSome then switchesOn c on fuel
      else fail (if Text.isLetter c then .unknownFlag else .missingFlagEnd) 1
    | some t => fail .missingFlagEnd t.length

def switchesOff (c : Char) (off : Switches) : Nat → Reading Switches
  | 0 => fail .missingColon 0
  | fuel + 1 => do
    if c = 'L' then fail .alphabetOff 0
    let some s := Switches.ofLetter? c | fail .missingColon 1
    if s.ascii || s.unicode then fail .alphabetOff 0
    let off := off.union s
    match ← take with
    | none => fail .missingColon 0
    | some [c] =>
      if c = ':' then return off
      else if c = 'L' ∨ (Switches.ofLetter? c).isSome then switchesOff c off fuel
      else fail (if Text.isLetter c then .unknownFlag else .missingColon) 1
    | some t => fail .missingColon t.length

def firstOff : Reading Char := do
  match ← take with
  | none => fail .missingFlag 0
  | some [c] =>
    if c = 'L' ∨ (Switches.ofLetter? c).isSome then return c
    else fail (if Text.isLetter c then .unknownFlag else .missingFlag) 1
  | some t => fail .missingFlag t.length

def switchGroup (c : Char) : Reading (Option (Switches × Switches)) := do
  let (on, c) ← if c = '-' then pure ({}, c) else switchesOn c {} ((← remaining) + 1)
  if c = ')' then
    modify fun s => { s with switches := s.switches.union on }
    return none
  if on.template then fail .globalFlagOn 1
  if c = '-' then
    let off ← switchesOff (← firstOff) {} ((← remaining) + 1)
    if off.template then fail .globalFlagOff 1
    if on.meet off then fail .onAndOff 1
    return some (on, off)
  return some (on, {})

def isPadding (c : Char) : Bool := Text.isBlank c && !(28 ≤ c.toNat && c.toNat ≤ 31)

def groupNumber? (s : List Char) : Option Int :=
  let s := Text.dropRightWhile isPadding (s.dropWhile isPadding)
  let (negative, s) := match s with
    | '-' :: s => (true, s)
    | '+' :: s => (false, s)
    | s => (false, s)
  let parts := Text.pieces (· == '_') s
  let digits := parts.flatten
  if parts.any List.isEmpty || !digits.all Text.isDigit || 4300 < digits.length then none
  else some (if negative then -(Text.readDigits digits : Int) else Text.readDigits digits)

def groupLimit : Nat := 0x3FFFFFFF

def condition : Reading Nat := do
  let name ← name ')' "group name"
  let back := name.length + 1
  let n ← if Text.isName name.toList then
      match (← get).names.lookup name with
      | some n => pure n
      | none => fail (.unknownGroup name) back
    else
      match groupNumber? name.toList with
      | none => fail (.badGroupName name) back
      | some n =>
        if n < 0 then fail (.badGroupName name) back
        if n = 0 then fail .badGroupNumber back
        if groupLimit ≤ n then fail (.invalidGroup n.toNat) back
        let at' := (← place) - back
        modify fun s =>
          if s.asked.any (·.1 == n.toNat) then s
          else { s with asked := s.asked ++ [(n.toNat, at')] }
        pure n.toNat
  checkLookBehind n
  return n

def namedReference (s : Switches) : Reading Pattern := do
  let name ← name ')' "group name"
  checkName name
  let back := name.length + 1
  match (← get).names.lookup name with
  | none => fail (.unknownGroup name) back
  | some n =>
    if !(← isClosed n) then fail .openGroup back
    checkLookBehind n
    reference n s

def closing (start : Nat) : Reading Unit := do
  if !(← accept ')') then failAt .unterminatedGroup start

inductive Opening where
  | capture (name : Option String)
  | bundle (on off : Switches)
  | atomic
  | look (ahead negated : Bool)
  | given
  | reference
  | comment
  | switches

def namedOpening : Reading Opening := do
  if ← accept '<' then
    let name ← name '>' "group name"
    checkName name
    return .capture (some name)
  else if ← accept '=' then return .reference
  else
    match ← take with
    | none => fail .unexpectedEnd 0
    | some t => fail (.unknownExtension ("P" ++ .ofList t)) (t.length + 2)

def opening : Reading Opening := do
  if !(← accept '?') then return .capture none
  match ← take with
  | none => fail .unexpectedEnd 0
  | some ['P'] => namedOpening
  | some [':'] => return .bundle {} {}
  | some ['#'] => return .comment
  | some ['='] => return .look true false
  | some ['!'] => return .look true true
  | some ['<'] =>
    match ← take with
    | none => fail .unexpectedEnd 0
    | some ['='] => return .look false false
    | some ['!'] => return .look false true
    | some t => fail (.unknownExtension ("<" ++ .ofList t)) (t.length + 2)
  | some ['('] => return .given
  | some ['>'] => return .atomic
  | some [c] =>
    if c = '-' ∨ c = 'L' ∨ (Switches.ofLetter? c).isSome then
      match ← switchGroup c with
      | none => return .switches
      | some (on, off) => return .bundle on off
    else fail (.unknownExtension c.toString) 2
  | some t => fail (.unknownExtension (.ofList t)) (t.length + 1)

def isGapInVerbose (t : Token) : Bool :=
  match t with
  | [c] => c == ' ' || (9 ≤ c.toNat && c.toNat ≤ 13)
  | _ => false

/-- The switches of the whole pattern at the outermost level, and otherwise those of the group. -/
def currentSwitches (outermost : Bool) (s : Switches) : Reading Switches := do
  let c ← get
  return if outermost then c.switches else s

def depthLimit : Nat := 970

def deeper {α : Type} (levels : Nat) (r : Reading α) : Reading α := do
  let depth := (← get).depth
  if depthLimit < depth + levels then throw (.fault .tooDeep)
  modify fun c => { c with depth := depth + levels }
  let a ← r
  modify fun c => { c with depth }
  return a

mutual

def branches (outermost : Bool) (s : Switches) : Nat → Bool → Reading (List (List Pattern))
  | 0, _ => fail .unexpectedEnd 0
  | fuel + 1, first => do
    let s ← currentSwitches outermost s
    let b ← branch s fuel (outermost && first) []
    if ← accept '|' then return b :: (← branches outermost s fuel false)
    else return [b]

def alternatives (outermost : Bool) (s : Switches) : Nat → Reading (List Pattern)
  | 0 => fail .unexpectedEnd 0
  | fuel + 1 => do
    let bs ← branches outermost s fuel true
    return join (← currentSwitches outermost s) bs

def branch (s : Switches) : Nat → Bool → List Piece → Reading (List Pattern)
  | 0, _, _ => fail .unexpectedEnd 0
  | fuel + 1, first, done => do
    let stop := done.reverse.flatMap Piece.toList
    let push (p : Pattern) := branch s fuel first (.pattern p :: done)
    match ← peek with
    | none | some ['|'] | some [')'] => return stop
    | some t =>
      let _ ← take
      if s.verbose && isGapInVerbose t then branch s fuel first done
      else if s.verbose && t = ['#'] then
        skipLine (← remaining)
        branch s fuel first done
      else match t with
        | ['\\', c] => push (← escape s c)
        | ['['] => push (← set s)
        | ['.'] => push (.one (.any s.dotAll))
        | ['^'] => push (.anchor (if s.multiline then .lineStart else .start))
        | ['$'] => push (.anchor (if s.multiline then .lineStop else .stop))
        | ['('] => group s fuel first done
        | [c] =>
          if c = '*' ∨ c = '+' ∨ c = '?' ∨ c = '\x7b' then
            let here := (← place) - 1
            match ← bounds c with
            | none => push (.one (.ofCode false s.fold c.toNat))
            | some (least, most) =>
              branch s fuel first (← repeatLast here least most done)
          else push (.one (.ofCode false s.fold c.toNat))
        | _ => return stop

def group (s : Switches) : Nat → Bool → List Piece → Reading (List Pattern)
  | 0, _, _ => fail .unexpectedEnd 0
  | fuel + 1, first, done => do
    let start := (← place) - 1
    let push (p : Pattern) := branch s fuel first (.pattern p :: done)
    match ← opening with
    | .comment =>
      skipComment start ((← remaining) + 1)
      branch s fuel first done
    | .reference => push (← namedReference s)
    | .switches =>
      if !first || !done.isEmpty then failAt .lateFlags start
      branch (← get).switches fuel first done
    | .look ahead negated =>
      let outer := (← get).lookBehind
      if !ahead && outer.isNone then modify fun c => { c with lookBehind := some c.groups }
      let p ← deeper 2 (alternatives false s fuel)
      if !ahead then modify fun c => { c with lookBehind := outer }
      closing start
      push (.look ahead negated (.ofList p))
    | .given =>
      let n ← condition
      let yes ← deeper 1 (branch s fuel false [])
      let no ← if ← accept '|' then
          let no ← deeper 1 (branch s fuel false [])
          if (← peek) = some ['|'] then fail .tooManyBranches 0
          pure no
        else pure []
      closing start
      push (.given n (.ofList yes) (.ofList no))
    | .atomic =>
      let p ← deeper 2 (alternatives false s fuel)
      closing start
      push (.atomic (.ofList p))
    | .bundle on off =>
      let p ← deeper 2 (alternatives false (s.within on off) fuel)
      closing start
      if on = {} && off = {} then branch s fuel first (.bundle p :: done)
      else push (.switched (.ofList p))
    | .capture name =>
      let n ← openGroup name
      let p ← deeper 2 (alternatives false s fuel)
      closing start
      closeGroup n (.ofList p)
      push (.group n (.ofList p))

end

end Reading

/-- What only shows once a whole pattern has been read: a repetition in a template, or a look-behind whose
length is not fixed. The first in the order of reading counts. -/
def misuse? (template : Bool) : Pattern → Option Flaw
  | empty | never | one _ | anchor _ | again _ _ _ _ => none
  | cat a b | alt a b | given _ a b => (misuse? template a).or (misuse? template b)
  | group _ a | switched a | atomic a | look true _ a => misuse? template a
  | look false _ a => if a.width.1 = a.width.2 then misuse? template a else some .variableLookBehind
  | repeated greed _ _ a =>
    if template then
      some (.templateRepeat (match greed with
        | .greedy => "MAX_REPEAT"
        | .lazy => "MIN_REPEAT"
        | .possessive => "POSSESSIVE_REPEAT"))
    else misuse? template a

def lookBehindLimit : Nat := 0x80000000

def reachesTooFar : Pattern → Bool
  | empty | never | one _ | anchor _ | again _ _ _ _ => false
  | cat a b | alt a b | given _ a b => reachesTooFar a || reachesTooFar b
  | group _ a | switched a | atomic a | look true _ a | repeated _ _ _ a => reachesTooFar a
  | look false _ a => lookBehindLimit ≤ a.width.1 || reachesTooFar a

def readAll (fuel : Nat) : Reading Pattern := do
  Reading.checkEscape
  let p ← Reading.alternatives true {} fuel
  let s ← get
  if s.switches.ascii && s.switches.unicode then throw (.fault .clashingAlphabets)
  if !s.rest.isEmpty then Reading.fail .unbalanced 0
  match s.asked.find? fun a => s.groups ≤ a.1 with
  | some (n, place) => Reading.failAt (.invalidGroup n) place
  | none =>
    let p := Pattern.ofList p
    match p.misuse? s.switches.template with
    | some f => throw (.flaw f none)
    | none =>
      if p.reachesTooFar then throw (.fault .lookBehindTooWide)
      return p

def read (source : String) (ignoreCase : Bool) : Except ReadError Pattern :=
  let cs := source.toList
  (readAll (5 * cs.length + 10)).run' ⟨cs, 0, { ignoreCase }, 1, [], [], none, [], 0⟩

end Terminal.Pattern
