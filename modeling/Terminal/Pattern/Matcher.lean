import Terminal.Failure
import Terminal.Pattern.Basic

/-!
Searching text for a pattern. A step goes on with the rest of the search, and tells whether that succeeds.
What a failed attempt has written down stays, unless the step that made the attempt takes it back.
-/

namespace Terminal.Pattern

/-- What a search has written down: the place where it was last, and where groups begin and end. The marks
of group `n` are those at `2 * n - 2` and `2 * n - 1`. -/
structure Memory where
  place : Nat
  marks : Array (Option Nat) := #[]

namespace Memory

def at' (place : Nat) (m : Memory) : Memory := { m with place }

def mark (i place : Nat) (m : Memory) : Memory :=
  if i < m.marks.size then { m with marks := m.marks.setIfInBounds i (some place) }
  else { m with marks := (m.marks ++ Array.replicate (i - m.marks.size) none).push (some place) }

def group? (n : Nat) (m : Memory) : Option (Nat × Nat) :=
  match m.marks[2 * n - 2]?, m.marks[2 * n - 1]? with
  | some (some start), some (some stop) => if start ≤ stop then some (start, stop) else none
  | _, _ => none

def isTorn (m : Memory) : Bool :=
  (List.range (m.marks.size / 2)).any fun i =>
    match m.marks[2 * i]?, m.marks[2 * i + 1]? with
    | some (some start), some (some stop) => stop < start
    | _, _ => false

/-- The memory `m` of an attempt made after `before`, with the marks of the attempt taken back: all of them, or
only those that were not there before. -/
def takeBack (before : Memory) (all : Bool) (m : Memory) : Memory :=
  { m with marks := if all then before.marks else m.marks.take before.marks.size }

end Memory

abbrev Step := Nat → Memory → Bool × Memory

namespace Step

def finish : Step := fun place m => (true, m.at' place)

def fail : Step := fun _ m => (false, m)

def orElse (step : Step) (mend : Memory → Memory) (other : Step) : Step := fun place m =>
  match step place m with
  | (true, m) => (true, m)
  | (false, m) => other place (mend m)

def noted (step : Step) : Step := fun place m =>
  match step place (m.at' place) with
  | (true, m) => (true, m)
  | (false, m) => (false, m.at' place)

end Step

inductive Lead where
  | code (n : Nat)
  | set (test : CharTest)
  | unknown

namespace Lead

def ofTest (t : CharTest) : Lead :=
  match t.code? with
  | some n => code n
  | none =>
    match t with
    | .set _ .exact _ => set t
    | _ => unknown

def ofPattern (follow : Lead) : Pattern → Lead
  | empty => follow
  | one t => ofTest t
  | cat a b => ofPattern (ofPattern follow b) a
  | switched a => ofPattern follow a
  | _ => unknown

def isCode : Lead → Bool
  | code _ => true
  | _ => false

def refuses (c : Option Char) : Lead → Bool
  | code n => c.all (·.toNat != n)
  | set t => !c.any t.accepts
  | unknown => false

end Lead

section

variable (text : Array Char)

def charBefore (place : Nat) : Option Char := if place = 0 then none else text[place - 1]?

def isWordAt (ascii : Bool) (c : Option Char) : Bool := c.any (Category.isWord ascii)

def Anchor.holds (place : Nat) : Anchor → Bool
  | .start | .textStart => place == 0
  | .textStop => place == text.size
  | .stop => place == text.size || (place + 1 == text.size && text[place]? == some '\n')
  | .lineStart => place == 0 || charBefore text place == some '\n'
  | .lineStop => place == text.size || text[place]? == some '\n'
  | .boundary negated ascii =>
    text.size != 0 &&
      (isWordAt ascii (charBefore text place) != isWordAt ascii text[place]?) != negated

def repeats (fold : Fold) (start stop place : Nat) : Bool :=
  place + (stop - start) ≤ text.size && (List.range (stop - start)).all fun i =>
    (text[start + i]?.map fun c => fold.apply c.toNat) ==
      (text[place + i]?.map fun c => fold.apply c.toNat)

def countFrom (t : CharTest) (place limit : Nat) : Nat :=
  ((text.extract place (place + limit)).toList.takeWhile t.accepts).length

def room (most : Option Nat) (place : Nat) : Nat :=
  match most with
  | none => text.size - place
  | some m => min m (text.size - place)

def emptyRounds : Nat := 1000

def count (t : CharTest) (place limit : Nat) (m : Memory) : Nat × Memory :=
  let n := countFrom text t place limit
  (n, m.at' (if t.comparesForms then place + n else place))

def fewer (lead : Lead) (next : Step) (mend : Memory → Memory) (start : Nat) :
    Nat → Memory → Bool × Memory
  | extra, m =>
    let here := start + extra
    let tried := if lead.isCode && lead.refuses text[here]? then (false, m)
      else next.orElse mend .fail here (m.at' here)
    match tried, extra with
    | (true, m), _ => (true, m)
    | (false, m), 0 => (false, m)
    | (false, m), extra + 1 => fewer lead next mend start extra m

def more (t : CharTest) (next : Step) (mend : Memory → Memory) (extra : Nat) : Step := fun place m =>
  match next.orElse mend .fail place (m.at' place) with
  | (true, m) => (true, m)
  | (false, m) =>
    match count text t place 1 m, extra with
    | (0, m), _ | (_, m), 0 => (false, m)
    | (_, m), extra + 1 => more t next mend extra (place + 1) m

def repeatTest (inside : Bool) (greed : Greed) (least : Nat) (most : Option Nat) (t : CharTest)
    (lead : Lead) (next : Step) : Step := fun place m =>
  if text.size - place < least then (false, m)
  else
    match greed with
    | .lazy =>
      let (n, m) := if least = 0 then (0, m.at' place) else count text t place least m
      if n < least then (false, m)
      else
        let extra := match most with
          | none => text.size + 1
          | some k => k - least
        more text t next (m.takeBack inside) (min extra (text.size + 1)) (place + n) m
    | .greedy =>
      let (n, m) := count text t place (room text most place) m
      if n < least then (false, m)
      else fewer text lead next (m.takeBack inside) (place + least) (n - least) m
    | .possessive =>
      let (n, m) := count text t place (room text most place) m
      if n < least then (false, m) else next (place + n) m

end

/-- Rounds of a repetition, as many as there are at first. `done` counts them, and no round begins where the
one before it began. -/
def greedyRounds (body : Step → Step) (least : Nat) (most : Option Nat) (next : Step) :
    Nat → Nat → Option Nat → Step
  | 0, _, _ => .fail
  | fuel + 1, done, last => fun place m =>
    if done < least then
      (body (greedyRounds body least most next fuel (done + 1) last)).noted place m
    else if most.any (· ≤ done) || last = some place then next.noted place m
    else
      (body (greedyRounds body least most next fuel (done + 1) (some place))).orElse
        (m.takeBack true) next.noted place (m.at' place)

def lazyRounds (inside : Bool) (body : Step → Step) (least : Nat) (most : Option Nat) (next : Step) :
    Nat → Nat → Option Nat → Step
  | 0, _, _ => .fail
  | fuel + 1, done, last => fun place m =>
    if done < least then
      (body (lazyRounds inside body least most next fuel (done + 1) last)).noted place m
    else
      next.orElse (fun m' => (m.takeBack inside m').at' place)
        (if most.any (· ≤ done) || last = some place then .fail
          else (body (lazyRounds inside body least most next fuel (done + 1) (some place))).noted)
        place (m.at' place)

def firmRounds (body : Step → Step) : Nat → Memory → Bool × Memory
  | 0, m => (true, m)
  | left + 1, m =>
    match body .finish m.place m with
    | (true, m) => firmRounds body left m
    | (false, m) => (false, m)

/-- Rounds that there may be, each in the first way that succeeds. The round that fails leaves its place
behind. -/
def looseRounds (body : Step → Step) : Nat → Option Nat → Memory → Memory
  | 0, _, m => m
  | left + 1, last, m =>
    if last = some m.place then m
    else
      match body .finish m.place m with
      | (true, m') => looseRounds body left (some m.place) m'
      | (false, m') => m.takeBack true m'

section

variable (text : Array Char)

/-- The step of a pattern. `inside` says whether a repetition is around it, and `follow` how what comes after
it begins. -/
def step (inside : Bool) (follow : Lead) : Pattern → Step → Step
  | empty, next => next
  | never, _ => .fail
  | one t, next => fun place m =>
    if text[place]?.any t.accepts then next (place + 1) m else (false, m)
  | anchor a, next => fun place m =>
    if Anchor.holds text place a then next place m else (false, m)
  | again n fold _ _, next => fun place m =>
    match m.group? n with
    | some (start, stop) =>
      if repeats text fold start stop place then next (place + (stop - start)) m else (false, m)
    | none => (false, m)
  | cat a b, next => step inside (.ofPattern follow b) a (step inside follow b next)
  | alt a rest, next => fun place m =>
    if (Lead.ofPattern .unknown a).refuses text[place]? then step inside .unknown rest next place m
    else
      (step inside .unknown a next).orElse (m.takeBack inside)
        (step inside .unknown rest next) place (m.at' place)
  | repeated greed least most a, next =>
    match a.test? with
    | some t => repeatTest text inside greed least most t follow next
    | none => fun place m =>
      let few := min least (text.size - place + emptyRounds)
      let most := most.map (· - (least - few))
      let fuel := few + (text.size - place) + 2
      match greed with
      | .greedy => greedyRounds (step true .unknown a) few most next fuel 0 none place (m.at' place)
      | .lazy => lazyRounds inside (step true .unknown a) few most next fuel 0 none place (m.at' place)
      | .possessive =>
        match firmRounds (step inside .unknown a) few (m.at' place) with
        | (false, m) => (false, m.at' place)
        | (true, m) =>
          let left := (most.map (· - few)).getD fuel
          let m := looseRounds (step inside .unknown a) (min left fuel) none m
          next m.place m
  | group n a, next => fun place m =>
    step inside .unknown a (fun place m => next place (m.mark (2 * n - 1) place)) place
      (m.mark (2 * n - 2) place)
  | switched a, next => step inside follow a next
  | look ahead negated a, next => fun place m =>
    let back := if ahead then 0 else a.width.1
    if place < back then (if negated then next place m else (false, m))
    else
      match step inside .unknown a .finish (place - back) (m.at' (place - back)) with
      | (true, m') => if negated then (false, m') else next place m'
      | (false, m') => if negated then next place (m.takeBack inside m') else (false, m')
  | atomic a, next => fun place m =>
    match step inside .unknown a .finish place (m.at' place) with
    | (true, m') => next m'.place m'
    | (false, m') => (false, m'.at' place)
  | given n yes no, next => fun place m =>
    if (m.group? n).isSome then
      step inside (match no with | empty => follow | _ => .unknown) yes next place m
    else step inside follow no next place m

def findFrom (p : Pattern) : Nat → Nat → Option Memory
  | 0, _ => none
  | left + 1, place =>
    match step text false .unknown p .finish place { place } with
    | (true, m) => some m
    | (false, _) => findFrom p left (place + 1)

end

def beginsWithCode : Pattern → Bool
  | one t => t.code?.isSome
  | cat a _ | group _ a | switched a => beginsWithCode a
  | _ => false

def tries (p : Pattern) (size : Nat) : Nat :=
  if p.width.1 = 0 then size + 1
  else if size < p.width.1 then 0
  else if beginsWithCode p then size
  else size - (p.width.1 - 1) + 1

def search (p : Pattern) (s : String) : Except Fault Bool :=
  let text := s.toList.toArray
  match findFrom text p (tries p text.size) 0 with
  | none => .ok false
  | some m => if m.isTorn then .error .tornGroup else .ok true

end Terminal.Pattern
