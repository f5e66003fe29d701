import Terminal.Text.Char
import Terminal.Text.Case
import Terminal.Text.Category

namespace Terminal

inductive Fold where
  | exact
  | ascii
  | full
  deriving DecidableEq, Repr

inductive Category where
  | digit
  | space
  | word
  deriving DecidableEq, Repr

inductive Member where
  | code (n : Nat)
  | range (lo hi : Nat)
  | category (negated ascii : Bool) (c : Category)
  deriving DecidableEq, Repr

inductive CharTest where
  | any (newlines : Bool)
  | single (negated : Bool) (fold : Fold) (n : Nat)
  | set (negated : Bool) (fold : Fold) (members : List Member)
  deriving DecidableEq, Repr

inductive Anchor where
  | start
  | stop
  | lineStart
  | lineStop
  | textStart
  | textStop
  | boundary (negated ascii : Bool)
  deriving DecidableEq, Repr

inductive Greed where
  | greedy
  | lazy
  | possessive
  deriving DecidableEq, Repr

inductive Pattern where
  | empty
  /-- Branches end in this: none is left to try. -/
  | never
  | one (test : CharTest)
  | anchor (a : Anchor)
  | again (group : Nat) (fold : Fold) (least most : Nat)
  | cat (a b : Pattern)
  /-- The branch `a`, and the branches after it. -/
  | alt (a rest : Pattern)
  | repeated (greed : Greed) (least : Nat) (most : Option Nat) (a : Pattern)
  | group (n : Nat) (a : Pattern)
  /-- A group that only sets switches. -/
  | switched (a : Pattern)
  | look (ahead negated : Bool) (a : Pattern)
  | atomic (a : Pattern)
  | given (group : Nat) (yes no : Pattern)
  deriving DecidableEq, Repr

namespace Category

def isAsciiBlank (c : Char) : Bool := (9 ≤ c.toNat && c.toNat ≤ 13) || c == ' '

def isWord (ascii : Bool) (c : Char) : Bool :=
  c == '_' || if ascii then c.isAlphanum else Text.isAlphanumeric c

def accepts (ascii : Bool) (c : Char) : Category → Bool
  | digit => if ascii then c.isDigit else Text.isDigit c
  | space => if ascii then isAsciiBlank c else Text.isBlank c
  | word => isWord ascii c

end Category

namespace Fold

def apply (n : Nat) : Fold → Nat
  | exact => n
  | ascii => if 65 ≤ n && n ≤ 90 then n + 32 else n
  | full => Text.lowerCode n

def isCased (n : Nat) : Fold → Bool
  | exact => false
  | ascii => (65 ≤ n && n ≤ 90) || (97 ≤ n && n ≤ 122)
  | full => Text.lowerCode n != n || Text.upperCode n != n

end Fold

/-- From this code point on a member of a set stands for itself, and a range for itself and for what has its
capital there. -/
def Member.foldLimit : Nat := 0x10000

namespace Member

def isCased (fold : Fold) : Member → Bool
  | code n => fold != .exact && (foldLimit ≤ n || fold.isCased n)
  | range lo hi =>
    fold != .exact &&
      (foldLimit ≤ hi || (List.range' lo (hi + 1 - lo)).any (fold.isCased ·))
  | category _ _ _ => false

def inRange (fold : Fold) (lo hi n : Nat) : Bool :=
  let top := min hi (foldLimit - 1)
  let low := match fold with
    | .exact => lo ≤ n && n ≤ hi
    | .ascii => (lo ≤ n && n ≤ top) || (97 ≤ n && n ≤ 122 && lo ≤ n - 32 && n - 32 ≤ top)
    | .full => (Text.matesOf n).any fun k => Text.lowersInto k lo top
  low || (fold != .exact && foldLimit ≤ hi &&
    ((lo ≤ n && n ≤ hi) || (lo ≤ Text.upperCode n && Text.upperCode n ≤ hi)))

def accepts (fold : Fold) (c : Char) (n : Nat) : Member → Bool
  | code m =>
    if foldLimit ≤ m then n == m
    else if fold = .full then (Text.matesOf n).contains (fold.apply m)
    else n == fold.apply m
  | range lo hi => inRange fold lo hi n
  | category negated ascii k => k.accepts ascii c != negated

end Member

namespace CharTest

def ofCode (negated : Bool) (fold : Fold) (n : Nat) : CharTest :=
  single negated (if fold.isCased n then fold else .exact) n

def ofMembers (negated : Bool) (fold : Fold) (members : List Member) : CharTest :=
  set negated (if members.any (Member.isCased fold) then fold else .exact) members

def accepts (c : Char) : CharTest → Bool
  | any newlines => newlines || c != '\n'
  | single negated fold n =>
    let m := fold.apply c.toNat
    (if fold = .full then (Text.matesOf m).contains (fold.apply n) else m == fold.apply n) != negated
  | set negated fold members =>
    (members.any fun m => m.accepts fold c (fold.apply c.toNat)) != negated

def code? : CharTest → Option Nat
  | single false .exact n => some n
  | _ => none

def comparesForms : CharTest → Bool
  | set _ fold _ => fold != .exact
  | single _ fold n => fold == .full && 1 < (Text.matesOf (fold.apply n)).length
  | any _ => false

end CharTest

namespace Pattern

def ofList : List Pattern → Pattern
  | [] => empty
  | [p] => p
  | p :: ps => cat p (ofList ps)

def ofBranches : List Pattern → Pattern
  | [] => never
  | p :: ps => alt p (ofBranches ps)

/-- A width of this many characters or more counts as without bound. -/
def widthLimit : Nat := 0xFFFFFFFF

def addWidth (v w : Nat × Nat) : Nat × Nat :=
  (min (v.1 + w.1) (widthLimit - 1), min (v.2 + w.2) widthLimit)

def width : Pattern → Nat × Nat
  | empty | anchor _ | look _ _ _ => (0, 0)
  | never => (widthLimit - 1, 0)
  | one _ => (1, 1)
  | again _ _ least most => (least, most)
  | cat a b => addWidth a.width b.width
  | alt a b => (min a.width.1 b.width.1, max a.width.2 b.width.2)
  | repeated _ least most a =>
    addWidth (0, 0) (a.width.1 * least, a.width.2 * most.getD widthLimit)
  | group _ a | switched a | atomic a => a.width
  | given _ yes no => (min yes.width.1 no.width.1, max yes.width.2 no.width.2)

def test? : Pattern → Option CharTest
  | one t => some t
  | switched a => a.test?
  | _ => none

end Pattern

end Terminal
