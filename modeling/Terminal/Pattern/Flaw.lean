import Terminal.Failure
import Terminal.Text.Category

namespace Terminal.Pattern

inductive Flaw where
  | danglingEscape
  | badEscape (escape : String)
  | incompleteEscape (escape : String)
  | octalTooLarge (escape : String)
  | missingBrace
  | unknownCharacter (name : String)
  | missingName (what : String)
  | unterminatedName (closer : Char)
  | badGroupName (name : String)
  | unknownGroup (name : String)
  | redefinedGroup (name : String) (new old : Nat)
  | openGroup
  | lookBehindGroup
  | invalidGroup (n : Nat)
  | badGroupNumber
  | unterminatedSet
  | badRange (lo hi : String)
  | nothingToRepeat
  | multipleRepeat
  | repeatBounds
  | unexpectedEnd
  | unknownExtension (text : String)
  | unterminatedComment
  | unterminatedGroup
  | tooManyBranches
  | lateFlags
  | localeFlag
  | clashingFlags
  | missingFlagEnd
  | unknownFlag
  | globalFlagOn
  | globalFlagOff
  | missingFlag
  | alphabetOff
  | missingColon
  | onAndOff
  | unbalanced
  | variableLookBehind
  | templateRepeat (greed : String)
  deriving DecidableEq, Repr

namespace Flaw

def message : Flaw → String
  | danglingEscape => "bad escape (end of pattern)"
  | badEscape escape => "bad escape " ++ escape
  | incompleteEscape escape => "incomplete escape " ++ escape
  | octalTooLarge escape => "octal escape value " ++ escape ++ " outside of range 0-0o377"
  | missingBrace => "missing \x7b"
  | unknownCharacter name => "undefined character name " ++ Text.quoted name
  | missingName what => "missing " ++ what
  | unterminatedName closer => "missing " ++ closer.toString ++ ", unterminated name"
  | badGroupName name => "bad character in group name " ++ Text.quoted name
  | unknownGroup name => "unknown group name " ++ Text.quoted name
  | redefinedGroup name new old =>
    "redefinition of group name " ++ Text.quoted name ++ " as group " ++ toString new ++
      "; was group " ++ toString old
  | openGroup => "cannot refer to an open group"
  | lookBehindGroup => "cannot refer to group defined in the same lookbehind subpattern"
  | invalidGroup n => "invalid group reference " ++ toString n
  | badGroupNumber => "bad group number"
  | unterminatedSet => "unterminated character set"
  | badRange lo hi => "bad character range " ++ lo ++ "-" ++ hi
  | nothingToRepeat => "nothing to repeat"
  | multipleRepeat => "multiple repeat"
  | repeatBounds => "min repeat greater than max repeat"
  | unexpectedEnd => "unexpected end of pattern"
  | unknownExtension text => "unknown extension ?" ++ text
  | unterminatedComment => "missing ), unterminated comment"
  | unterminatedGroup => "missing ), unterminated subpattern"
  | tooManyBranches => "conditional backref with more than two branches"
  | lateFlags => "global flags not at the start of the expression"
  | localeFlag => "bad inline flags: cannot use 'L' flag with a str pattern"
  | clashingFlags => "bad inline flags: flags 'a', 'u' and 'L' are incompatible"
  | missingFlagEnd => "missing -, : or )"
  | unknownFlag => "unknown flag"
  | globalFlagOn => "bad inline flags: cannot turn on global flag"
  | globalFlagOff => "bad inline flags: cannot turn off global flag"
  | missingFlag => "missing flag"
  | alphabetOff => "bad inline flags: cannot turn off flags 'a', 'u' and 'L'"
  | missingColon => "missing :"
  | onAndOff => "bad inline flags: flag turned on and off"
  | unbalanced => "unbalanced parenthesis"
  | variableLookBehind => "look-behind requires fixed-width pattern"
  | templateRepeat greed => "internal: unsupported template operator " ++ greed

end Flaw

inductive ReadError where
  | flaw (f : Flaw) (place : Option Nat)
  | fault (f : Fault)
  deriving DecidableEq, Repr

def lineAndColumn (source : List Char) (place : Nat) : Nat × Nat :=
  let before := source.take place
  (before.count '\n' + 1, (before.reverse.takeWhile (· != '\n')).length + 1)

def describe (source : String) (f : Flaw) : Option Nat → String
  | none => f.message
  | some place =>
    let text := f.message ++ " at position " ++ toString place
    if source.toList.contains '\n' then
      let (line, column) := lineAndColumn source.toList place
      text ++ " (line " ++ toString line ++ ", column " ++ toString column ++ ")"
    else text

end Terminal.Pattern
