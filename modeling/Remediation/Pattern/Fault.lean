import Remediation.Text.Quoted
import Remediation.Decimal.Digits
/-!
# Patterns that cannot be read

What is wrong with the text of a pattern, and at which character.
-/

set_option autoImplicit false

namespace Remediation

/-- What is wrong with the text of a pattern. -/
inductive PatternProblem where
  | openSet
  | openGroup
  | openComment
  | openName (close : Char)
  | unbalanced
  | nothingToRepeat
  | repeatedTwice
  | repeatOrder
  | repeatSize
  | loneBackslash
  | badEscape (spelling : String)
  | incompleteEscape (spelling : String)
  | largeOctal (spelling : String)
  | badRange (first last : String)
  | noGroup (n : Nat)
  | groupZero
  | groupOpen
  | groupInside
  | unknownName (name : String)
  | badName (name : String)
  | nameTwice (name : String) (n before : Nat)
  | missing (what : String)
  | unknownCharacter (name : String)
  | unknownExtension (spelling : String)
  | endTooEarly
  | lateFlags
  | unknownFlag
  | flagTwiceUsed
  | mixedFlags
  | localeFlag
  | templateFlag
  | keptFlag
  | branches
  | varyingWidth
  deriving DecidableEq, Repr, Inhabited

namespace PatternProblem

/-- The wording of a problem. -/
def wording : PatternProblem → String
  | openSet => "unterminated character set"
  | openGroup => "missing ), unterminated subpattern"
  | openComment => "missing ), unterminated comment"
  | openName close => s!"missing {close}, unterminated name"
  | unbalanced => "unbalanced parenthesis"
  | nothingToRepeat => "nothing to repeat"
  | repeatedTwice => "multiple repeat"
  | repeatOrder => "min repeat greater than max repeat"
  | repeatSize => "the repetition number is too large"
  | loneBackslash => "bad escape (end of pattern)"
  | badEscape spelling => s!"bad escape {spelling}"
  | incompleteEscape spelling => s!"incomplete escape {spelling}"
  | largeOctal spelling => s!"octal escape value {spelling} outside of range 0-0o377"
  | badRange first last => s!"bad character range {first}-{last}"
  | noGroup n => s!"invalid group reference {Decimal.intText n}"
  | groupZero => "bad group number"
  | groupOpen => "cannot refer to an open group"
  | groupInside => "cannot refer to group defined in the same lookbehind subpattern"
  | unknownName name => s!"unknown group name {Text.quote name}"
  | badName name => s!"bad character in group name {Text.quote name}"
  | nameTwice name n before =>
    s!"redefinition of group name {Text.quote name} as group {Decimal.intText n}; was group {Decimal.intText before}"
  | missing what => s!"missing {what}"
  | unknownCharacter name => s!"undefined character name {Text.quote name}"
  | unknownExtension spelling => s!"unknown extension ?{spelling}"
  | endTooEarly => "unexpected end of pattern"
  | lateFlags => "global flags not at the start of the expression"
  | unknownFlag => "unknown flag"
  | flagTwiceUsed => "bad inline flags: flag turned on and off"
  | mixedFlags => "bad inline flags: flags 'a', 'u' and 'L' are incompatible"
  | localeFlag => "bad inline flags: cannot use 'L' flag with a str pattern"
  | templateFlag => "bad inline flags: cannot turn on global flag"
  | keptFlag => "bad inline flags: cannot turn off flags 'a', 'u' and 'L'"
  | branches => "conditional backref with more than two branches"
  | varyingWidth => "look-behind requires fixed-width pattern"

end PatternProblem

/-- What is wrong with the text of a pattern, and where. -/
structure PatternFault where
  problem : PatternProblem
  position : Option Nat
  deriving DecidableEq, Repr, Inhabited

namespace PatternFault

/-- The wording of a fault in the text of a pattern; a text of several lines has the line and the
column named. -/
def message (f : PatternFault) (pattern : String) : String :=
  match f.position with
  | none => f.problem.wording
  | some position =>
    let base := s!"{f.problem.wording} at position {Decimal.intText position}"
    let cs := pattern.toList
    if cs.contains '\n' then
      let before := cs.take position
      let line := before.count '\n' + 1
      let column := (before.reverse.takeWhile (· ≠ '\n')).length + 1
      s!"{base} (line {Decimal.intText line}, column {Decimal.intText column})"
    else base

end PatternFault

end Remediation
