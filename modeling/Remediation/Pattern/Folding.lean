import Remediation.Text.Case
/-!
# Folding case in patterns

Characters are compared by their lower case where case is folded.  Some characters that have different
lower case forms count as the same nevertheless, as they have the same upper case.
-/

set_option autoImplicit false

namespace Remediation

namespace Pattern

/-- Which characters are told apart by case alone. -/
inductive Folding where
  /-- All of them. -/
  | exact
  /-- All but those of ASCII. -/
  | ascii
  /-- None. -/
  | all
  deriving DecidableEq, Repr, Inhabited

/-- Sets of lower case forms that count as the same. -/
def lowerTwins : List (List Nat) := [
  [0x69, 0x131], [0x73, 0x17f], [0xb5, 0x3bc], [0x345, 0x3b9, 0x1fbe], [0x390, 0x1fd3],
  [0x3b0, 0x1fe3], [0x3b2, 0x3d0], [0x3b5, 0x3f5], [0x3b8, 0x3d1], [0x3ba, 0x3f0], [0x3c0, 0x3d6],
  [0x3c1, 0x3f1], [0x3c2, 0x3c3], [0x3c6, 0x3d5], [0x432, 0x1c80], [0x434, 0x1c81], [0x43e, 0x1c82],
  [0x441, 0x1c83], [0x442, 0x1c84, 0x1c85], [0x44a, 0x1c86], [0x463, 0x1c87], [0x1c88, 0xa64b],
  [0x1e61, 0x1e9b], [0xfb05, 0xfb06]]

/-- The lower case forms that count as the same as one, itself included. -/
def twins (n : Nat) : List Nat := (lowerTwins.find? (·.contains n)).getD [n]

namespace Folding

/-- The lower case of a character. -/
def lower (f : Folding) (c : Char) : Char :=
  match f with
  | .exact => c
  | .ascii => c.toLower
  | .all => Text.lowerChar c

/-- Whether a character has forms of different case. -/
def isCased (f : Folding) (c : Char) : Bool :=
  match f with
  | .exact => false
  | .ascii => c.isAlpha
  | .all => Text.isCased c

/-- Whether a character is the same as one of a pattern. -/
def same (f : Folding) (d c : Char) : Bool :=
  match f with
  | .exact => c == d
  | .ascii => f.lower c == f.lower d
  | .all =>
    if Text.isCased d then (twins (f.lower d).toNat).contains (f.lower c).toNat else c == d

/-- The codes of the characters whose lower case counts as the same as one. -/
def origins (f : Folding) (low : Char) : List Nat :=
  match f with
  | .exact => [low.toNat]
  | .ascii => [low.toNat, low.toUpper.toNat]
  | .all => (twins low.toNat).flatMap Text.codesWithLower

theorem same_exact (c d : Char) : same .exact d c = (c == d) := rfl

end Folding

end Pattern

end Remediation
