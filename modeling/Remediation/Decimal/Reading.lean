import Remediation.Decimal.Floating
import Remediation.Decimal.Digits
import Remediation.Text.Digit
import Remediation.Text.Blank
/-!
# Reading numbers

Readers for decimal numbers in free text.  Digits of every script count, and a single underscore
may stand between two digits of a floating-point number.
-/

set_option autoImplicit false

namespace Remediation.Decimal

open Remediation.Text

/-- The floating-point number nearest to `± mantissa · 10 ^ exponent`. -/
def floatOfDecimal (negative : Bool) (mantissa : Nat) (exponent : Int) : Float :=
  let size : Int := (natDigits mantissa).length + exponent
  let magnitude : Float :=
    if mantissa = 0 ∨ size < -400 then 0.0
    else if 400 < size then 1.0 / 0.0
    else if exponent < 0 then floatOfQuotient mantissa (Nat.pow 10 (-exponent).toNat)
    else floatOfBinary (mantissa * Nat.pow 10 exponent.toNat) 0
  signedFloat negative magnitude

/-- The ASCII digit of the same value, for a digit of another script. -/
def asciiDigit (c : Char) : Char :=
  match digitValue? c with
  | some n => Nat.digitChar n
  | none => c

/-- An optional sign at the front: whether it is a minus, and the rest. -/
def readSign : List Char → Bool × List Char
  | '-' :: cs => (true, cs)
  | '+' :: cs => (false, cs)
  | cs => (false, cs)

/-- An optional sign and at least one digit of any script; the result has ASCII digits. -/
def readSignedDigits? (cs : List Char) : Option (Bool × List Char) :=
  let (negative, digits) := readSign cs
  if !digits.isEmpty && digits.all isDigit then some (negative, digits.map asciiDigit) else none

/-- The integer of a sign and its digits. -/
def signedInt (negative : Bool) (digits : List Char) : Int :=
  if negative then -(natOfDigits digits : Int) else natOfDigits digits

/-- Remove the underscores between digits; an underscore elsewhere refuses the text. -/
def dropUnderscores? (previous : Option Char) : List Char → Option (List Char)
  | [] => some []
  | '_' :: cs =>
    match previous, cs with
    | some p, c :: _ => if p.isDigit && c.isDigit then dropUnderscores? (some '_') cs else none
    | _, _ => none
  | c :: cs => (dropUnderscores? (some c) cs).map (c :: ·)

/-- An exponent part: nothing, or a letter e, an optional sign and digits. -/
def readExponent? : List Char → Option Int
  | [] => some 0
  | e :: cs =>
    if e = 'e' ∨ e = 'E' then
      let (negative, digits) := readSign cs
      if !digits.isEmpty && digits.all Char.isDigit then some (signedInt negative digits) else none
    else none

/-- Digits with an optional point and an optional exponent. -/
def readUnsigned? (negative : Bool) (cs : List Char) : Option Float :=
  let whole := cs.takeWhile Char.isDigit
  let rest := cs.dropWhile Char.isDigit
  let (behind, rest) : List Char × List Char :=
    match rest with
    | '.' :: rest => (rest.takeWhile Char.isDigit, rest.dropWhile Char.isDigit)
    | _ => ([], rest)
  if whole.isEmpty && behind.isEmpty then none
  else (readExponent? rest).map fun e =>
    floatOfDecimal negative (natOfDigits (whole ++ behind)) (e - behind.length)

/-- A floating-point number: digits with an optional point and exponent, or a name of infinity or
of no number, in any case; blanks around it are ignored. -/
def readFloat? (s : String) : Option Float :=
  let cs := stripChars (s.toList.map asciiDigit)
  let (negative, body) := readSign cs
  let name := String.ofList (body.map Char.toLower)
  if name = "inf" ∨ name = "infinity" then
    some (if negative then -(1.0 / 0.0) else 1.0 / 0.0)
  else if name = "nan" then some (0.0 / 0.0)
  else (dropUnderscores? none body).bind (readUnsigned? negative)

end Remediation.Decimal
