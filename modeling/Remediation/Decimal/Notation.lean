import Remediation.Decimal.Digits
import Remediation.Decimal.Floating
/-!
# Notation of floating-point numbers

A floating-point number is written with the fewest digits that read back.  The notation is
positional, with at least one digit on either side of the point, while the first digit stands
between four places behind the point and sixteen before it; otherwise it has an exponent of two or
more digits.
-/

set_option autoImplicit false

namespace Remediation.Decimal

/-- Texts and bounds of a notation for floating-point numbers. -/
structure FloatNotation where
  nan : String
  infinity : String
  /-- The first digit's least power of ten in positional notation. -/
  least : Int
  /-- The first digit's greatest power of ten in positional notation. -/
  greatest : Int
  /-- The least number of digits of an exponent. -/
  exponentWidth : Nat
  deriving DecidableEq, Repr, Inhabited

namespace FloatNotation

/-- The exponent, with its sign. -/
def exponentPart (f : FloatNotation) (e : Int) : List Char :=
  let digits := natDigits e.natAbs
  'e' :: (if e < 0 then '-' else '+') ::
    (List.replicate (f.exponentWidth - digits.length) '0' ++ digits)

/-- The digits of a positive decimal without trailing zeros, and the power of ten of the first. -/
def normalize (d : Scaled) : List Char × Int :=
  let digits := natDigits d.digits
  let kept := (digits.reverse.dropWhile (· == '0')).reverse
  (kept, d.exponent + digits.length - 1)

/-- A positive decimal in this notation. -/
def positive (f : FloatNotation) (d : Scaled) : List Char :=
  let (digits, top) := normalize d
  if f.least ≤ top ∧ top ≤ f.greatest then
    if 0 ≤ top then
      let whole := digits.take (top.toNat + 1)
      let behind := digits.drop (top.toNat + 1)
      whole ++ List.replicate (top.toNat + 1 - whole.length) '0' ++ '.' ::
        (if behind.isEmpty then ['0'] else behind)
    else
      '0' :: '.' :: (List.replicate ((-top).toNat - 1) '0' ++ digits)
  else
    match digits with
    | [] => []
    | first :: more =>
      first :: ((if more.isEmpty then [] else '.' :: more) ++ f.exponentPart top)

/-- A floating-point number in this notation. -/
def write (f : FloatNotation) (x : Float) : String :=
  let signed (negative : Bool) (cs : List Char) : String :=
    String.ofList (if negative then '-' :: cs else cs)
  match Floating.ofBits x.toBits with
  | .nan => f.nan
  | .infinite negative => signed negative f.infinity.toList
  | .zero negative => signed negative ['0', '.', '0']
  | .finite negative b => signed negative (f.positive b.shortest)

end FloatNotation

/-- The notation of numbers in messages and texts. -/
def plainFloat : FloatNotation := ⟨"nan", "inf", -4, 15, 2⟩

/-- The notation of numbers in documents. -/
def documentFloat : FloatNotation := ⟨"NaN", "Infinity", -4, 15, 2⟩

end Remediation.Decimal
