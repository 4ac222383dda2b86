import Remediation.Decimal.Shortest
/-!
# Floating-point numbers

What the bits of a 64-bit floating-point number stand for: a sign, and a binary fraction unless the
number is zero, infinite or none at all.
-/

set_option autoImplicit false

namespace Remediation.Decimal

/-- What a 64-bit floating-point number is. -/
inductive Floating where
  | nan
  | infinite (negative : Bool)
  | zero (negative : Bool)
  | finite (negative : Bool) (magnitude : Binary)
  deriving DecidableEq, Repr, Inhabited

namespace Floating

/-- The unit above the stored digits of a fraction, which is not stored itself. -/
def hiddenUnit : Nat := 0x10000000000000

/-- Decode sign, exponent and significand of a 64-bit floating-point number. -/
def ofBits (bits : UInt64) : Floating :=
  let negative := bits >>> 63 == 1
  let exponent := ((bits >>> 52) &&& 0x7ff).toNat
  let fraction := (bits &&& 0xfffffffffffff).toNat
  if exponent = 0x7ff then
    if fraction = 0 then .infinite negative else .nan
  else if exponent = 0 then
    if fraction = 0 then .zero negative
    else .finite negative ⟨fraction, -1074, false⟩
  else
    .finite negative
      ⟨fraction + hiddenUnit, (exponent : Int) - 1075, fraction = 0 ∧ 1 < exponent⟩

/-- An integer of a sign and a size. -/
def signed (negative : Bool) (n : Nat) : Int := if negative then -(n : Int) else n

/-- The integer that a number is, if it is one. -/
def whole? : Floating → Option Int
  | nan | infinite _ => none
  | zero _ => some 0
  | finite negative b =>
    if 0 ≤ b.exponent then some (signed negative (b.significand * Nat.pow 2 b.exponent.toNat))
    else
      let unit := Nat.pow 2 (-b.exponent).toNat
      if b.significand % unit = 0 then some (signed negative (b.significand / unit)) else none

/-- The significand, with its sign, and the exponent of a number that has them. -/
def parts? : Floating → Option (Int × Int)
  | nan | infinite _ => none
  | zero _ => some (0, 0)
  | finite negative b => some (signed negative b.significand, b.exponent)

end Floating

/-- The floating-point number nearest to `n · 2 ^ e`; of two equally near ones the even one.  All but
the leading digits are replaced by one that says whether any of them is not zero. -/
def floatOfBinary (n : Nat) (e : Int) : Float :=
  let cut := max (n.log2 - 61) (-1076 - e).toNat
  let kept := n >>> cut
  let sticky := if kept <<< cut = n then kept else kept ||| 1
  sticky.toUInt64.toFloat.scaleB (e + cut)

/-- The floating-point number nearest to the quotient of two natural numbers. -/
def floatOfQuotient (n d : Nat) : Float :=
  let more := d.log2 + 66 - n.log2
  let quotient := (n <<< more) / d
  let sticky := if quotient * d = n <<< more then 2 * quotient else 2 * quotient + 1
  floatOfBinary sticky (-(more : Int) - 1)

/-- A floating-point number with a sign. -/
def signedFloat (negative : Bool) (x : Float) : Float := if negative then -x else x

/-- The floating-point number nearest to an integer. -/
def floatOfInt (n : Int) : Float := signedFloat (n < 0) (floatOfBinary n.natAbs 0)

/-- The floating-point number nearest to the sum of some finite ones. -/
def floatSum (xs : List Float) : Float :=
  let parts := xs.filterMap fun x => (Floating.ofBits x.toBits).parts?
  let least := (parts.map (·.2)).foldl min 0
  let total := (parts.map fun (m, e) => m * Nat.pow 2 (e - least).toNat).foldl (· + ·) 0
  signedFloat (total < 0) (floatOfBinary total.natAbs least)

/-- The rest of a division that goes toward the smaller number, with the sign of the divisor. -/
def floatRest (x y : Float) : Float :=
  match (Floating.ofBits x.toBits).parts?, (Floating.ofBits y.toBits).parts? with
  | some (m, e), some (n, f) =>
    let least := min e f
    let rest :=
      Int.fmod (m * Nat.pow 2 (e - least).toNat) (n * Nat.pow 2 (f - least).toNat)
    if rest = 0 then signedFloat (y < 0.0) 0.0
    else signedFloat (rest < 0) (floatOfBinary rest.natAbs least)
  | some (m, _), none =>
    if y.isNaN then y else if m = 0 then signedFloat (y < 0.0) 0.0
    else if (m < 0) = (y < 0.0) then x else y
  | none, _ => 0.0 / 0.0

/-- The whole number below the quotient of two floating-point numbers, as it comes out where the
quotient is rounded once on the way. -/
def floatFloor (x y : Float) : Float :=
  let rest := floatRest x y
  let quotient := (x - rest) / y
  if quotient == 0.0 then signedFloat ((x < 0.0) != (y < 0.0)) 0.0
  else
    let floor := quotient.floor
    if 0.5 < quotient - floor then floor + 1.0 else floor

end Remediation.Decimal
