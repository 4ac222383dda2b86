import Remediation.Decimal.Digits
import Remediation.Decimal.Floating
/-!
# Numbers with a given count of digits

A positive binary fraction is written with so many digits behind the point, or with so many digits in
all and an exponent.  It is rounded once, from its exact value, and of two equally near decimals the
even one is taken.
-/

set_option autoImplicit false

namespace Remediation.Decimal

/-- The natural number nearest to a quotient; of two equally near ones the even one. -/
def nearestNat (n d : Nat) : Nat :=
  let q := n / d
  let twice := 2 * (n % d)
  if twice < d then q else if d < twice then q + 1 else if q % 2 = 0 then q else q + 1

namespace Binary

/-- The fraction as a quotient of natural numbers. -/
def quotient (b : Binary) : Nat × Nat := b.quarters (4 * b.significand)

/-- The fraction in units of `10 ^ e`, rounded. -/
def inUnits (b : Binary) (e : Int) : Nat :=
  let x := scale b.quotient (-e)
  nearestNat x.1 x.2

/-- The first `count + 1` digits of the fraction, and the power of ten of the first one. -/
def leading (b : Binary) (count : Nat) : Nat × Int :=
  let top := b.magnitude - 1
  let digits := b.inUnits (top - count)
  if digits = Nat.pow 10 (count + 1) then (Nat.pow 10 count, top + 1) else (digits, top)

end Binary

/-- Digits with a point before the last `places` of them. -/
def pointed (digits : Nat) (places : Nat) (always : Bool) : List Char :=
  let cs := natDigits digits
  let cs := List.replicate (places + 1 - cs.length) '0' ++ cs
  let whole := cs.take (cs.length - places)
  if places = 0 then (if always then whole ++ ['.'] else whole)
  else whole ++ '.' :: cs.drop whole.length

/-- An exponent of at least two digits, with its sign. -/
def exponentDigits (e : Int) : List Char :=
  let digits := natDigits e.natAbs
  'e' :: (if e < 0 then '-' else '+') :: (List.replicate (2 - digits.length) '0' ++ digits)

/-- Drop the zeros at the end of digits behind a point, and the point if nothing is left behind it. -/
def dropZeros (cs : List Char) : List Char :=
  if cs.contains '.' then
    let kept := (cs.reverse.dropWhile (· == '0')).reverse
    if kept.getLast? = some '.' then kept.dropLast else kept
  else cs

/-- The ways to write a number with a given count of digits. -/
inductive Counting where
  /-- So many digits behind the point. -/
  | places
  /-- So many digits behind the first one, and an exponent. -/
  | exponent
  /-- So many digits in all, in the shorter of both ways. -/
  | digits
  deriving DecidableEq, Repr, Inhabited

namespace Counting

/-- The size of a number; `always` keeps the point and the zeros at the end. -/
def writeSize (way : Counting) (count : Nat) (always : Bool) (x : Floating) : List Char :=
  let fixed (places : Nat) : List Char :=
    match x with
    | .finite _ b => pointed (b.inUnits (-(places : Int))) places always
    | _ => pointed 0 places always
  let lead (count : Nat) : Nat × Int :=
    match x with
    | .finite _ b => b.leading count
    | _ => (0, 0)
  let powered (count : Nat) : List Char × List Char :=
    let (n, top) := lead count
    (pointed n count always, exponentDigits top)
  match way with
  | places => fixed count
  | exponent => let (cs, e) := powered count; cs ++ e
  | digits =>
    let count := max count 1
    let (_, top) := lead (count - 1)
    let trim (cs : List Char) : List Char := if always then cs else dropZeros cs
    if -4 ≤ top ∧ top < count then trim (fixed ((count : Int) - 1 - top).toNat)
    else let (cs, e) := powered (count - 1); trim cs ++ e

/-- The size of a number, with names for those that are not finite. -/
def write (way : Counting) (count : Nat) (always : Bool) (x : Float) : List Char :=
  match Floating.ofBits x.toBits with
  | .nan => ['n', 'a', 'n']
  | .infinite _ => ['i', 'n', 'f']
  | f => way.writeSize count always f

end Counting

/-- Whether a number is below zero, or a zero with a minus. -/
def isNegative (x : Float) : Bool :=
  match Floating.ofBits x.toBits with
  | .nan => false
  | .infinite negative | .zero negative => negative
  | .finite negative _ => negative

end Remediation.Decimal
