/-!
# Shortest decimals

A positive binary fraction `m · 2 ^ q` stands for every real number that rounds to it.  Of the
decimals that do, this module finds one with the fewest digits, and of those the nearest one.

The numbers that round to `m · 2 ^ q` reach half way to both neighbours; the ends belong to them
exactly if `m` is even.  Measured in quarters of a unit, `4 · m` is the fraction itself, and a
neighbour below is twice as near where `m` is the least significand of its binade.
-/

set_option autoImplicit false

namespace Remediation.Decimal

/-- A positive binary fraction `significand · 2 ^ exponent`; `narrow` says that its neighbour below
is only half a unit away. -/
structure Binary where
  significand : Nat
  exponent : Int
  narrow : Bool
  deriving DecidableEq, Repr, Inhabited

/-- A decimal `digits · 10 ^ exponent`. -/
structure Scaled where
  digits : Nat
  exponent : Int
  deriving DecidableEq, Repr, Inhabited

namespace Binary

/-- `n` quarters of a unit of the fraction, as a quotient of natural numbers. -/
def quarters (b : Binary) (n : Nat) : Nat × Nat :=
  let e := b.exponent - 2
  if 0 ≤ e then (n * Nat.pow 2 e.toNat, 1) else (n, Nat.pow 2 (-e).toNat)

/-- The quotient `n · 10 ^ e / d`, as a quotient of natural numbers. -/
def scale (x : Nat × Nat) (e : Int) : Nat × Nat :=
  if 0 ≤ e then (x.1 * Nat.pow 10 e.toNat, x.2) else (x.1, x.2 * Nat.pow 10 (-e).toNat)

/-- The least `e` near an estimate with `value < 10 ^ e`. -/
def magnitude (b : Binary) : Int :=
  let x := b.quarters (4 * b.significand)
  let estimate : Int := ((Nat.log2 x.1 : Int) - (Nat.log2 x.2 : Int)) * 30103 / 100000
  let below (e : Int) : Bool := let y := scale x (-e); y.1 < y.2
  (([estimate - 1, estimate, estimate + 1, estimate + 2].find? below).getD (estimate + 3))

/-- Whether the decimal `c · 10 ^ e` rounds to the fraction. -/
def holds (b : Binary) (e : Int) (c : Nat) : Bool :=
  let lo := scale (b.quarters (4 * b.significand - if b.narrow then 1 else 2)) (-e)
  let hi := scale (b.quarters (4 * b.significand + 2)) (-e)
  if b.significand % 2 = 0 then lo.1 ≤ c * lo.2 && c * hi.2 ≤ hi.1
  else lo.1 < c * lo.2 && c * hi.2 < hi.1

/-- The decimal on the grid of `10 ^ e` that rounds to the fraction and is nearest to it: one of
the two grid points around it, if any.  Of two equally near ones the even one is taken. -/
def nearestOn (b : Binary) (e : Int) : Option Nat :=
  let x := scale (b.quarters (4 * b.significand)) (-e)
  let c := x.1 / x.2
  match b.holds e c, b.holds e (c + 1) with
  | false, false => none
  | true, false => some c
  | false, true => some (c + 1)
  | true, true =>
    let twice := 2 * (x.1 - c * x.2)
    if twice < x.2 then some c
    else if x.2 < twice then some (c + 1)
    else if c % 2 = 0 then some c else some (c + 1)

/-- The first grid, from coarse to fine, that has a decimal for the fraction.  Seventeen digits are
enough for every fraction of 53 binary digits. -/
def shortestFrom (b : Binary) (top : Int) : Nat → Nat → Scaled
  | 0, _ => ⟨0, 0⟩
  | fuel + 1, count =>
    match b.nearestOn (top - count) with
    | some c => ⟨c, top - count⟩
    | none => b.shortestFrom top fuel (count + 1)

/-- The shortest decimal that rounds to the fraction. -/
def shortest (b : Binary) : Scaled := b.shortestFrom b.magnitude 17 1

end Binary

end Remediation.Decimal
