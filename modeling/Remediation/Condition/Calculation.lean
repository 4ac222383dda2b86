import Remediation.Condition.Operand
import Remediation.Condition.Span
/-!
# Calculating with operands

Sums, differences, products, quotients and rests.  The left operand decides what it takes to its
right; where it is bare, an integer or a double-precision number to its right decides instead.  What
an operation refuses has no result, and neither has an integer of more than 64 bits.
-/

set_option autoImplicit false

namespace Remediation

namespace Condition

namespace Operand

/-! ## Numbers -/

/-- The result of a calculation with whole numbers, of the type that the left operand asks for, or
that the right one asks for where the left one is bare. -/
def wholeResult (a b : Operand) (n : Int) : Option Operand :=
  match a.kindOf, b.kindOf with
  | .int, _ | .bareInt, .int => int64? n
  | .uint, _ | .bareInt, .uint => uint64? n
  | _, _ => some (.bareInt n)

/-- Calculate with numbers.  Integers do not take a floating-point number to their right, and what
floating-point numbers give is bare. -/
def calculate (whole : Int → Int → Int) (float : Float → Float → Float) (a b : Operand) :
    Option Operand :=
  match a.whole?, b.whole? with
  | some m, some n => wholeResult a b (whole m n)
  | _, _ =>
    if a.kindOf = .int ∨ a.kindOf = .uint then none
    else
      match a.asFloat?, b.asFloat? with
      | some x, some y => some (.bareDouble (float x y))
      | _, _ => none

/-- The quotient of floating-point numbers; what is divided by zero is infinite. -/
def floatQuotient (x y : Float) : Operand := .double (if y == 0.0 then 1.0 / 0.0 else x / y)

/-- The integer of 64 bits that a floating-point number is close to. -/
def truncatedInt? (x : Float) : Option Operand := (truncated? x).bind int64?

/-- The quotient of an integer with a sign to the left, toward zero.  A floating-point number to the
right is taken as it is, and the size of the quotient goes to the next smaller whole number. -/
def intQuotient (m : Int) (b : Operand) : Option Operand :=
  match b.whole?, b.float? with
  | some n, _ => if n = 0 then none else int64? (Int.tdiv m n)
  | _, some y =>
    if y == 0.0 then none
    else
      let size := Decimal.floatFloor (Decimal.floatOfInt m).abs y.abs
      truncatedInt? (Decimal.signedFloat ((m < 0) != (y < 0.0)) size)
  | _, _ => none

/-- The rest of an integer with a sign to the left, which has its sign. -/
def intRest (m : Int) (b : Operand) : Option Operand :=
  match b.whole?, b.float? with
  | some n, _ => if n = 0 then none else int64? (Int.tmod m n)
  | _, some y =>
    if y == 0.0 then none
    else
      let size := Decimal.floatRest (Decimal.floatOfInt m).abs y.abs
      truncatedInt? (Decimal.signedFloat (m < 0) size)
  | _, _ => none

/-- The quotient of numbers.  Integers are divided toward zero, and not by zero. -/
def numberQuotient (a b : Operand) : Option Operand :=
  match a.kindOf, b.kindOf with
  | .int, _ => a.whole?.bind fun m => intQuotient m b
  | .bareInt, .int => a.whole?.bind fun m => intQuotient m b
  | .uint, _ | .bareInt, .uint =>
    match a.whole?, b.whole? with
    | some m, some n => if n = 0 then none else uint64? (Int.fdiv m n)
    | _, _ => none
  | .double, .int | .double, .uint => none
  | .double, _ | _, .double =>
    match a.asFloat?, b.asFloat? with
    | some x, some y => some (floatQuotient x y)
    | _, _ => none
  | _, _ =>
    match a.whole?, b.whole? with
    | some m, some n =>
      if n = 0 then none
      else some (.bareDouble (Decimal.signedFloat ((m < 0) != (n < 0))
        (Decimal.floatOfQuotient m.natAbs n.natAbs)))
    | _, _ =>
      match a.asFloat?, b.asFloat? with
      | some x, some y => if y == 0.0 then none else some (.bareDouble (x / y))
      | _, _ => none

/-- The rest of a division of numbers. -/
def numberRest (a b : Operand) : Option Operand :=
  match a.kindOf, b.kindOf with
  | .int, _ => a.whole?.bind fun m => intRest m b
  | .bareInt, .int => a.whole?.bind fun m => intRest m b
  | .uint, _ | .bareInt, .uint =>
    match a.whole?, b.whole? with
    | some m, some n => if n = 0 then none else uint64? (Int.fmod m n)
    | _, _ => none
  | .double, _ | _, .double => none
  | _, _ =>
    match a.whole?, b.whole? with
    | some m, some n => if n = 0 then none else some (.bareInt (Int.fmod m n))
    | _, _ =>
      match a.asFloat?, b.asFloat? with
      | some x, some y =>
        if y == 0.0 then none else some (.bareDouble (Decimal.floatRest x y))
      | _, _ => none

/-! ## Spans -/

/-- A span times a number; floating-point numbers are taken as the quotients that they are. -/
def spanTimes (micros : Int) (b : Operand) : Option Operand :=
  match b.whole?, b.float? with
  | some n, _ => (Span.bare? (micros * n)).map .bareSpan
  | _, some x =>
    (Decimal.Floating.ofBits x.toBits).parts?.bind fun (m, e) =>
      let product :=
        if 0 ≤ e then micros * m * Nat.pow 2 e.toNat
        else nearestQuotient (micros * m) (Nat.pow 2 (-e).toNat)
      (Span.bare? product).map .bareSpan
  | _, _ => none

/-- A span divided by a number. -/
def spanThrough (micros : Int) (b : Operand) : Option Operand :=
  match b.whole?, b.float? with
  | some n, _ =>
    if n = 0 then none else (Span.bare? (nearestQuotient micros n)).map .bareSpan
  | _, some x =>
    (Decimal.Floating.ofBits x.toBits).parts?.bind fun (m, e) =>
      if m = 0 then none
      else
        let quotient :=
          if 0 ≤ e then nearestQuotient micros (m * Nat.pow 2 e.toNat)
          else nearestQuotient (micros * Nat.pow 2 (-e).toNat) m
        (Span.bare? quotient).map .bareSpan
  | _, _ => none

/-- The sum of spans; it is bare if both of them are. -/
def spanSum (a b : Operand) (m n : Int) : Option Operand :=
  if a.kindOf = .bareSpan ∧ b.kindOf = .bareSpan then (Span.bare? (m + n)).map .bareSpan
  else (Span.bounded? (m + n)).map .span

/-! ## Repetition -/

/-- Whether an operand is a number that repeats texts, bytes and lists. -/
def repeats? : Operand → Option Nat
  | .bool n | .bareInt n => some n.toNat
  | _ => none

/-- A text, bytes or a list several times, one behind the other. -/
def repeated (a : Operand) (n : Nat) : Option Operand :=
  match a.chars?, a.octets?, a.items? with
  | some s, _, _ => some (.bareText (String.join (List.replicate n s)))
  | _, some bs, _ => some (.bareBytes (List.replicate n bs).flatten)
  | _, _, some items => some (.bareList (List.replicate n items).flatten)
  | _, _, _ => none

/-! ## Operations -/

/-- The sum of numbers or spans, an instant a span later, or texts, bytes or lists one behind the
other. -/
def add (a b : Operand) : Option Operand :=
  match a, b with
  | .instant i, b => (b.micros?.bind i.later?).map .instant
  | a, .instant i => (a.micros?.bind i.later?).map .instant
  | a, b =>
    match a.micros?, b.micros?, a.octets?, b.octets? with
    | some m, some n, _, _ => spanSum a b m n
    | _, _, some s, some t => some (.bareBytes (s ++ t))
    | _, _, _, _ =>
      match a.chars?, b.chars?, a.items?, b.items? with
      | some s, some t, _, _ => some (.bareText (s ++ t))
      | _, _, some xs, some ys => some (.bareList (xs ++ ys))
      | _, _, _, _ => calculate (· + ·) (· + ·) a b

/-- The difference of numbers, instants or spans. -/
def sub (a b : Operand) : Option Operand :=
  match a, b with
  | .instant i, .instant j => ((i.since? j).bind Span.bounded?).map .span
  | .instant i, b => (b.micros?.bind fun n => i.later? (-n)).map .instant
  | a, b =>
    match a.micros?, b.micros? with
    | some m, some n => (Span.bare? (m - n)).map .bareSpan
    | _, _ => calculate (· - ·) (· - ·) a b

/-- The product of numbers, of a span and a number, or a repetition. -/
def mul (a b : Operand) : Option Operand :=
  match a.micros?, b.micros? with
  | some m, none => spanTimes m b
  | none, some n => if a.kindOf = .int ∨ a.kindOf = .uint then none else spanTimes n a
  | _, _ =>
    match a.repeats?, b.repeats? with
    | _, some n => (repeated a n).or (calculate (· * ·) (· * ·) a b)
    | some n, _ => (repeated b n).or (calculate (· * ·) (· * ·) a b)
    | _, _ => calculate (· * ·) (· * ·) a b

/-- Whether an operand is a zero of double precision that decides what is divided by it, which integers
to its left do not let it. -/
def isGreedyZero (a b : Operand) : Bool :=
  match a.kindOf, b with
  | .int, _ | .uint, _ | .failure, _ => false
  | _, .double y => y == 0.0
  | _, _ => false

/-- The quotient of numbers, of spans, or of a span and a number.  What is divided by a zero of double
precision is infinite, be it a number or not. -/
def div (a b : Operand) : Option Operand :=
  match a.micros?, b.micros? with
  | some m, some n =>
    if n = 0 then none
    else some (.bareDouble (Decimal.signedFloat ((m < 0) != (n < 0))
      (Decimal.floatOfQuotient m.natAbs n.natAbs)))
  | some m, none => spanThrough m b
  | none, some _ => none
  | none, none => if isGreedyZero a b then some (.double (1.0 / 0.0)) else numberQuotient a b

/-- The rest of a division of numbers or spans. -/
def mod (a b : Operand) : Option Operand :=
  match a.micros?, b.micros? with
  | some m, some n => if n = 0 then none else some (.bareSpan (Int.fmod m n))
  | none, none => numberRest a b
  | _, _ => none

/-- The negative of a number or a span. -/
def neg : Operand → Option Operand
  | .int n => int64? (-n)
  | .double x => some (.double (-x))
  | .bareInt n => some (.bareInt (-n))
  | .bareDouble x => some (.bareDouble (-x))
  | .span n | .bareSpan n => (Span.bare? (-n)).map .bareSpan
  | _ => none

end Operand

end Condition

end Remediation
