import Remediation.Condition.Instant
import Remediation.Decimal.Reading
/-!
# Spans of time

A span is a number of microseconds.  It is read from numbers with units, which are added up as
floating-point seconds, and it is asked for its seconds as a floating-point number.
-/

set_option autoImplicit false

namespace Remediation

namespace Condition

/-- The whole number next to a floating-point number on the way to zero. -/
def truncated? (x : Float) : Option Int :=
  if x.isNaN then none
  else if x < 0.0 then Scalar.wholeOfFloat? x.ceil else Scalar.wholeOfFloat? x.floor

/-- The whole number nearest to a quotient; of two equally near ones the even one is taken. -/
def nearestQuotient (m n : Int) : Int :=
  let m := if n < 0 then -m else m
  let n := n.natAbs
  let q := Int.fdiv m n
  let twice := 2 * (m - q * n)
  if twice < n then q else if n < twice then q + 1 else if q % 2 = 0 then q else q + 1

namespace Span

/-- The greatest number of seconds of a span. -/
def limit : Int := 315576000000

/-- A span, if it is not longer than spans may be. -/
def bounded? (micros : Int) : Option Int :=
  if micros.natAbs ≤ (limit * microsOfSecond).natAbs then some micros else none

/-- Microseconds between the bounds of those that are not asked to be spans. -/
def bare? (micros : Int) : Option Int :=
  if -999999999 * microsOfDay ≤ micros ∧ micros < 1000000000 * microsOfDay then some micros
  else none

/-- The seconds of microseconds. -/
def seconds (micros : Int) : Float :=
  Decimal.signedFloat (micros < 0) (Decimal.floatOfQuotient micros.natAbs 1000000)

/-- The microseconds nearest to some seconds, whose whole part is taken apart from the rest. -/
def microsOfSeconds (x : Float) : Int :=
  let whole := (truncated? x).getD 0
  let fraction := (x - Decimal.floatOfInt whole) * 1e6
  let wholeMicros := (truncated? fraction).getD 0
  let rest := fraction - Decimal.floatOfInt wholeMicros
  let micros := whole * microsOfSecond + wholeMicros
  let step : Int := if rest < 0.0 then -1 else 1
  if rest.abs < 0.5 then micros
  else if 0.5 < rest.abs then micros + step
  else if micros % 2 = 0 then micros else micros + step

/-- The seconds of a unit. -/
def unit? : String → Option Float
  | "ns" => some 1e-9
  | "us" => some 1e-6
  | "ms" => some 1e-3
  | "s" => some 1.0
  | "m" => some 60.0
  | "h" => some 3600.0
  | "d" => some 86400.0
  | _ => none

/-- A number with a unit at the front: its seconds, and the rest. -/
def part? (cs : List Char) : Option (Float × List Char) :=
  let whole := cs.takeWhile Char.isDigit
  let rest := cs.drop whole.length
  let behind := if rest.head? = some '.' then (rest.drop 1).takeWhile Char.isDigit else []
  let rest := if rest.head? = some '.' then rest.drop (behind.length + 1) else rest
  let name := rest.takeWhile Char.isLower
  if whole.isEmpty && behind.isEmpty then none
  else
    (unit? (String.ofList name)).map fun unit =>
      let number :=
        Decimal.floatOfDecimal false (Decimal.natOfDigits (whole ++ behind)) (-(behind.length : Int))
      (number * unit, rest.drop name.length)

/-- The seconds of numbers with units, one behind the other; the fuel bounds how many there are. -/
def parts? : Nat → List Char → Option (List Float)
  | _, [] => some []
  | 0, _ => none
  | fuel + 1, cs =>
    match part? cs with
    | some (x, rest) => (parts? fuel rest).map (x :: ·)
    | none => none

/-- The microseconds that a text spells.  A line end may stand behind them. -/
def read? (s : String) : Option Int :=
  let cs := s.toList
  let cs := if cs.getLast? = some '\n' then cs.dropLast else cs
  let negative := cs.head? = some '-'
  let body := if negative ∨ cs.head? = some '+' then cs.drop 1 else cs
  if body.isEmpty then none
  else
    (parts? body.length body).bind fun xs =>
      let x := Decimal.signedFloat negative (Decimal.floatSum xs)
      if x.abs ≤ Decimal.floatOfInt limit then some (microsOfSeconds x) else none

/-- A span as a text, in whole seconds. -/
def text (micros : Int) : String := Decimal.intText ((truncated? (seconds micros)).getD 0) ++ "s"

/-- The days, seconds and microseconds of microseconds; only the days may be negative. -/
def split (micros : Int) : Int × Nat × Nat :=
  let rest := (Int.fmod micros microsOfDay).toNat
  (Int.fdiv micros microsOfDay, rest / 1000000, rest % 1000000)

/-- Microseconds as days and a time of day. -/
def dayText (micros : Int) : String :=
  let (days, seconds, rest) := split micros
  let plural := if days = 1 ∨ days = -1 then "" else "s"
  let ahead := if days = 0 then "" else s!"{Decimal.intText days} day{plural}, "
  let behind := if rest = 0 then "" else s!".{Moment.padded 6 rest}"
  s!"{ahead}{Decimal.intText (seconds / 3600)}:{Moment.padded 2 (seconds / 60 % 60)}:{Moment.padded 2 (seconds % 60)}{behind}"

/-- Microseconds as a constructor call, as they are shown inside of lists and maps. -/
def constructorText (micros : Int) : String :=
  let (days, seconds, rest) := split micros
  let part (name : String) (n : Int) : List String :=
    if n = 0 then [] else [s!"{name}={Decimal.intText n}"]
  let parts := part "days" days ++ part "seconds" seconds ++ part "microseconds" rest
  let body := if parts.isEmpty then "0" else Text.join ", " parts
  s!"datetime.timedelta({body})"

/-- The number of a span that a name asks for. -/
def number? (micros : Int) : String → Option Int
  | "getHours" => truncated? (seconds micros / 60.0 / 60.0)
  | "getMinutes" => truncated? (seconds micros / 60.0)
  | "getSeconds" => truncated? (seconds micros)
  | "getMilliseconds" => truncated? (seconds micros * 1000.0)
  | _ => none

end Span

end Condition

end Remediation
