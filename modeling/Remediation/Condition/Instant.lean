import Remediation.Value.Order
/-!
# Instants

An instant is a time on a day of the calendar together with the offset of its clock from universal
time.  The calendar ends with the year 9999; whatever moves an instant out of it has no result.
Offsets of a day or more can be read, but such an instant is compared only with instants of the same
offset.
-/

set_option autoImplicit false

namespace Remediation

namespace Condition

/-- A time on a day. -/
structure Instant where
  /-- The microseconds from the day before the first one on, by the clock of the instant. -/
  here : Int
  /-- How many seconds the clock is ahead of universal time. -/
  offset : Int
  deriving DecidableEq, Repr, Inhabited

/-- The microseconds of a second. -/
def microsOfSecond : Int := 1000000

/-- The microseconds of a day. -/
def microsOfDay : Int := 86400 * microsOfSecond

/-- Whether a number of microseconds is one of a day of the calendar. -/
def inCalendar (micros : Int) : Bool := microsOfDay ≤ micros && micros < microsOfDay * 3652060

/-- The day of a number of days. -/
def dayOfNumber (n : Nat) : Day :=
  let rest := n - 1
  let year (least : Nat) : Nat := if Moment.dayNumber ⟨least + 1, 1, 1⟩ ≤ n then least + 1 else least
  let y := year (year (max 1 (rest * 400 / 146097)))
  let inYear := n - Moment.dayNumber ⟨y, 1, 1⟩
  let months := (List.range 12).filter fun m => Moment.dayNumber ⟨y, m + 1, 1⟩ ≤ n
  let m := months.length
  ⟨y, m, inYear + 1 - (Moment.dayNumber ⟨y, m, 1⟩ - Moment.dayNumber ⟨y, 1, 1⟩)⟩

namespace Instant

/-- The microseconds of an instant by universal time. -/
def universal (i : Instant) : Int := i.here - i.offset * microsOfSecond

/-- Whether the clock of an instant is a day or more ahead or behind. -/
def isWide (i : Instant) : Bool := 86400 ≤ i.offset.natAbs

/-- The instant of a day and a time of day. -/
def make (d : Day) (c : Clock) (offset : Int) : Instant :=
  ⟨(Moment.dateTime d c none).number, offset⟩

/-- How two instants stand to each other; clocks of one offset are compared as they are. -/
def compare? (i j : Instant) : Option Ordering :=
  if i.offset = j.offset then some (compare i.here j.here)
  else if i.isWide || j.isWide then none
  else some (compare i.universal j.universal)

/-- The microseconds between two instants. -/
def since? (i j : Instant) : Option Int :=
  if i.offset = j.offset then some (i.here - j.here)
  else if i.isWide || j.isWide then none
  else some (i.universal - j.universal)

/-- An instant a span later. -/
def later? (i : Instant) (span : Int) : Option Instant :=
  if inCalendar (i.here + span) then some { i with here := i.here + span } else none

/-- An instant a day later. -/
def nextDay? (i : Instant) : Option Instant := i.later? microsOfDay

/-- The day of microseconds. -/
def dayAt (micros : Int) : Day := dayOfNumber (micros / microsOfDay).toNat

/-- The time of day of microseconds. -/
def clockAt (micros : Int) : Clock :=
  let rest := (micros % microsOfDay).toNat
  let seconds := rest / 1000000
  ⟨seconds / 3600, seconds / 60 % 60, seconds % 60, rest % 1000000⟩

/-- An instant as a text, without fractions of seconds; a year has as many digits as it needs. -/
def text (i : Instant) : String :=
  let d := dayAt i.here
  let day := s!"{Decimal.intText d.year}-{Moment.padded 2 d.month}-{Moment.padded 2 d.day}"
  let clock := Moment.clockText { clockAt i.here with microsecond := 0 }
  let zone := if i.offset = 0 then "Z" else Moment.offsetText i.offset
  s!"{day}T{clock}{zone}"

/-- The number that a name asks for, by a clock that shows so many microseconds.  Months, and days
within a month or a year, are counted from zero, but a date from one. -/
def number? (name : String) (micros : Int) : Option Int :=
  let d := dayAt micros
  let c := clockAt micros
  match name with
  | "getFullYear" => some d.year
  | "getMonth" => some (d.month - 1 : Nat)
  | "getDate" => some d.day
  | "getDayOfMonth" => some (d.day - 1 : Nat)
  | "getDayOfWeek" => some (micros / microsOfDay % 7)
  | "getDayOfYear" =>
    some (Moment.dayNumber d - Moment.dayNumber ⟨d.year, 1, 1⟩ : Nat)
  | "getHours" => some c.hour
  | "getMinutes" => some c.minute
  | "getSeconds" => some c.second
  | "getMilliseconds" => some (c.microsecond / 1000 : Nat)
  | _ => none

end Instant

end Condition

end Remediation
