import Remediation.Decimal.Digits
/-!
# Moments

Calendar dates, times of day, and dates with a time of day and possibly an offset from universal time.
-/

set_option autoImplicit false

namespace Remediation

/-- A day of the calendar. -/
structure Day where
  year : Nat
  month : Nat
  day : Nat
  deriving DecidableEq, Repr, Inhabited

/-- A time of day to the microsecond. -/
structure Clock where
  hour : Nat
  minute : Nat
  second : Nat
  microsecond : Nat
  deriving DecidableEq, Repr, Inhabited

/-- A day, a time of day, or a time on a day; the offset from universal time, in seconds, may be
unknown. -/
inductive Moment where
  | date (day : Day)
  | time (clock : Clock)
  | dateTime (day : Day) (clock : Clock) (offset : Option Int)
  deriving DecidableEq, Repr, Inhabited

/-- Why numbers are no moment. -/
inductive MomentFault where
  | year (given : Nat)
  | month
  | day
  | hour
  | minute
  | second
  /-- An offset of this many seconds is a day or more. -/
  | offset (seconds : Int)
  deriving DecidableEq, Repr, Inhabited

/-- A leap year has a day more. -/
def isLeapYear (year : Nat) : Bool := year % 4 == 0 && (year % 100 != 0 || year % 400 == 0)

/-- The number of days of a month. -/
def daysOfMonth (year month : Nat) : Nat :=
  match month with
  | 2 => if isLeapYear year then 29 else 28
  | 4 | 6 | 9 | 11 => 30
  | _ => 31

namespace Day

/-- A day that exists: the years run from 1 to 9999. -/
def make (year month day : Nat) : Except MomentFault Day :=
  if year < 1 ∨ 9999 < year then .error (.year year)
  else if month < 1 ∨ 12 < month then .error .month
  else if day < 1 ∨ daysOfMonth year month < day then .error .day
  else .ok ⟨year, month, day⟩

end Day

namespace Clock

/-- A time of day that exists. -/
def make (hour minute second microsecond : Nat) : Except MomentFault Clock :=
  if 23 < hour then .error .hour
  else if 59 < minute then .error .minute
  else if 59 < second then .error .second
  else .ok ⟨hour, minute, second, microsecond⟩

end Clock

namespace Moment

open Decimal

/-- The days from the first day on to a day. -/
def dayNumber (d : Day) : Nat :=
  let year := d.year - 1
  let before := (List.range (d.month - 1)).map fun m => daysOfMonth d.year (m + 1)
  year * 365 + year / 4 - year / 100 + year / 400 + before.foldl (· + ·) 0 + d.day

/-- The microseconds of a time of day. -/
def clockNumber (c : Clock) : Nat :=
  ((c.hour * 60 + c.minute) * 60 + c.second) * 1000000 + c.microsecond

/-- A number that grows with the moments of a kind. -/
def number : Moment → Int
  | .date d => dayNumber d
  | .time c => clockNumber c
  | .dateTime d c offset =>
    (dayNumber d * 86400000000 + clockNumber c : Int) - offset.getD 0 * 1000000

/-- A number of at least `width` digits. -/
def padded (width n : Nat) : String :=
  let digits := natDigits n
  String.ofList (List.replicate (width - digits.length) '0' ++ digits)

/-- A day as year, month and day. -/
def dayText (d : Day) : String := s!"{padded 4 d.year}-{padded 2 d.month}-{padded 2 d.day}"

/-- A time of day; the fraction of a second is left out where there is none. -/
def clockText (c : Clock) : String :=
  let whole := s!"{padded 2 c.hour}:{padded 2 c.minute}:{padded 2 c.second}"
  if c.microsecond = 0 then whole else s!"{whole}.{padded 6 c.microsecond}"

/-- An offset as hours and minutes, with seconds where there are some. -/
def offsetText (seconds : Int) : String :=
  let n := seconds.natAbs
  let sign := if seconds < 0 then "-" else "+"
  let base := s!"{sign}{padded 2 (n / 3600)}:{padded 2 (n / 60 % 60)}"
  if n % 60 = 0 then base else s!"{base}:{padded 2 (n % 60)}"

/-- A moment as it is shown: day and time are parted by `gap`, and `universal` is written for an
offset of zero. -/
def textWith (gap universal : String) : Moment → String
  | .date d => dayText d
  | .time c => clockText c
  | .dateTime d c none => s!"{dayText d}{gap}{clockText c}"
  | .dateTime d c (some offset) =>
    s!"{dayText d}{gap}{clockText c}{if offset = 0 then universal else offsetText offset}"

/-- A moment in messages. -/
def text (m : Moment) : String := m.textWith " " "+00:00"

/-- A moment in documents. -/
def documentText (m : Moment) : String := m.textWith "T" "Z"

/-- A duration in seconds as a constructor call: whole days apart from the rest, which is not
negative. -/
def durationText (seconds : Int) : String :=
  let days := Int.fdiv seconds 86400
  let rest := Int.fmod seconds 86400
  let parts :=
    if days = 0 then s!"seconds={rest}"
    else if rest = 0 then s!"days={days}" else s!"days={days}, seconds={rest}"
  s!"datetime.timedelta({parts})"

/-- The numbers of a time of day; those at the end that are zero are left out. -/
def clockArguments (c : Clock) : String :=
  let late :=
    if c.microsecond ≠ 0 then s!", {c.second}, {c.microsecond}"
    else if c.second ≠ 0 then s!", {c.second}" else ""
  s!"{c.hour}, {c.minute}{late}"

/-- A moment as a constructor call, as it is shown inside of lists and maps. -/
def constructorText : Moment → String
  | .date d => s!"datetime.date({d.year}, {d.month}, {d.day})"
  | .time c => s!"datetime.time({clockArguments c})"
  | .dateTime d c offset =>
    let zone :=
      match offset with
      | none => ""
      | some 0 => ", tzinfo=datetime.timezone.utc"
      | some seconds => s!", tzinfo=datetime.timezone({durationText seconds})"
    s!"datetime.datetime({d.year}, {d.month}, {d.day}, {clockArguments c}{zone})"

end Moment

end Remediation
