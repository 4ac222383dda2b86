import Remediation.Condition.Operand
import Remediation.Condition.Span
import Remediation.Condition.Zone.Spelling
import Remediation.Decimal.Reading
import Remediation.Text.Case
/-!
# Zones

A zone says how far its clocks are ahead of universal time.  Instants and spans are asked for their
numbers, instants by the clock of a zone.
-/

set_option autoImplicit false

namespace Remediation

namespace Condition

/-- When clocks are put forward or back in a year. -/
structure Turn where
  month : Nat
  /-- The week of the month; the fifth one is the last. -/
  week : Nat
  /-- The day of the week, counted from Sunday. -/
  weekday : Nat
  /-- The seconds from the start of the day by the clock before. -/
  seconds : Int
  deriving DecidableEq, Repr, Inhabited

/-- How clocks go from some time on. -/
inductive ClockRule where
  | fixed (offset : Int)
  /-- Standard time, and summer time between two turns. -/
  | yearly (standard summer : Int) (starts ends : Turn)
  deriving DecidableEq, Repr, Inhabited

/-- How far clocks are ahead of universal time, in seconds. -/
structure Zone where
  /-- The offset before all changes. -/
  first : Int
  /-- The seconds since the start of 1970 of changes, with the new offsets, in order. -/
  changes : List (Int × Int)
  /-- What holds behind the last change. -/
  rule : ClockRule
  deriving DecidableEq, Repr, Inhabited

/-- The seconds from the day before the first one to the start of a day. -/
def secondsOfDay (d : Day) : Int := Moment.dayNumber d * 86400

/-- The seconds before 1970. -/
def secondsTo1970 : Int := secondsOfDay ⟨1970, 1, 1⟩

namespace Turn

/-- The day of a turn in a year. -/
def day (t : Turn) (year : Nat) : Day :=
  let before := Moment.dayNumber ⟨year, t.month, 1⟩ % 7
  let first := (t.weekday + 7 - before) % 7 + 1
  let d := first + 7 * (t.week - 1)
  ⟨year, t.month, if daysOfMonth year t.month < d then d - 7 else d⟩

/-- The seconds since 1970 of a turn in a year, for clocks of an offset. -/
def seconds1970 (t : Turn) (year : Nat) (offset : Int) : Int :=
  secondsOfDay (t.day year) - secondsTo1970 + t.seconds - offset

end Turn

/-- The offset of a rule at some seconds since 1970, which are in a year of universal time. -/
def ClockRule.offsetAt (r : ClockRule) (year : Nat) (seconds : Int) : Int :=
  match r with
  | .fixed offset => offset
  | .yearly standard summer starts ends =>
    let start := starts.seconds1970 year standard
    let stop := ends.seconds1970 year summer
    let isSummer :=
      if start < stop then start ≤ seconds ∧ seconds < stop
      else ¬(stop ≤ seconds ∧ seconds < start)
    if isSummer then summer else standard

namespace Zone

/-- The zone of an offset. -/
def fixed (seconds : Int) : Zone := ⟨seconds, [], .fixed seconds⟩

/-- The zone of universal time. -/
def universal : Zone := fixed 0

/-- The offset of a zone at some microseconds of universal time. -/
def offsetAt (z : Zone) (micros : Int) : Int :=
  let seconds := Int.fdiv micros microsOfSecond - secondsTo1970
  let year := (Instant.dayAt micros).year
  match z.changes.getLast? with
  | none => z.rule.offsetAt year seconds
  | some (last, _) =>
    if last < seconds then z.rule.offsetAt year seconds
    else
      ((z.changes.takeWhile fun (change, _) => change ≤ seconds).getLast?.map (·.2)).getD z.first

theorem offsetAt_fixed (seconds micros : Int) : (fixed seconds).offsetAt micros = seconds := rfl

/-! ## Zones by name -/

/-- The numbers of a text. -/
def numbers (s : String) : List Int :=
  (Text.split ' ' s).map fun word => (word.toInt?).getD 0

/-- The changes that words spell behind a time. -/
def readChanges (offsets : List Int) (before : Int) : List String → List (Int × Int)
  | [] => []
  | word :: words =>
    let mark := (word.toList.getLast?.map fun c => c.toNat - 'a'.toNat).getD 0
    let unit : Int := if mark < 8 then 3600 else if mark < 16 then 60 else 1
    let count := ((String.ofList word.toList.dropLast).toInt?).getD 0
    let change := before + count * unit
    (change, offsets.getD (mark % 8) 0) :: readChanges offsets change words

/-- The turn of numbers. -/
def readTurn (ns : List Int) : Turn :=
  ⟨(ns.getD 0 0).toNat, (ns.getD 1 0).toNat, (ns.getD 2 0).toNat, ns.getD 3 0⟩

/-- The rule of numbers. -/
def readRule (ns : List Int) : ClockRule :=
  match ns with
  | standard :: summer :: turns => .yearly standard summer (readTurn turns) (readTurn (turns.drop 4))
  | _ => .fixed (ns.getD 0 0)

/-- The zone of a spelling. -/
def ofSpelling (s : ZoneSpelling) : Zone :=
  let offsets := numbers s.offsets
  ⟨offsets.getD 0 0, readChanges offsets 0 (s.changes.flatMap (Text.split ' ')),
    readRule (numbers s.rule)⟩

/-- The zone of a name. -/
def ofName? (name : String) : Option Zone :=
  if name.toList.map Text.lowerChar = "utc".toList then some universal
  else
    (zoneSpellings.find? fun s => s.names.any fun names => (Text.split ' ' names).contains name).map
      ofSpelling

/-- The zone of hours and minutes, the hours of one or two digits; a line end may stand behind them.
It is less than a day ahead or behind. -/
def ofOffset? (cs : List Char) : Option Zone :=
  let cs := cs.map Decimal.asciiDigit
  let cs := if cs.getLast? = some '\n' then cs.dropLast else cs
  let (negative, body) := Decimal.readSign cs
  let hours := body.takeWhile Char.isDigit
  match body.drop hours.length with
  | [':', a, b] =>
    let minutes := Decimal.natOfDigits hours * 60 + Decimal.natOfDigits [a, b]
    if 1 ≤ hours.length ∧ hours.length ≤ 2 ∧ a.isDigit ∧ b.isDigit ∧ minutes < 1440 then
      some (fixed (Decimal.Floating.signed negative (minutes * 60)))
    else none
  | _ => none

/-- The zone that an operand names: nothing at all is universal time, and a number is one of seconds. -/
def of? (a : Operand) : Option Zone :=
  if !a.isSomething then some universal
  else
    match a.whole?, a.chars? with
    | some n, _ => some (fixed n)
    | _, some s => (ofName? s).or (ofOffset? s.toList)
    | _, _ => none

end Zone

/-- The microseconds that the clock of a zone shows at an instant. -/
def Instant.seenFrom (i : Instant) (z : Zone) : Except Stop (Option Int) :=
  if i.isWide then .ok none
  else if !inCalendar i.universal then .error .dateRange
  else
    let there := i.universal + z.offsetAt i.universal * microsOfSecond
    if inCalendar there then .ok (some there) else .error .dateRange

/-- The names of the numbers of an instant. -/
def timeFunctions : List String :=
  ["getDate", "getDayOfMonth", "getDayOfWeek", "getDayOfYear", "getFullYear", "getHours",
    "getMilliseconds", "getMinutes", "getMonth", "getSeconds"]

/-- The number that a name asks an instant for, from a zone, or a span, from nowhere.  Asked of a type
of time, it is the number of the operand behind it. -/
def timeNumber (name : String) (a zone : Operand) : Except Stop (Option Operand) :=
  match a, zone with
  | .kind .instant, .instant i =>
    (i.seenFrom .universal).map fun micros => (micros.bind (Instant.number? name)).map .int
  | .kind .span, .span n => .ok ((Span.number? n name).map .int)
  | a, zone =>
  match a with
  | .instant i =>
    match Zone.of? zone with
    | none => .ok none
    | some z =>
      (i.seenFrom z).map fun micros =>
        (micros.bind (Instant.number? name)).map .int
  | .span n =>
    match Span.number? n name with
    | some m => if zone.kindOf = .null then .ok (some (.int m)) else .error .zonedSpan
    | none => .ok none
  | _ => .ok none

end Condition

end Remediation
