import Remediation.Condition.Instant
import Remediation.Condition.Stop
import Remediation.Decimal.Reading
/-!
# Reading instants

An instant is spelled as a day, which may be followed by a time of day and the offset of the clock.
There are two spellings.  The standard one counts days by months, weeks or from the start of the
year, with hyphens and colons everywhere or nowhere.  The plain one has slashes or colons between
year, month and day, and no offset.  A text that fits neither is no instant, and neither is an
interval between two days.
-/

set_option autoImplicit false

namespace Remediation

namespace Condition

namespace Instant

/-- The first characters of a text as a number, if all of them are digits. -/
def leadingNumber? (width : Nat) (cs : List Char) : Option (Nat × List Char) :=
  let digits := cs.take width
  if digits.length = width ∧ digits.all Char.isDigit then
    some (Decimal.natOfDigits digits, cs.drop width)
  else none

/-! ## Days -/

/-- The day of a number within a year. -/
def dayOfYear? (year n : Nat) : Option Day :=
  if 1 ≤ year ∧ year ≤ 9999 ∧ 1 ≤ n ∧ n ≤ (if isLeapYear year then 366 else 365) then
    some (dayOfNumber (Moment.dayNumber ⟨year, 1, 1⟩ + n - 1))
  else none

/-- The number of the Monday of a year's first week, which is the one with the fourth of January;
days are numbered so that Mondays are those whose number leaves one when divided by seven. -/
def firstMonday (year : Nat) : Nat :=
  let fourth := Moment.dayNumber ⟨year, 1, 4⟩
  fourth - (fourth + 6) % 7

/-- The number of weeks of a year. -/
def weeksOfYear (year : Nat) : Nat := (firstMonday (year + 1) - firstMonday year) / 7

/-- The day of a week of a year. -/
def dayOfWeek? (year week day : Nat) : Option Day :=
  if 1 ≤ year ∧ year ≤ 9999 ∧ 1 ≤ week ∧ week ≤ weeksOfYear year ∧ 1 ≤ day ∧ day ≤ 7 then
    let n := firstMonday year + (week - 1) * 7 + day - 1
    if 1 ≤ n ∧ n ≤ 3652059 then some (dayOfNumber n) else none
  else none

/-- Whether a day may end in front of a text. -/
def endsDay : List Char → Bool
  | [] => true
  | c :: _ => c = 'T' || c = ' '

/-- A day of a week behind the letter of weeks. -/
def readWeek? (year : Nat) (hyphens : Bool) (cs : List Char) : Option (Day × List Char) := do
  let (week, cs) ← leadingNumber? 2 cs
  if endsDay cs then return (← dayOfWeek? year week 1, cs)
  else
    let cs ← if hyphens then (if cs.head? = some '-' then some (cs.drop 1) else none) else some cs
    let (day, cs) ← leadingNumber? 1 cs
    return (← dayOfWeek? year week day, cs)

/-- A day behind its year and a hyphen. -/
def readHyphenDay? (year : Nat) (cs : List Char) : Option (Day × List Char) :=
  match cs with
  | 'W' :: cs => readWeek? year true cs
  | cs => do
    let (month, cs) ← leadingNumber? 2 cs
    if endsDay cs then return (← (Day.make year month 1).toOption, cs)
    else
      match cs with
      | '-' :: cs =>
        let (day, cs) ← leadingNumber? 2 cs
        return (← (Day.make year month day).toOption, cs)
      | cs =>
        let (digit, cs) ← leadingNumber? 1 cs
        return (← dayOfYear? year (month * 10 + digit), cs)

/-- A day behind its year and no hyphen. -/
def readCompactDay? (year : Nat) (cs : List Char) : Option (Day × List Char) :=
  match cs with
  | 'W' :: cs => readWeek? year false cs
  | cs => do
    let (month, cs) ← leadingNumber? 2 cs
    let (digit, cs) ← leadingNumber? 1 cs
    if endsDay cs then return (← dayOfYear? year (month * 10 + digit), cs)
    else
      let (more, cs) ← leadingNumber? 1 cs
      return (← (Day.make year month (digit * 10 + more)).toOption, cs)

/-- A day at the front, with whether it has hyphens. -/
def readDay? (cs : List Char) : Option (Day × Bool × List Char) := do
  let (year, cs) ← leadingNumber? 4 cs
  match cs with
  | '-' :: cs => (readHyphenDay? year cs).map fun (d, rest) => (d, true, rest)
  | cs => (readCompactDay? year cs).map fun (d, rest) => (d, false, rest)

/-! ## Times of day -/

/-- The microseconds of a fraction of a second, of which the first six digits count. -/
def readFraction? : List Char → Option (Nat × List Char)
  | '.' :: cs | ',' :: cs =>
    let digits := cs.takeWhile Char.isDigit
    if digits.isEmpty then none
    else
      let micros := (digits ++ List.replicate 6 '0').take 6
      some (Decimal.natOfDigits micros, cs.drop digits.length)
  | cs => some (0, cs)

/-- Whether a time of day may end in front of a text. -/
def endsClock : List Char → Bool
  | [] => true
  | c :: _ => c = 'Z' || c = '+' || c = '-'

/-- The numbers of a time of day, which need not exist. -/
structure ClockNumbers where
  hour : Nat
  minute : Nat
  second : Nat
  micros : Nat
  deriving DecidableEq, Repr, Inhabited

/-- The minutes and seconds behind an hour, with a colon before each of them or none. -/
def readMinutes? (hour : Nat) (colons : Bool) (cs : List Char) :
    Option (ClockNumbers × List Char) := do
  let (minute, cs) ← leadingNumber? 2 cs
  if endsClock cs then return (⟨hour, minute, 0, 0⟩, cs)
  else
    let cs ← if colons then (if cs.head? = some ':' then some (cs.drop 1) else none) else some cs
    let (second, cs) ← leadingNumber? 2 cs
    let (micros, cs) ← readFraction? cs
    return (⟨hour, minute, second, micros⟩, cs)

/-- A time of day at the front.  It has colons if the day has hyphens, and none otherwise; behind no
day it has colons. -/
def readClock? (hyphens : Option Bool) (cs : List Char) : Option (ClockNumbers × List Char) := do
  let (hour, cs) ← leadingNumber? 2 cs
  if endsClock cs then return (⟨hour, 0, 0, 0⟩, cs)
  else
    match cs with
    | ':' :: cs => if hyphens = some false then none else readMinutes? hour true cs
    | cs => if hyphens = some false then readMinutes? hour false cs else none

/-- The hours and minutes of an offset as seconds. -/
def offsetOfDigits? (cs : List Char) : Option Int :=
  match leadingNumber? 2 cs with
  | none => none
  | some (hours, []) | some (hours, [':']) => some (hours * 3600)
  | some (hours, rest) =>
    match leadingNumber? 2 (if rest.head? = some ':' then rest.drop 1 else rest) with
    | some (minutes, []) => some (hours * 3600 + minutes * 60)
    | _ => none

/-- The offset that a text is; none at all is that of universal time. -/
def offset? : List Char → Option Int
  | [] | ['Z'] => some 0
  | '+' :: cs => offsetOfDigits? cs
  | '-' :: cs => (offsetOfDigits? cs).map fun n => -n
  | _ => none

/-- The instant of a day and the numbers of a time of day.  Twenty-four hours sharp are the start of
the next day. -/
def ofNumbers? (d : Day) (n : ClockNumbers) (offset : Int) : Option Instant :=
  if n = ⟨24, 0, 0, 0⟩ then (make d ⟨0, 0, 0, 0⟩ offset).nextDay?
  else
    (Clock.make n.hour n.minute n.second n.micros).toOption.map fun c => make d c offset

/-- The day that a time of day without a day is taken to be on. -/
def anyDay : Day := ⟨1970, 1, 1⟩

/-- The instant that a text spells in the standard way. -/
def readStandard? (cs : List Char) : Option Instant :=
  if cs.drop 2 |>.head? |>.any (· = ':') then do
    let (n, cs) ← readClock? none cs
    ofNumbers? anyDay n (← offset? cs)
  else do
    let (d, hyphens, cs) ← readDay? cs
    match cs with
    | [] => return make d ⟨0, 0, 0, 0⟩ 0
    | gap :: cs =>
      if gap = 'T' ∨ gap = ' ' then
        let (n, cs) ← readClock? (some hyphens) cs
        ofNumbers? d n (← offset? cs)
      else none

/-! ## The plain spelling -/

/-- One or two digits at the front. -/
def oneOrTwo? (cs : List Char) : Option (Nat × List Char) :=
  (leadingNumber? 2 cs).or (leadingNumber? 1 cs)

/-- A slash or a colon at the front may be left out. -/
def skipMark : List Char → List Char
  | '/' :: cs | ':' :: cs => cs
  | cs => cs

/-- A month and a day behind a year. -/
def readPlainMonth? (cs : List Char) : Option (Nat × Nat × List Char) := do
  let (month, cs) ← leadingNumber? 2 (skipMark cs)
  let (day, cs) ← leadingNumber? 2 (skipMark cs)
  return (month, day, cs)

/-- Seconds behind a colon, if there are some. -/
def readPlainSecond (cs : List Char) : Nat × List Char :=
  match cs with
  | ':' :: rest => (oneOrTwo? rest).getD (0, cs)
  | cs => (0, cs)

/-- The microseconds of a fraction of at most nine digits, if there is one. -/
def readPlainFraction (cs : List Char) : Nat × List Char :=
  match cs with
  | mark :: rest =>
    let digits := (rest.takeWhile Char.isDigit).take 9
    if (mark = '.' ∨ mark = '|' ∨ mark = ',') ∧ !digits.isEmpty then
      (Decimal.natOfDigits ((digits ++ List.replicate 6 '0').take 6), rest.drop digits.length)
    else (0, cs)
  | [] => (0, cs)

/-- A time of day that is all of a text; a blank may stand before it. -/
def readPlainClock? (cs : List Char) : Option ClockNumbers := do
  let cs := if cs.head? = some ' ' then cs.drop 1 else cs
  let (hour, cs) ← oneOrTwo? cs
  let cs ← if cs.head? = some ':' then some (cs.drop 1) else none
  let (minute, cs) ← oneOrTwo? cs
  let (second, cs) := readPlainSecond cs
  let (micros, cs) := readPlainFraction cs
  if cs.isEmpty then return ⟨hour, minute, second, micros⟩ else none

/-- The numbers of a day and of a time of day that a text spells in the plain way: a year, with or
without month and day, and a time of day, or only one of both. -/
def readPlainNumbers? (cs : List Char) : Option (Option (Nat × Nat × Nat) × Option ClockNumbers) :=
  let behind (rest : List Char) : Option (Option ClockNumbers) :=
    if rest.isEmpty then some none else (readPlainClock? rest).map some
  let full := do
    let (year, rest) ← leadingNumber? 4 cs
    let (month, day, rest) ← readPlainMonth? rest
    return (some (year, month, day), ← behind rest)
  let short := do
    let (year, rest) ← leadingNumber? 4 cs
    return (some (year, 1, 1), ← behind rest)
  (full.or short).or ((readPlainClock? cs).map fun n => (none, some n))

/-- The instant that a text spells in the plain way; a line end may stand behind it. -/
def readPlain? (cs : List Char) : Option Instant := do
  let cs := cs.map Decimal.asciiDigit
  let cs := if cs.getLast? = some '\n' then cs.dropLast else cs
  let (numbers, n) ← readPlainNumbers? cs
  let (year, month, day) := numbers.getD (anyDay.year, anyDay.month, anyDay.day)
  let d ← (Day.make year month day).toOption
  let n := n.getD ⟨0, 0, 0, 0⟩
  let c ← (Clock.make n.hour n.minute n.second n.micros).toOption
  return make d c 0

/-! ## Texts -/

/-- Whether a text would be an interval of which one side is empty. -/
def hasEmptySide (cs : List Char) : Bool :=
  match Text.splitChars '/' cs with
  | [first, last] => first.isEmpty || (first.head? != some 'P' && last.isEmpty)
  | _ => false

/-- The instant that a text spells. -/
def read? (s : String) : Except Stop (Option Instant) :=
  let cs := s.toList
  match readStandard? cs with
  | some i => .ok (some i)
  | none => if hasEmptySide cs then .error .emptySide else .ok (readPlain? cs)

end Instant

end Condition

end Remediation
