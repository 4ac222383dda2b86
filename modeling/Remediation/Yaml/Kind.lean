import Remediation.Decimal.Reading
import Remediation.Json.Reader
import Remediation.Value.Moment
/-!
# Kinds of YAML nodes

What a node is follows from its tag.  A plain scalar without a tag is what it looks like: its form
decides between the kinds of scalars, and what looks like none of the others is a text.
-/

set_option autoImplicit false

namespace Remediation.Yaml

/-- What a node is. -/
inductive Kind where
  | null
  | bool
  | int
  | float
  | text
  | moment
  | bytes
  | list
  | map
  | set
  /-- A list of single entries. -/
  | entries
  /-- As a key, the map whose entries are taken over. -/
  | merge
  /-- As a key, what a map stands for where a scalar is wanted. -/
  | default
  /-- A tag that says nothing. -/
  | unknown
  deriving DecidableEq, Repr, Inhabited

namespace Kind

/-- What the tags of the language begin with. -/
def tagStart : String := "tag:yaml.org,2002:"

/-- The kinds by the ends of their tags. -/
def byName : List (String × Kind) :=
  [("null", .null), ("bool", .bool), ("int", .int), ("float", .float), ("str", .text),
   ("timestamp", .moment), ("binary", .bytes), ("seq", .list), ("map", .map), ("set", .set),
   ("omap", .entries), ("pairs", .entries), ("merge", .merge), ("value", .default)]

/-- The kind that a tag names. -/
def ofTag (tag : String) : Kind :=
  (byName.findSome? fun (name, kind) =>
    if tagStart ++ name = tag then some kind else none).getD .unknown

/-! ## Forms of plain scalars -/

/-- The words for truth values. -/
def truthWords : List String :=
  ["yes", "Yes", "YES", "no", "No", "NO", "true", "True", "TRUE", "false", "False", "FALSE",
   "on", "On", "ON", "off", "Off", "OFF"]

/-- The words for nothing. -/
def nullWords : List String := ["", "~", "null", "Null", "NULL"]

/-- A digit or an underscore. -/
def isDigitOrGap (c : Char) : Bool := c.isDigit || c == '_'

/-- Digits of base sixty behind colons, at least one. -/
def isSixties : Nat → List Char → Bool
  | 0, _ => false
  | fuel + 1, cs =>
    match cs with
    | ':' :: a :: b :: rest =>
      if b.isDigit then
        '0' ≤ a && a ≤ '5' && (rest.isEmpty || isSixties fuel rest)
      else a.isDigit && isSixties fuel (b :: rest)
    | [':', a] => a.isDigit
    | _ => false

/-- Whether there is something, and all of it belongs to a class. -/
def allOf (p : Char → Bool) (cs : List Char) : Bool := !cs.isEmpty && cs.all p

/-- The form of an integer: in base two, eight, ten, sixteen or sixty. -/
def isInt (cs : List Char) : Bool :=
  let (_, body) := Decimal.readSign cs
  match body with
  | ['0'] => true
  | '0' :: 'b' :: digits => allOf (fun c => c == '0' || c == '1' || c == '_') digits
  | '0' :: 'x' :: digits => allOf (fun c => (Json.hexValue? c).isSome || c == '_') digits
  | '0' :: digits => allOf (fun c => ('0' ≤ c && c ≤ '7') || c == '_') digits
  | c :: rest =>
    c.isDigit &&
      let behind := rest.dropWhile isDigitOrGap
      behind.isEmpty || isSixties behind.length behind
  | [] => false

/-- The form of an exponent, or nothing: the sign has to be there. -/
def isExponent (cs : List Char) : Bool :=
  match cs with
  | [] => true
  | e :: s :: digits => (e == 'e' || e == 'E') && (s == '+' || s == '-') && allOf Char.isDigit digits
  | _ => false

/-- Cut before the last point, if there is nothing but digits behind it. -/
def beforeLastPoint? (cs : List Char) : Option (List Char) :=
  match cs.reverse.dropWhile isDigitOrGap with
  | '.' :: rest => some rest.reverse
  | _ => none

/-- The form of a floating-point number: in base ten or sixty, infinite, or no number. -/
def isFloat (cs : List Char) : Bool :=
  let (_, body) := Decimal.readSign cs
  match body with
  | '.' :: c :: rest =>
    String.ofList (c :: rest) ∈ ["inf", "Inf", "INF"] ||
      (body == cs &&
        (String.ofList (c :: rest) ∈ ["nan", "NaN", "NAN"] ||
          (c.isDigit && isExponent (rest.dropWhile isDigitOrGap))))
  | c :: rest =>
    c.isDigit &&
      match rest.dropWhile isDigitOrGap with
      | '.' :: behind => isExponent (behind.dropWhile isDigitOrGap)
      | ':' :: behind =>
        match beforeLastPoint? (':' :: behind) with
        | some sixties => isSixties sixties.length sixties
        | none => false
      | _ => false
  | [] => false

end Kind

/-! ## Moments -/

/-- The fields of a moment as they are spelled. -/
structure Stamp where
  year : Nat
  month : Nat
  day : Nat
  /-- The time of day, if there is one: hour, minute, second and the digits of a fraction. -/
  clock : Option (Nat × Nat × Nat × List Char)
  /-- The offset from universal time in seconds, if there is one. -/
  offset : Option Int
  /-- Whether month and day have two digits each. -/
  isWide : Bool
  deriving DecidableEq, Repr, Inhabited

namespace Stamp

/-- One or two digits at the front. -/
def readShort? (cs : List Char) : Option (Nat × Nat × List Char) :=
  let digits := (cs.take 2).takeWhile Char.isDigit
  if digits.isEmpty then none
  else some (Decimal.natOfDigits digits, digits.length, cs.drop digits.length)

/-- A number of digits at the front. -/
def readDigits? (width : Nat) (cs : List Char) : Option (Nat × List Char) :=
  let digits := cs.take width
  if digits.length = width ∧ digits.all Char.isDigit then
    some (Decimal.natOfDigits digits, cs.drop width)
  else none

/-- A character at the front. -/
def expect? (c : Char) (cs : List Char) : Option (List Char) :=
  match cs with
  | d :: rest => if d = c then some rest else none
  | [] => none

/-- An offset from universal time: a letter, or a sign with hours and possibly minutes. -/
def readOffset? (cs : List Char) : Option Int :=
  match cs with
  | ['Z'] => some 0
  | sign :: rest =>
    if sign = '+' ∨ sign = '-' then do
      let (hours, _, rest) ← readShort? rest
      let (minutes, rest) ← if rest.isEmpty then some (0, []) else
        (expect? ':' rest).bind (readDigits? 2)
      if rest.isEmpty then
        let seconds : Int := hours * 3600 + minutes * 60
        some (if sign = '-' then -seconds else seconds)
      else none
    else none
  | [] => none

/-- A time of day and what is behind it. -/
def readClock? (cs : List Char) : Option ((Nat × Nat × Nat × List Char) × List Char) := do
  let (hour, _, rest) ← readShort? cs
  let (minute, rest) ← (expect? ':' rest).bind (readDigits? 2)
  let (second, rest) ← (expect? ':' rest).bind (readDigits? 2)
  match rest with
  | '.' :: rest =>
    some ((hour, minute, second, rest.takeWhile Char.isDigit), rest.dropWhile Char.isDigit)
  | _ => some ((hour, minute, second, []), rest)

/-- A space or a tab. -/
def isSpace (c : Char) : Bool := c == ' ' || c == '\t'

/-- The characters between a day and a time: a letter, or spaces. -/
def readGap? (cs : List Char) : Option (List Char) :=
  match cs with
  | c :: rest =>
    if c = 'T' ∨ c = 't' then some rest
    else if isSpace c then some (rest.dropWhile isSpace)
    else none
  | [] => none

/-- A moment as it is spelled. -/
def read? (cs : List Char) : Option Stamp := do
  let (year, rest) ← readDigits? 4 cs
  let (month, wide1, rest) ← (expect? '-' rest).bind readShort?
  let (day, wide2, rest) ← (expect? '-' rest).bind readShort?
  let isWide := wide1 == 2 && wide2 == 2
  if rest.isEmpty then some ⟨year, month, day, none, none, isWide⟩
  else
    let (clock, rest) ← (readGap? rest).bind readClock?
    if rest.isEmpty then some ⟨year, month, day, some clock, none, isWide⟩
    else
      let offset ← readOffset? (rest.dropWhile isSpace)
      some ⟨year, month, day, some clock, some offset, isWide⟩

/-- The microseconds of the digits of a fraction. -/
def microseconds (digits : List Char) : Nat :=
  Decimal.natOfDigits ((digits ++ List.replicate 6 '0').take 6)

/-- The moment that is spelled, if it exists. -/
def moment (s : Stamp) : Except MomentFault Moment :=
  match s.clock with
  | none => (Day.make s.year s.month s.day).map .date
  | some (hour, minute, second, fraction) =>
    match s.offset with
    | some seconds =>
      if 86400 ≤ seconds.natAbs then .error (.offset seconds) else at' hour minute second fraction
    | none => at' hour minute second fraction
where
  /-- The moment of a time of day that exists. -/
  at' (hour minute second : Nat) (fraction : List Char) : Except MomentFault Moment :=
    match Day.make s.year s.month s.day, Clock.make hour minute second (microseconds fraction) with
    | .error e, _ => .error e
    | _, .error e => .error e
    | .ok day, .ok clock => .ok (.dateTime day clock s.offset)

end Stamp

namespace Kind

/-- What a plain scalar without a tag is. -/
def ofPlain (s : String) : Kind :=
  let cs := s.toList
  if s ∈ nullWords then .null
  else if s ∈ truthWords then .bool
  else if s = "<<" then .merge
  else if s = "=" then .default
  else if isFloat cs then .float
  else if isInt cs then .int
  else
    match Stamp.read? cs with
    | some stamp => if stamp.clock.isSome || stamp.isWide then .moment else .text
    | none => .text

end Kind

end Remediation.Yaml
