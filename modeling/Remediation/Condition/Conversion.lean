import Remediation.Condition.Comparison
import Remediation.Condition.Display
import Remediation.Condition.Instant.Reader
import Remediation.Json.Reader
import Remediation.Text.Utf8
/-!
# Converting operands

A type converts operands to itself when it is called like a function.  A record of the single field
`value` is converted by that field.  A conversion may stop the evaluation; otherwise what it refuses
has no result.
-/

set_option autoImplicit false

namespace Remediation

namespace Condition

namespace Operand

/-! ## Numbers -/

/-- The integer that a text spells in decimal, with blanks around it and underscores between its
digits. -/
def decimalOfText? (cs : List Char) : Option Int :=
  let (negative, body) := Decimal.readSign (Text.stripChars (cs.map Decimal.asciiDigit))
  match Decimal.dropUnderscores? none body with
  | some digits =>
    if !digits.isEmpty && digits.all Char.isDigit && digits.length ≤ Decimal.digitLimit then
      some (Decimal.signedInt negative digits)
    else none
  | none => none

/-- Hexadecimal digits, of which single underscores may part each two. -/
def hexDigits? (parted : Bool) : List Char → Option (List Char)
  | [] => if parted then none else some []
  | '_' :: cs => if parted then none else hexDigits? true cs
  | c :: cs => if (Json.hexValue? c).isSome then (hexDigits? false cs).map (c :: ·) else none

/-- The integer that a text spells in hexadecimal, like one in decimal, but with a zero and an x in
front that are left out if they are there, which an underscore may follow. -/
def hexOfText? (cs : List Char) : Option Int :=
  let (negative, body) := Decimal.readSign (Text.stripChars (cs.map Decimal.asciiDigit))
  let body :=
    match body with
    | '0' :: x :: '_' :: rest => if x = 'x' ∨ x = 'X' then rest else body
    | '0' :: x :: rest => if x = 'x' ∨ x = 'X' then rest else body
    | body => body
  match body with
  | [] => none
  | '_' :: _ => none
  | body =>
    (hexDigits? false body).map fun digits =>
      Decimal.Floating.signed negative
        (digits.foldl (fun n c => n * 16 + (Json.hexValue? c).getD 0) 0)

/-- What stands behind a zero and an x at the front. -/
def behindHexMark? : List Char → Option (List Char)
  | '0' :: x :: cs => if x = 'x' ∨ x = 'X' then some cs else none
  | _ => none

/-- The characters that bytes of ASCII spell. -/
def asciiChars? (bs : List UInt8) : Option (List Char) :=
  bs.mapM fun b => if b < 0x80 then some (Char.ofNat b.toNat) else none

/-- The characters that a text or bytes spell a number with. -/
def spelling? (a : Operand) : Option (List Char) :=
  (a.chars?.map String.toList).or (a.octets?.bind asciiChars?)

/-- The integer on the way from a floating-point number to zero; an infinite number stops. -/
def wholeOfFloat (x : Float) : Except Stop (Option Int) :=
  match Decimal.Floating.ofBits x.toBits with
  | .infinite _ => .error .infinite
  | _ => .ok (truncated? x)

/-- The integer of any size that an operand is, is close to, or spells in decimal. -/
def plainWhole (a : Operand) : Except Stop (Option Int) :=
  match a.whole?, a.float? with
  | some n, _ => .ok (some n)
  | none, some x => wholeOfFloat x
  | none, none => .ok (a.spelling?.bind decimalOfText?)

/-- The seconds of an instant since the start of the year 1970. -/
def secondsOf? (i : Instant) : Option Float :=
  (i.since? (Instant.make ⟨1970, 1, 1⟩ ⟨0, 0, 0, 0⟩ 0)).map Span.seconds

/-- The integer that a text spells, in decimal or behind a mark in hexadecimal, before which a minus
may stand if there may be one. -/
def wholeOfText? (minus : Bool) (cs : List Char) : Option Int :=
  match behindHexMark? cs with
  | some rest => hexOfText? rest
  | none =>
    match minus, cs with
    | true, '-' :: rest =>
      match behindHexMark? rest with
      | some rest => (hexOfText? rest).map fun n => -n
      | none => decimalOfText? cs
    | _, cs => decimalOfText? cs

/-- The value of a record, which has to have one. -/
def valueOf (entries : List (Operand × Operand)) (missing : String) : Except Stop Operand :=
  match under? entries (.text "value") with
  | .ok (some a) => .ok a
  | _ => .error (.noKey missing)

/-- The key of a record's value as it is shown. -/
def valueKey : String := (Operand.text "value").quoted true

/-- Convert an operand to an integer with a sign. -/
def toInt (a : Operand) : Except Stop (Option Operand) :=
  match a with
  | .null => .ok (some (.int 0))
  | .int n => .ok (some (.int n))
  | .record entries =>
    match valueOf entries valueKey with
    | .ok a => (plainWhole a).map fun n => n.map .int
    | .error stop => .error stop
  | .instant i => .ok (((secondsOf? i).bind truncated?).bind int64?)
  | .text s | .bareText s => .ok ((wholeOfText? true s.toList).bind int64?)
  | a => (plainWhole a).map fun n => n.bind int64?

/-- Convert an operand to an integer without a sign. -/
def toUint (a : Operand) : Except Stop (Option Operand) :=
  match a with
  | .null => .ok (some (.uint 0))
  | .uint n => .ok (some (.uint n))
  | .record entries =>
    match valueOf entries (Text.quote "value") with
    | .ok .null => .ok (some (.uint 0))
    | .ok a => .ok ((a.whole?.or (a.float?.bind truncated?)).bind uint64?)
    | .error stop => .error stop
  | .instant i =>
    .ok ((secondsOf? i).bind fun x => if x < 0.0 then none else (truncated? x).bind uint64?)
  | .text s | .bareText s => .ok ((wholeOfText? false s.toList).bind uint64?)
  | a => (plainWhole a).map fun n => n.bind uint64?

/-- Convert an operand to a truth value. -/
def toBool (a : Operand) : Except Stop (Option Operand) :=
  match a with
  | .null => .ok (some (.bool 0))
  | .record entries =>
    match valueOf entries valueKey with
    | .ok a => (plainWhole a).map fun n => n.map .bool
    | .error stop => .error stop
  | .text s | .bareText s =>
    if s ∈ ["False", "f", "FALSE", "false"] then .ok (some (.bool 0))
    else if s ∈ ["True", "t", "TRUE", "true"] then .ok (some (.bool 1))
    else .ok ((decimalOfText? s.toList).map .bool)
  | a => (plainWhole a).map fun n => n.map .bool

/-- The floating-point number that an operand is, is close to, or spells. -/
def plainFloat? (a : Operand) : Option Float :=
  a.asFloat?.or (a.spelling?.bind fun cs => Decimal.readFloat? (String.ofList cs))

/-- Convert an operand to a floating-point number. -/
def toDouble (a : Operand) : Except Stop (Option Operand) :=
  match a with
  | .null => .ok (some (.double 0.0))
  | .record entries =>
    match valueOf entries valueKey with
    | .ok a => .ok (a.plainFloat?.map .double)
    | .error stop => .error stop
  | a => .ok (a.plainFloat?.map .double)

/-! ## Texts and bytes -/

/-- The bytes that the numbers of a list are. -/
def bytesOfItems? (items : List Operand) : Option (List UInt8) :=
  items.mapM fun a =>
    a.whole?.bind fun n => if 0 ≤ n ∧ n < 256 then some (UInt8.ofNat n.toNat) else none

/-- Convert an operand to bytes. -/
def toBytes (a : Operand) : Except Stop (Option Operand) :=
  match a with
  | .null => .ok (some (.bytes []))
  | .bytes bs | .bareBytes bs => .ok (some (.bytes bs))
  | .text s | .bareText s => .ok (some (.bytes s.toUTF8.toList))
  | .record entries =>
    match valueOf entries valueKey with
    | .error stop => .error stop
    | .ok a =>
      match a.octets?, a.whole?, a.chars? with
      | some bs, _, _ => .ok (some (.bytes bs))
      | _, some n, _ => .ok (if 0 ≤ n then some (.bytes (List.replicate n.toNat 0)) else none)
      | _, _, some _ => .ok none
      | _, _, _ => .ok ((a.parts?.bind bytesOfItems?).map .bytes)
  | a => .ok ((a.parts?.bind bytesOfItems?).map .bytes)

/-- The text that an operand converts to. -/
def toText? : Operand → Option String
  | .bytes bs | .bareBytes bs => (Text.decodeUtf8 bs).toOption
  | .names _ | .function _ => none
  | a => some (a.shown true)

/-! ## Lists and maps -/

/-- Put a value under a key of a map, in place of what is there. -/
def put (entries : List (Operand × Operand)) (key value : Operand) :
    Except Misfit (List (Operand × Operand)) :=
  match under? entries key with
  | .error m => .error m
  | .ok none => .ok (entries ++ [(key, value)])
  | .ok (some _) =>
    .ok (entries.map fun (k, a) =>
      if k.code? = key.code? ∧ (sameKey k key).toOption = some true then (k, value) else (k, a))

/-- The map of pairs. -/
def mapOfPairs? (entries : List (Operand × Operand)) :
    List Operand → Option (List (Operand × Operand))
  | [] => some entries
  | a :: rest =>
    match a.parts? with
    | some [k, v] =>
      match put entries k v with
      | .ok entries => mapOfPairs? entries rest
      | .error _ => none
    | _ => none

/-- Convert an operand to a map. -/
def toMap? : Operand → Option Operand
  | .null => some (.map [])
  | .map entries | .record entries => some (.map entries)
  | .names _ => none
  | a => (a.parts?.bind (mapOfPairs? [])).map .map

/-! ## Instants and spans -/

/-- The least and the greatest number that parts of an instant may be looked at as. -/
def checkPart (n : Int) : Except Stop Nat :=
  if 0x7fffffff < n then .error (.hugePart true)
  else if n < -0x80000000 then .error (.hugePart false)
  else .ok n.toNat

/-- The parts of an instant as numbers, in order; what is no integer has none. -/
def partNumbers : List Operand → Except Stop (Option (List Int))
  | [] => .ok (some [])
  | a :: as =>
    match a.whole? with
    | none => .ok none
    | some n =>
      match checkPart n with
      | .error stop => .error stop
      | .ok _ => (partNumbers as).map fun ns => ns.map (n :: ·)

/-- The instant of year, month and day, and of as many parts of a time of day as there are. -/
def instantOfNumbers? (ns : List Int) : Option Instant :=
  if ns.any (· < 0) then none
  else
    let n (i : Nat) : Nat := (ns.getD i 0).toNat
    match (Day.make (n 0) (n 1) (n 2)).toOption,
      (Clock.make (n 3) (n 4) (n 5) (n 6)).toOption with
    | some d, some c => if n 6 < 1000000 then some (.make d c 0) else none
    | _, _ => none

/-- The instant of parts, behind which a zone may be missing in words. -/
def instantOfParts (parts : List Operand) : Except Stop (Option Operand) :=
  if 8 < parts.length ∨ (parts.drop 7).any (·.kindOf ≠ .null) then .ok none
  else
    match partNumbers (parts.take 7) with
    | .error stop => .error stop
    | .ok none => .ok none
    | .ok (some ns) => .ok ((instantOfNumbers? ns).map .instant)

/-- Convert operands to an instant. -/
def toInstant (a : Operand) (more : List Operand) : Except Stop (Option Operand) :=
  match a with
  | .instant i => .ok (some (.instant i))
  | .text s | .bareText s => (Instant.read? s).map fun i => i.map .instant
  | a =>
    if a.whole?.isSome ∧ 2 ≤ more.length then instantOfParts (a :: more) else .ok none

/-- The microseconds of nanoseconds, rounded as quotients of their type are. -/
def microsOfNanos? (a : Operand) : Option Int :=
  match a with
  | .int n => some (Int.tdiv n 1000)
  | a => (a.whole?.map fun n => Int.fdiv n 1000).or
      (a.float?.bind fun x => truncated? (x / 1000.0).floor)

/-- Convert operands to a span: a text, or seconds and nanoseconds. -/
def toSpan (a : Operand) (nanos : Option Operand) : Except Stop (Option Operand) :=
  match a.micros?, a.chars?, a.whole? with
  | some n, _, _ => .ok ((Span.bounded? n).map .span)
  | _, some s, _ => .ok ((Span.read? s).map .span)
  | _, _, some n =>
    if n.natAbs ≤ Span.limit.natAbs then
      .ok (((nanos.map microsOfNanos?).getD (some 0)).bind fun micros =>
        (Span.bare? (n * microsOfSecond + micros)).map .span)
    else .ok none
  | _, _, _ => .ok none

/-! ## Types -/

/-- Convert operands to a type. -/
def convert (k : Kind) (args : List Operand) : Except Stop (Option Operand) :=
  match k, args with
  | .list, [] => .ok (some (.list []))
  | .map, [] => .ok (some (.map []))
  | .null, [] => .ok (some .null)
  | .record, [] => .ok (some (.record []))
  | .int, a :: _ => toInt a
  | .uint, a :: _ => toUint a
  | .text, a :: _ => .ok (a.toText?.map .text)
  | .bytes, a :: _ => toBytes a
  | .instant, a :: more => toInstant a more
  | .span, [a] => toSpan a none
  | .span, [a, nanos] => toSpan a (some nanos)
  | .bool, [a] => toBool a
  | .double, [a] => toDouble a
  | .list, [a] => .ok (a.parts?.map .list)
  | .map, [a] => .ok a.toMap?
  | .record, [a] =>
    .ok (a.toMap?.bind fun m => m.entries?.map .record)
  | .kind, [a] => .ok (some (.kind a.kindOf))
  | .bareText, [a] => .ok (some (.bareText (a.shown true)))
  | .bareList, [a] => .ok (a.parts?.map .bareList)
  | .bareDouble, [a] => .ok (a.plainFloat?.map .bareDouble)
  | .bareInt, [a] => (plainWhole a).map fun n => n.map .bareInt
  | _, _ => .ok none

end Operand

end Condition

end Remediation
