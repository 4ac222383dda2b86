import Remediation.Json
import Remediation.Decimal.Reading
/-!
# Reading JSON

The reader takes the values of JSON and, as numbers, also `NaN`, `Infinity` and `-Infinity`.  Where
a map repeats a key, the field keeps its first place and its last value.  An integer of too many
digits is refused with a fault of its own.

Half of a pair of code units that stands alone in an escape is no character: `Dialect` says whether
it refuses the text or is replaced.
-/

set_option autoImplicit false

namespace Remediation

namespace Json

/-- How lenient the reader is. -/
structure Dialect where
  /-- Whether a lone half of a surrogate pair refuses the text. -/
  refuseLoneSurrogate : Bool
  /-- How deep lists and maps may nest, if that is bounded; those that hold nothing do not count. -/
  depthLimit : Option Nat
  deriving DecidableEq, Repr, Inhabited

/-- How deep lists and maps may nest in a text: where that is not bounded, as deep as the text is
long, and deeper they cannot. -/
def Dialect.depthIn (d : Dialect) (length : Nat) : Nat := d.depthLimit.getD length

/-- How deep lists and maps may nest in a stored document. -/
def documentDepth : Nat := 200

/-- The reader's dialect for free-standing texts. -/
def lenient : Dialect := ⟨false, none⟩

/-- The reader's dialect for stored documents. -/
def strict : Dialect := ⟨true, some documentDepth⟩

/-- A character that may stand between the parts of a value. -/
def isGap (c : Char) : Bool := c == ' ' || c == '\t' || c == '\n' || c == '\r'

/-- Skip what may stand between the parts of a value. -/
def skipGap (cs : List Char) : List Char := cs.dropWhile isGap

/-- The value of a hexadecimal digit. -/
def hexValue? (c : Char) : Option Nat :=
  if '0' ≤ c ∧ c ≤ '9' then some (c.toNat - 0x30)
  else if 'a' ≤ c ∧ c ≤ 'f' then some (c.toNat - 0x57)
  else if 'A' ≤ c ∧ c ≤ 'F' then some (c.toNat - 0x37)
  else none

/-- The code of four hexadecimal digits at the front. -/
def readUnit? : List Char → Option (Nat × List Char)
  | a :: b :: c :: d :: cs =>
    match hexValue? a, hexValue? b, hexValue? c, hexValue? d with
    | some a, some b, some c, some d => some (((a * 16 + b) * 16 + c) * 16 + d, cs)
    | _, _, _, _ => none
  | _ => none

/-- The character of a short escape. -/
def shortEscape? : Char → Option Char
  | '"' => some '"'
  | '\\' => some '\\'
  | '/' => some '/'
  | 'b' => some '\x08'
  | 'f' => some '\x0c'
  | 'n' => some '\n'
  | 'r' => some '\r'
  | 't' => some '\t'
  | _ => none

/-- What stands for half of a surrogate pair. -/
def loneSurrogate (d : Dialect) : Option Char :=
  if d.refuseLoneSurrogate then none else some '\ufffd'

/-- The character of an escape by code, behind the letter u. -/
def readCodeEscape? (d : Dialect) (cs : List Char) : Option (Char × List Char) :=
  match readUnit? cs with
  | none => none
  | some (high, rest) =>
    if 0xd800 ≤ high ∧ high < 0xdc00 then
      let alone := (loneSurrogate d).map fun c => (c, rest)
      match rest with
      | '\\' :: 'u' :: more =>
        match readUnit? more with
        | some (low, behind) =>
          if 0xdc00 ≤ low ∧ low < 0xe000 then
            some (Char.ofNat (0x10000 + (high - 0xd800) * 0x400 + (low - 0xdc00)), behind)
          else alone
        | none => alone
      | _ => alone
    else if 0xdc00 ≤ high ∧ high < 0xe000 then (loneSurrogate d).map fun c => (c, rest)
    else some (Char.ofNat high, rest)

/-- The character of an escape that starts with the character `e`. -/
def readEscape? (d : Dialect) (e : Char) (cs : List Char) : Option (Char × List Char) :=
  if e = 'u' then readCodeEscape? d cs else (shortEscape? e).map fun c => (c, cs)

/-- The characters of a text behind its opening quote, up to and with its closing one.  The first list
bounds how many there are: the characters that are read do. -/
def readText? (d : Dialect) : List Char → List Char → Option (List Char × List Char)
  | [], _ => none
  | _ :: _, [] => none
  | _ :: bound, c :: cs =>
    if c = '"' then some ([], cs)
    else if c = '\\' then
      match cs with
      | [] => none
      | e :: cs =>
        match readEscape? d e cs with
        | none => none
        | some (c, rest) => (readText? d bound rest).map fun (chars, rest) => (c :: chars, rest)
    else if c.toNat < 0x20 then none
    else (readText? d bound cs).map fun (chars, rest) => (c :: chars, rest)

/-- The digits behind a point, if there is a point with digits behind it. -/
def readFraction (cs : List Char) : List Char × List Char :=
  match cs with
  | '.' :: rest =>
    let digits := rest.takeWhile Char.isDigit
    if digits.isEmpty then ([], cs) else (digits, rest.dropWhile Char.isDigit)
  | _ => ([], cs)

/-- The exponent, if there is a complete one. -/
def readPower (cs : List Char) : Option Int × List Char :=
  match cs with
  | e :: rest =>
    if e = 'e' ∨ e = 'E' then
      let (negative, rest) := Decimal.readSign rest
      let digits := rest.takeWhile Char.isDigit
      if digits.isEmpty then (none, cs)
      else (some (Decimal.signedInt negative digits), rest.dropWhile Char.isDigit)
    else (none, cs)
  | [] => (none, [])

/-- The value of a number of a sign, whole digits, and what follows them. -/
def numberOf (negative : Bool) (whole rest : List Char) : Except JsonFault (Json × List Char) :=
  let (behind, rest1) := readFraction rest
  let (power, rest2) := readPower rest1
  if behind.isEmpty && power.isNone then
    if Decimal.digitLimit < whole.length then .error (.longInteger whole.length)
    else .ok (.int (Decimal.signedInt negative whole), rest)
  else
    let e := power.getD 0 - behind.length
    .ok (.float (Decimal.floatOfDecimal negative (Decimal.natOfDigits (whole ++ behind)) e), rest2)

/-- A number at the front.  A whole part of several digits does not start with zero. -/
def readNumber (cs : List Char) : Except JsonFault (Json × List Char) :=
  let (negative, body) : Bool × List Char :=
    match cs with
    | '-' :: rest => (true, rest)
    | _ => (false, cs)
  match body with
  | '0' :: rest => numberOf negative ['0'] rest
  | c :: _ =>
    if c.isDigit then
      numberOf negative (body.takeWhile Char.isDigit) (body.dropWhile Char.isDigit)
    else .error .malformed
  | [] => .error .malformed

/-- The words that stand for values. -/
def words : List (String × Json) :=
  [("null", .null), ("true", .bool true), ("false", .bool false), ("NaN", .float (0.0 / 0.0)),
   ("Infinity", .float (1.0 / 0.0)), ("-Infinity", .float (-(1.0 / 0.0)))]

/-- A word at the front. -/
def readWord? (cs : List Char) : Option (Json × List Char) :=
  words.findSome? fun (word, j) =>
    if word.toList.isPrefixOf cs then some (j, cs.drop word.length) else none

mutual

/-- A value at the front; `depth` is how deep lists and maps that hold something may still nest. -/
def readValue (d : Dialect) (fuel depth : Nat) (cs : List Char) :
    Except JsonFault (Json × List Char) :=
  match fuel with
  | 0 => .error .malformed
  | fuel + 1 =>
    match cs with
    | '"' :: rest =>
      match readText? d rest rest with
      | some (chars, rest) => .ok (.text (String.ofList chars), rest)
      | none => .error .malformed
    | '[' :: rest =>
      match skipGap rest with
      | ']' :: rest => .ok (.list [], rest)
      | rest =>
        match depth with
        | 0 => .error .malformed
        | depth + 1 =>
          match readItems d fuel depth rest with
          | .ok (items, rest) => .ok (.list items, rest)
          | .error e => .error e
    | '\x7b' :: rest =>
      match skipGap rest with
      | '\x7d' :: rest => .ok (.map [], rest)
      | rest =>
        match depth with
        | 0 => .error .malformed
        | depth + 1 =>
          match readFields d fuel depth [] rest with
          | .ok (fields, rest) => .ok (.map fields, rest)
          | .error e => .error e
    | cs =>
      match readWord? cs with
      | some found => .ok found
      | none => readNumber cs

/-- The items of a list that has some, up to and with its closing bracket. -/
def readItems (d : Dialect) (fuel depth : Nat) (cs : List Char) :
    Except JsonFault (List Json × List Char) :=
  match fuel with
  | 0 => .error .malformed
  | fuel + 1 =>
    match readValue d fuel depth cs with
    | .error e => .error e
    | .ok (v, rest) =>
      match skipGap rest with
      | ']' :: rest => .ok ([v], rest)
      | ',' :: rest =>
        match readItems d fuel depth (skipGap rest) with
        | .ok (vs, rest) => .ok (v :: vs, rest)
        | .error e => .error e
      | _ => .error .malformed

/-- The fields of a map that has some, up to and with its closing brace, behind those before. -/
def readFields (d : Dialect) (fuel depth : Nat) (before : List (String × Json)) (cs : List Char) :
    Except JsonFault (List (String × Json) × List Char) :=
  match fuel with
  | 0 => .error .malformed
  | fuel + 1 =>
    match cs with
    | '"' :: rest =>
      match readText? d rest rest with
      | none => .error .malformed
      | some (key, rest) =>
        match skipGap rest with
        | ':' :: rest =>
          match readValue d fuel depth (skipGap rest) with
          | .error e => .error e
          | .ok (v, rest) =>
            let fields := setField before (String.ofList key) v
            match skipGap rest with
            | '\x7d' :: rest => .ok (fields, rest)
            | ',' :: rest => readFields d fuel depth fields (skipGap rest)
            | _ => .error .malformed
        | _ => .error .malformed
    | _ => .error .malformed

end

section

variable {d : Dialect} (fuel : Nat) {depth : Nat}

theorem readValue_zero (cs : List Char) : readValue d 0 depth cs = .error .malformed := rfl

theorem readValue_quote (rest : List Char) :
    readValue d (fuel + 1) depth ('"' :: rest) =
      match readText? d rest rest with
      | some (chars, rest) => .ok (.text (String.ofList chars), rest)
      | none => .error .malformed := rfl

theorem readValue_bracket (rest : List Char) :
    readValue d (fuel + 1) depth ('[' :: rest) =
      match skipGap rest with
      | ']' :: rest => .ok (.list [], rest)
      | rest =>
        match depth with
        | 0 => .error .malformed
        | depth + 1 =>
          match readItems d fuel depth rest with
          | .ok (items, rest) => .ok (.list items, rest)
          | .error e => .error e := rfl

theorem readValue_brace (rest : List Char) :
    readValue d (fuel + 1) depth ('\x7b' :: rest) =
      match skipGap rest with
      | '\x7d' :: rest => .ok (.map [], rest)
      | rest =>
        match depth with
        | 0 => .error .malformed
        | depth + 1 =>
          match readFields d fuel depth [] rest with
          | .ok (fields, rest) => .ok (.map fields, rest)
          | .error e => .error e := rfl

theorem readItems_succ (cs : List Char) :
    readItems d (fuel + 1) depth cs =
      match readValue d fuel depth cs with
      | .error e => .error e
      | .ok (v, rest) =>
        match skipGap rest with
        | ']' :: rest => .ok ([v], rest)
        | ',' :: rest =>
          match readItems d fuel depth (skipGap rest) with
          | .ok (vs, rest) => .ok (v :: vs, rest)
          | .error e => .error e
        | _ => .error .malformed := rfl

end

/-- The JSON value that a text spells, with nothing but gaps around it. -/
def read (d : Dialect) (s : String) : Except JsonFault Json :=
  let cs := s.toList
  match readValue d (2 * cs.length + 2) (d.depthIn cs.length) (skipGap cs) with
  | .error e => .error e
  | .ok (v, rest) => if (skipGap rest).isEmpty then .ok v else .error .malformed

end Json

end Remediation
