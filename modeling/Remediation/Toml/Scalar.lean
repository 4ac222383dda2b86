import Remediation.Fault
import Remediation.Json.Reader
import Remediation.Text.Split
/-!
# Scalars of TOML

Readers for keys, texts, moments and numbers.  Each gives what it has read and the rest.

Texts between quotation marks have escapes, texts between apostrophes have none.  Three marks open a
text of several lines, whose first line is left out if it is empty; in front of the closing marks up
to two more may stand, which belong to the text.
-/

set_option autoImplicit false

namespace Remediation.Toml

/-- What a reader has read, and the rest. -/
abbrev Reading (α : Type) := Except Fault (α × List Char)

/-- A character that may stand between the parts of a line. -/
def isGap (c : Char) : Bool := c == ' ' || c == '\t'

/-- A character that may stand between the parts of a value of several lines. -/
def isWideGap (c : Char) : Bool := isGap c || c == '\n'

/-- Skip what may stand between the parts of a line. -/
def skipGap (cs : List Char) : List Char := cs.dropWhile isGap

/-- A control character other than a tabulator. -/
def isControl (c : Char) : Bool := (c.toNat < 0x20 && c != '\t') || c.toNat == 0x7f

/-- A character that a text or remark of one line cannot have. -/
def isIllegal (c : Char) : Bool := isControl c

/-- A character that a text of several lines cannot have. -/
def isIllegalWide (c : Char) : Bool := isControl c && c != '\n'

/-! ## Texts -/

/-- The character of an escape by code. -/
def codeEscape (width : Nat) (cs : List Char) : Reading Char :=
  let digits := cs.take width
  match digits.mapM Json.hexValue? with
  | some values =>
    let code := values.foldl (fun n d => n * 16 + d) 0
    if digits.length < width ∨ 0x10ffff < code ∨ (0xd800 ≤ code ∧ code < 0xe000) then .error .toml
    else .ok (Char.ofNat code, cs.drop width)
  | none => .error .toml

/-- The character of an escape, behind its backslash. -/
def escape : List Char → Reading Char
  | 'b' :: cs => .ok ('\x08', cs)
  | 't' :: cs => .ok ('\t', cs)
  | 'n' :: cs => .ok ('\n', cs)
  | 'f' :: cs => .ok ('\x0c', cs)
  | 'r' :: cs => .ok ('\r', cs)
  | '"' :: cs => .ok ('"', cs)
  | '\\' :: cs => .ok ('\\', cs)
  | 'u' :: cs => codeEscape 4 cs
  | 'U' :: cs => codeEscape 8 cs
  | _ => .error .toml

/-- What is behind the end of a line and the blanks around it, if a line ends here. -/
def behindLineEnd? (cs : List Char) : Option (List Char) :=
  match skipGap cs with
  | '\n' :: rest => some (rest.dropWhile isWideGap)
  | _ => none

/-- A text with escapes, up to and with its closing mark. -/
def quoted : Nat → List Char → Reading (List Char)
  | 0, _ => .error .toml
  | _ + 1, [] => .error .toml
  | _ + 1, '"' :: cs => .ok ([], cs)
  | fuel + 1, '\\' :: cs =>
    match escape cs with
    | .error e => .error e
    | .ok (c, rest) => (quoted fuel rest).map fun (s, rest) => (c :: s, rest)
  | fuel + 1, c :: cs =>
    if isIllegal c then .error .toml else (quoted fuel cs).map fun (s, rest) => (c :: s, rest)

/-- A text of several lines with escapes, up to and with its three closing marks.  A backslash at
the end of a line takes the blanks and line ends behind it out of the text. -/
def quotedWide : Nat → List Char → Reading (List Char)
  | 0, _ => .error .toml
  | _ + 1, [] => .error .toml
  | _ + 1, '"' :: '"' :: '"' :: cs => .ok ([], cs)
  | fuel + 1, '\\' :: cs =>
    match behindLineEnd? cs with
    | some rest => quotedWide fuel rest
    | none =>
      match escape cs with
      | .error e => .error e
      | .ok (c, rest) => (quotedWide fuel rest).map fun (s, rest) => (c :: s, rest)
  | fuel + 1, c :: cs =>
    if isIllegalWide c then .error .toml
    else (quotedWide fuel cs).map fun (s, rest) => (c :: s, rest)

/-- A text without escapes, up to and with its closing mark. -/
def literal (cs : List Char) : Reading (List Char) :=
  let s := cs.takeWhile (· ≠ '\'')
  match cs.dropWhile (· ≠ '\'') with
  | _ :: rest => if s.any isIllegal then .error .toml else .ok (s, rest)
  | [] => .error .toml

/-- A text of several lines without escapes, up to and with its three closing marks. -/
def literalWide : List Char → Reading (List Char)
  | [] => .error .toml
  | '\'' :: '\'' :: '\'' :: cs => .ok ([], cs)
  | c :: cs =>
    if isIllegalWide c then .error .toml
    else (literalWide cs).map fun (s, rest) => (c :: s, rest)

/-- Up to two marks behind three closing ones belong to the text. -/
def withMarks (mark : Char) (s rest : List Char) : List Char × List Char :=
  let more := (rest.take 2).takeWhile (· = mark)
  (s ++ more, rest.drop more.length)

/-- Leave out an empty first line. -/
def skipFirstEnd : List Char → List Char
  | '\n' :: cs => cs
  | cs => cs

/-- A text, if one is here. -/
def readText? (cs : List Char) : Option (Reading (List Char)) :=
  match cs with
  | '"' :: '"' :: '"' :: cs =>
    some ((quotedWide (cs.length + 1) (skipFirstEnd cs)).map fun (s, rest) => withMarks '"' s rest)
  | '"' :: cs => some (quoted (cs.length + 1) cs)
  | '\'' :: '\'' :: '\'' :: cs =>
    some ((literalWide (skipFirstEnd cs)).map fun (s, rest) => withMarks '\'' s rest)
  | '\'' :: cs => some (literal cs)
  | _ => none

/-! ## Keys -/

/-- A character of a key without marks. -/
def isBare (c : Char) : Bool := c.isAlphanum || c == '-' || c == '_'

/-- A part of a key. -/
def readKeyPart (cs : List Char) : Reading String :=
  match cs with
  | '"' :: cs => (quoted (cs.length + 1) cs).map fun (s, rest) => (String.ofList s, rest)
  | '\'' :: cs => (literal cs).map fun (s, rest) => (String.ofList s, rest)
  | cs =>
    let bare := cs.takeWhile isBare
    if bare.isEmpty then .error .toml else .ok (String.ofList bare, cs.dropWhile isBare)

/-- The parts of a key, with points between them, and what is behind the blanks after them. -/
def readKey : Nat → List Char → Reading (List String)
  | 0, _ => .error .toml
  | fuel + 1, cs =>
    match readKeyPart cs with
    | .error e => .error e
    | .ok (part, rest) =>
      match skipGap rest with
      | '.' :: rest =>
        (readKey fuel (skipGap rest)).map fun (parts, rest) => (part :: parts, rest)
      | rest => .ok ([part], rest)

/-! ## Moments -/

/-- The number of two digits. -/
def twoDigits? : List Char → Option (Nat × List Char)
  | a :: b :: cs =>
    if a.isDigit && b.isDigit then some (Decimal.natOfDigits [a, b], cs) else none
  | _ => none

/-- Two digits behind a mark. -/
def markedDigits? (mark : Char) : List Char → Option (Nat × List Char)
  | c :: cs => if c = mark then twoDigits? cs else none
  | [] => none

/-- The microseconds of the digits of a fraction. -/
def microseconds (digits : List Char) : Nat :=
  Decimal.natOfDigits ((digits ++ List.replicate 6 '0').take 6)

/-- A fraction of a second, if one is here, in microseconds. -/
def readFraction : List Char → Nat × List Char
  | '.' :: cs =>
    let digits := cs.takeWhile Char.isDigit
    if digits.isEmpty then (0, '.' :: cs) else (microseconds digits, cs.dropWhile Char.isDigit)
  | cs => (0, cs)

/-- A time of day, if one is here. -/
def readClock? (cs : List Char) : Option (Clock × List Char) := do
  let (hour, cs) ← twoDigits? cs
  let (minute, cs) ← markedDigits? ':' cs
  let (second, cs) ← markedDigits? ':' cs
  let (fraction, cs) := readFraction cs
  match Clock.make hour minute second fraction with
  | .ok clock => some (clock, cs)
  | .error _ => none

/-- An offset from universal time, in seconds, if one is here. -/
def readOffset (cs : List Char) : Option Int × List Char :=
  match cs with
  | sign :: rest =>
    if sign = 'Z' ∨ sign = 'z' then (some 0, rest)
    else if sign = '+' ∨ sign = '-' then
      match twoDigits? rest with
      | none => (none, cs)
      | some (hour, behind) =>
        match markedDigits? ':' behind with
        | none => (none, cs)
        | some (minute, behind) =>
          if 23 < hour ∨ 59 < minute then (none, cs)
          else
            let seconds : Int := hour * 3600 + minute * 60
            (some (if sign = '-' then -seconds else seconds), behind)
    else (none, cs)
  | [] => (none, [])

/-- The numbers of a day, if some are here. -/
def readDayNumbers? (cs : List Char) : Option (Nat × Nat × Nat × List Char) := do
  let (century, cs) ← twoDigits? cs
  let (year, cs) ← twoDigits? cs
  let (month, cs) ← markedDigits? '-' cs
  let (day, cs) ← markedDigits? '-' cs
  return (century * 100 + year, month, day, cs)

/-- A time of day behind a day, if one is here. -/
def readClockBehind? : List Char → Option (Clock × List Char)
  | c :: cs => if c = 'T' ∨ c = 't' ∨ c = ' ' then readClock? cs else none
  | [] => none

/-- A moment, if one is here. -/
def readMoment? (cs : List Char) : Option (Reading Moment) :=
  match readDayNumbers? cs with
  | some (year, month, day, rest) =>
    match Day.make year month day with
    | .error _ => some (.error .toml)
    | .ok day =>
      match readClockBehind? rest with
      | some (clock, rest) =>
        let (offset, rest) := readOffset rest
        some (.ok (.dateTime day clock offset, rest))
      | none => some (.ok (.date day, rest))
  | none => (readClock? cs).map fun (clock, rest) => .ok (.time clock, rest)

/-! ## Numbers -/

/-- Digits, each of which may have an underscore before it, and the rest. -/
def moreDigits (isDigit : Char → Bool) : List Char → List Char × List Char
  | [] => ([], [])
  | c :: cs =>
    if isDigit c then
      let (digits, rest) := moreDigits isDigit cs
      (c :: digits, rest)
    else
      match c, cs with
      | '_', d :: ds => if isDigit d then moreDigits isDigit (d :: ds) else ([], '_' :: d :: ds)
      | c, cs => ([], c :: cs)

/-- Digits with single underscores between them, if some are here. -/
def readDigits? (isDigit : Char → Bool) (cs : List Char) : Option (List Char × List Char) :=
  match cs with
  | c :: _ => if isDigit c then some (moreDigits isDigit cs) else none
  | [] => none

/-- The base that a letter behind a zero announces. -/
def baseOf? : Char → Option Nat
  | 'x' => some 16
  | 'o' => some 8
  | 'b' => some 2
  | _ => none

/-- Whether a character is a digit in a base. -/
def isDigitOf (base : Nat) (c : Char) : Bool := (Json.hexValue? c).any (· < base)

/-- An integer in a base that its lead announces, if one is here. -/
def readBased? : List Char → Option (Int × List Char)
  | '0' :: letter :: cs => do
    let base ← baseOf? letter
    let (digits, rest) ← readDigits? (isDigitOf base) cs
    return (digits.foldl (fun n c => n * base + ((Json.hexValue? c).getD 0)) 0, rest)
  | _ => none

/-- The whole part of a number: a zero, or digits that do not start with one. -/
def readWhole? : List Char → Option (List Char × List Char)
  | '0' :: cs => some (['0'], cs)
  | cs => readDigits? Char.isDigit cs

/-- The digits behind a point, if there are some. -/
def readBehind (cs : List Char) : List Char × List Char :=
  match cs with
  | '.' :: rest => (readDigits? Char.isDigit rest).getD ([], cs)
  | _ => ([], cs)

/-- The exponent of a number, if there is one. -/
def readPower (cs : List Char) : Option Int × List Char :=
  match cs with
  | e :: rest =>
    if e = 'e' ∨ e = 'E' then
      let (negative, rest) := Decimal.readSign rest
      match readDigits? Char.isDigit rest with
      | some (digits, rest) => (some (Decimal.signedInt negative digits), rest)
      | none => (none, cs)
    else (none, cs)
  | [] => (none, [])

/-- A decimal number, if one is here. -/
def readDecimal? (cs : List Char) : Option (Reading Value) :=
  let (negative, body) := Decimal.readSign cs
  (readWhole? body).map fun (whole, rest) =>
    let (behind, rest) := readBehind rest
    let (power, rest) := readPower rest
    if behind.isEmpty && power.isNone then
      if Decimal.digitLimit < whole.length then .error (.longDigits whole.length)
      else .ok (.int (Decimal.signedInt negative whole), rest)
    else
      let mantissa := Decimal.natOfDigits (whole ++ behind)
      .ok (.float (Decimal.floatOfDecimal negative mantissa (power.getD 0 - behind.length)), rest)

/-- The words that stand for numbers. -/
def numberWords : List (List Char × Float) :=
  [(['i', 'n', 'f'], 1.0 / 0.0), (['n', 'a', 'n'], 0.0 / 0.0)]

/-- A number that is written as a word, if one is here. -/
def readNumberWord? (cs : List Char) : Option (Value × List Char) :=
  let (negative, body) := Decimal.readSign cs
  numberWords.findSome? fun (word, x) =>
    (Text.dropLead? word body).map fun rest => (.float (if negative then -x else x), rest)

/-- A number, if one is here. -/
def readNumber? (cs : List Char) : Option (Reading Value) :=
  match readBased? cs with
  | some (n, rest) => some (.ok (.int n, rest))
  | none =>
    match readDecimal? cs with
    | some r => some r
    | none => (readNumberWord? cs).map .ok

end Remediation.Toml
