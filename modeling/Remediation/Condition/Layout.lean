import Remediation.Condition.Comparison
import Remediation.Condition.Display
import Remediation.Decimal.Places
/-!
# Layouts

A layout is a text with directives that are replaced by an operand, or by what stands under a key of
it.  A directive starts with a percent sign, may name a key between parentheses, may ask for a width
and a count of digits, and ends with the letter of a form.
-/

set_option autoImplicit false

namespace Remediation

namespace Condition

namespace Layout

/-- A count in a directive: nothing, a number, or a star for the next operand. -/
inductive Count where
  | none
  | number (n : Nat)
  | next
  deriving DecidableEq, Repr, Inhabited

/-- A directive. -/
structure Directive where
  key : Option (List Char)
  toLeft : Bool
  plus : Bool
  blank : Bool
  marked : Bool
  zeros : Bool
  width : Count
  digits : Count
  form : Char
  deriving DecidableEq, Repr, Inhabited

/-- A key up to the parenthesis that closes it, with how many are open; and the rest. -/
def readKey? (depth : Nat) : List Char → Option (List Char × List Char)
  | [] => none
  | c :: cs =>
    if c = ')' then
      match depth with
      | 0 => some ([], cs)
      | depth + 1 => (readKey? depth cs).map fun (key, rest) => (c :: key, rest)
    else
      (readKey? (if c = '(' then depth + 1 else depth) cs).map fun (key, rest) => (c :: key, rest)

/-- A count at the front. -/
def readCount (cs : List Char) : Count × List Char :=
  match cs with
  | '*' :: cs => (.next, cs)
  | cs =>
    let digits := cs.takeWhile Char.isDigit
    (if digits.isEmpty then .none else .number (Decimal.natOfDigits digits),
      cs.drop digits.length)

/-- A directive behind its percent sign. -/
def read? (cs : List Char) : Option (Directive × List Char) := do
  let (key, cs) ←
    match cs with
    | '(' :: cs => (readKey? 0 cs).map fun (key, rest) => (some key, rest)
    | cs => some (none, cs)
  let isFlag (c : Char) : Bool := "-+ #0".toList.contains c
  let flags := cs.takeWhile isFlag
  let (width, cs) := readCount (cs.drop flags.length)
  let (digits, cs) : Count × List Char :=
    match cs with
    | '.' :: cs =>
      match readCount cs with
      | (.none, cs) => (.number 0, cs)
      | found => found
    | cs => (.none, cs)
  let cs := if cs.head?.any fun c => c = 'h' ∨ c = 'l' ∨ c = 'L' then cs.drop 1 else cs
  match cs with
  | [] => none
  | form :: cs =>
    return (⟨key, flags.contains '-', flags.contains '+', flags.contains ' ',
      flags.contains '#', flags.contains '0', width, digits, form⟩, cs)

/-- What replaces a directive before it is padded. -/
structure Piece where
  negative : Bool
  /-- What marks the base of a number. -/
  mark : List Char
  body : List Char
  isNumber : Bool
  deriving Repr, Inhabited

/-- The piece of an integer in a base. -/
def ofWhole (d : Directive) (digits : Option Nat) (n : Int) : Piece :=
  let base := if d.form = 'o' then 8 else if d.form = 'x' ∨ d.form = 'X' then 16 else 10
  let cs := Nat.toDigits base n.natAbs
  let cs := List.replicate (digits.getD 0 - cs.length) '0' ++ cs
  let mark :=
    if !d.marked ∨ base = 10 then []
    else if base = 8 then ['0', 'o'] else ['0', 'x']
  let raise (cs : List Char) : List Char := if d.form = 'X' then cs.map Char.toUpper else cs
  ⟨n < 0, raise mark, raise cs, true⟩

/-- The piece of a floating-point number. -/
def ofFloat (d : Directive) (digits : Option Nat) (x : Float) : Piece :=
  let way : Decimal.Counting :=
    if d.form = 'f' ∨ d.form = 'F' then .places
    else if d.form = 'e' ∨ d.form = 'E' then .exponent else .digits
  let cs := way.write (digits.getD 6) d.marked x
  ⟨Decimal.isNegative x, [], if d.form.isUpper then cs.map Char.toUpper else cs, true⟩

/-- The piece of a text, of which at most so many characters are kept. -/
def ofChars (digits : Option Nat) (cs : List Char) : Piece :=
  ⟨false, [], match digits with | some n => cs.take n | none => cs, false⟩

/-- A character by its code where it is not of ASCII. -/
def escapeWide (c : Char) : List Char :=
  let n := c.toNat
  if n < 0x80 then [c]
  else if n < 0x100 then '\\' :: 'x' :: Text.hexDigits 2 n
  else if n < 0x10000 then '\\' :: 'u' :: Text.hexDigits 4 n
  else '\\' :: 'U' :: Text.hexDigits 8 n

/-- The characters of bytes, one for each. -/
def charsOfBytes (bs : List UInt8) : List Char := bs.map fun b => Char.ofNat b.toNat

/-- The character that a code stands for, in a layout of bytes or one of characters. -/
def charOfCode? (inBytes : Bool) (n : Int) : Option Char :=
  if 0 ≤ n ∧ n < (if inBytes then 0x100 else 0x110000) then some (Char.ofNat n.toNat) else none

/-- What an operand is replaced by in the form of a directive. -/
def piece? (inBytes : Bool) (d : Directive) (digits : Option Nat) (a : Operand) : Option Piece :=
  match d.form with
  | 's' =>
    if inBytes then a.octets?.map fun bs => ofChars digits (charsOfBytes bs)
    else some (ofChars digits (a.shown true).toList)
  | 'b' => if inBytes then a.octets?.map fun bs => ofChars digits (charsOfBytes bs) else none
  | 'r' =>
    let cs := (a.quoted true).toList
    some (ofChars digits (if inBytes then cs.flatMap escapeWide else cs))
  | 'a' => some (ofChars digits ((a.quoted true).toList.flatMap escapeWide))
  | 'c' =>
    match a.whole? with
    | some n => (charOfCode? inBytes n).map fun c => ofChars none [c]
    | none =>
      let cs := if inBytes then a.octets?.map charsOfBytes else a.chars?.map String.toList
      match cs with
      | some [c] => some (ofChars none [c])
      | _ => none
  | 'd' | 'i' | 'u' =>
    (a.whole?.or (a.float?.bind truncated?)).map (ofWhole d digits)
  | 'o' | 'x' | 'X' => a.whole?.map (ofWhole d digits)
  | 'e' | 'E' | 'f' | 'F' | 'g' | 'G' => a.asFloat?.map (ofFloat d digits)
  | _ => none

/-- A piece with its sign, padded to a width. -/
def Piece.pad (p : Piece) (d : Directive) (toLeft : Bool) (width : Nat) : List Char :=
  let sign :=
    if !p.isNumber then []
    else if p.negative then ['-'] else if d.plus then ['+'] else if d.blank then [' '] else []
  let more := width - (sign.length + p.mark.length + p.body.length)
  if toLeft then sign ++ p.mark ++ p.body ++ List.replicate more ' '
  else if d.zeros && p.isNumber then sign ++ p.mark ++ List.replicate more '0' ++ p.body
  else List.replicate more ' ' ++ sign ++ p.mark ++ p.body

/-- What directives are replaced by. -/
structure Supply where
  /-- What keys are looked up in. -/
  source : Operand
  /-- The operand of the next directive, if it has not been used. -/
  next : Option Operand
  deriving Inhabited

/-- Whether keys can be looked up in an operand, found or not. -/
def isKeyed (a : Operand) : Bool :=
  a.entries?.isSome || a.octets?.isSome || a.items?.isSome || a.kindOf == .names

/-- The supply for a directive that names a key or does not. -/
def Supply.at? (s : Supply) (key : Option (List Char)) : Except Stop (Option Supply) :=
  match key with
  | none => .ok (some s)
  | some cs =>
    let key := String.ofList cs
    match s.source with
    | .map entries | .record entries =>
      match Operand.under? entries (.bareText key) with
      | .ok (some a) => .ok (some { s with next := some a })
      | .ok none => .error (.noKey (Text.quote key))
      | .error _ => .ok none
    | .names entries =>
      if (lookupField entries key).isSome then .ok none else .error (.noKey (Text.quote key))
    | _ => .ok none

/-- A count of a directive, for which a star takes the next operand. -/
def Supply.count? (s : Supply) : Count → Option (Option Int × Supply)
  | .none => some (none, s)
  | .number n => some (some n, s)
  | .next =>
    match s.next.bind Operand.whole? with
    | some n => some (some n, { s with next := none })
    | none => none

/-- What a directive is replaced by. -/
def replace? (inBytes : Bool) (d : Directive) (s : Supply) : Option (List Char × Supply) := do
  let (width, s) ← s.count? d.width
  let (digits, s) ← s.count? d.digits
  let a ← s.next
  let p ← piece? inBytes d (digits.map Int.toNat) a
  let width := width.getD 0
  return (p.pad d (d.toLeft || width < 0) width.natAbs, { s with next := none })

/-- The characters of a layout with its directives replaced; nothing if they do not suit the operand.
Two percent signs stand for one.  The fuel is the number of characters. -/
def fill (inBytes : Bool) : Nat → Supply → List Char → Except Stop (Option (List Char))
  | _, s, [] => .ok (if s.next.isSome && !isKeyed s.source then none else some [])
  | 0, _, _ => .ok none
  | fuel + 1, s, '%' :: '%' :: cs => (fill inBytes fuel s cs).map fun more => more.map ('%' :: ·)
  | fuel + 1, s, '%' :: cs =>
    match read? cs with
    | none => .ok none
    | some (d, rest) =>
      match s.at? d.key with
      | .error e => .error e
      | .ok none => .ok none
      | .ok (some s) =>
        match replace? inBytes d s with
        | none => .ok none
        | some (text, s) =>
          match fill inBytes fuel s rest with
          | .ok more => .ok (more.map (text ++ ·))
          | .error e => .error e
  | fuel + 1, s, c :: cs => (fill inBytes fuel s cs).map fun more => more.map (c :: ·)

/-- The supply of an operand. -/
def Supply.of (a : Operand) : Supply := ⟨a, some a⟩

/-- A text with its directives replaced by an operand. -/
def ofText (s : String) (a : Operand) : Except Stop (Option Operand) :=
  let cs := s.toList
  (fill false cs.length (.of a) cs).map fun filled =>
    filled.map fun cs => .bareText (String.ofList cs)

/-- Bytes with their directives replaced by an operand. -/
def ofBytes (bs : List UInt8) (a : Operand) : Except Stop (Option Operand) :=
  (fill true bs.length (.of a) (charsOfBytes bs)).map fun filled =>
    filled.map fun cs => .bareBytes (cs.map fun c => UInt8.ofNat c.toNat)

end Layout

end Condition

end Remediation
