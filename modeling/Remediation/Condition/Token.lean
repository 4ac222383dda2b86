import Remediation.Condition.Expression
import Remediation.Decimal.Reading
import Remediation.Json.Reader
import Remediation.Text.Utf8
/-!
# Tokens of conditions

A condition is cut into words, literals and signs.  What a character starts depends on what may
stand at its place: where an operand may stand, a hyphen or a point before a digit belongs to a
number; where an operation may stand, the word for membership ends where its letters do; behind a
point, and in the braces of a record, a word is a name, unless it is one of the truth values.
-/

set_option autoImplicit false

namespace Remediation

namespace Condition

/-- A piece of a condition. -/
inductive Token where
  | word (s : String)
  /-- A literal; one that spells no operand may also stop the evaluation. -/
  | literal (a : Except Stop Operand)
  | sign (s : String)
  deriving Inhabited

/-- What may stand at a place. -/
inductive Expecting where
  | operand
  | operation
  /-- A name behind a point. -/
  | name
  /-- The name of a field of a record, or the end of the record. -/
  | field
  deriving DecidableEq, Repr, Inhabited

/-- Where a place is: what may stand there, and whether the brackets around it, the innermost first,
are those of records. -/
structure Place where
  expecting : Expecting
  inRecord : List Bool
  deriving DecidableEq, Repr, Inhabited

namespace Place

/-- The place behind a sign. -/
def behindSign (p : Place) (s : String) : Place :=
  if s = ")" ∨ s = "]" ∨ s = "\x7d" then ⟨.operation, p.inRecord.drop 1⟩
  else if s = "(" ∨ s = "[" then ⟨.operand, false :: p.inRecord⟩
  else if s = "\x7b" then
    if p.expecting = .operation then ⟨.field, true :: p.inRecord⟩
    else ⟨.operand, false :: p.inRecord⟩
  else if s = "," then ⟨if p.inRecord.head? = some true then .field else .operand, p.inRecord⟩
  else if s = "." then { p with expecting := .name }
  else { p with expecting := .operand }

/-- The place behind an operand. -/
def behindOperand (p : Place) : Place := { p with expecting := .operation }

end Place

namespace Token

/-- A character that starts a word. -/
def startsWord (c : Char) : Bool := c.isAlpha || c == '_'

/-- A character of a word. -/
def inWord (c : Char) : Bool := c.isAlphanum || c == '_'

/-- A character between tokens. -/
def isGap (c : Char) : Bool := c == ' ' || c == '\t' || c == '\n' || c == '\x0c' || c == '\r'

/-- The signs, longer ones first. -/
def signs : List String :=
  ["<=", ">=", "==", "!=", "&&", "||", "<", ">", "!", "+", "-", "*", "/", "%", "?", ":", ".", ",",
    "(", ")", "[", "]", "\x7b", "\x7d"]

/-- A sign at the front. -/
def readSign? (cs : List Char) : Option (String × List Char) :=
  signs.findSome? fun s => (Text.dropLead? s.toList cs).map fun rest => (s, rest)

/-! ## Numbers -/

/-- The digits behind a point, if there is a point. -/
def readPoint? : List Char → Option (List Char × List Char)
  | '.' :: cs => some (cs.takeWhile Char.isDigit, cs.dropWhile Char.isDigit)
  | _ => none

/-- A hexadecimal number at the front, behind its zero and x. -/
def readHex? (cs : List Char) : Option (List Char × List Char) :=
  match cs with
  | '0' :: 'x' :: rest =>
    let digits := rest.takeWhile fun c => (Json.hexValue? c).isSome
    if digits.isEmpty then none else some (digits, rest.drop digits.length)
  | _ => none

/-- The literal of an operand that may be missing, for which its spelling stands. -/
def literalOf (spelling : List Char) (a : Option Operand) : Token :=
  .literal (.ok (a.getD (.failure (.spelling (String.ofList spelling)))))

/-- An integer literal with or without the letter for no sign. -/
def integerLiteral (negative : Bool) (n : Nat) (rest : List Char) : Token × List Char :=
  let value : Int := if negative then -(n : Int) else n
  let spelling := Decimal.intDigits value
  match rest with
  | c :: behind =>
    if c = 'u' ∨ c = 'U' then
      (literalOf spelling (if negative then none else Operand.uint64? value), behind)
    else (literalOf spelling (Operand.int64? value), rest)
  | [] => (literalOf spelling (Operand.int64? value), rest)

/-- A number at the front, behind its sign. -/
def readNumber? (negative : Bool) (cs : List Char) : Option (Token × List Char) :=
  match readHex? cs with
  | some (digits, rest) =>
    some (integerLiteral negative
      (digits.foldl (fun n c => n * 16 + (Json.hexValue? c).getD 0) 0) rest)
  | none =>
    let whole := cs.takeWhile Char.isDigit
    let rest := cs.dropWhile Char.isDigit
    let point := readPoint? rest
    let behind := (point.map (·.1)).getD []
    if whole.isEmpty && behind.isEmpty then none
    else
      let rest := (point.map (·.2)).getD rest
      let (power, rest) := Json.readPower rest
      if point.isNone && power.isNone then
        some (integerLiteral negative (Decimal.natOfDigits whole) rest)
      else
        let x := Decimal.floatOfDecimal negative (Decimal.natOfDigits (whole ++ behind))
          (power.getD 0 - behind.length)
        some (.literal (.ok (.double x)), rest)

/-! ## Texts -/

/-- Whether a text is closed by its quote here: by one of them, or by three. -/
def closes (quote : Char) (triple : Bool) (cs : List Char) : Bool :=
  if triple then cs.take 3 = [quote, quote, quote] else cs.head? = some quote

/-- The number of quotes that close a text. -/
def closeWidth (triple : Bool) : Nat := if triple then 3 else 1

/-- A text up to its closing quote: the characters as they are spelled, and the rest.  A backslash
keeps the quote behind it from closing the text, unless no other quote does.  Only a text between
three quotes may hold line ends. -/
def readSpelling? (quote : Char) (triple : Bool) : List Char → Option (List Char × List Char)
  | [] => none
  | c :: cs =>
    if closes quote triple (c :: cs) then some ([], (c :: cs).drop (closeWidth triple))
    else if c = '\n' ∧ !triple then none
    else
      match cs with
      | [] => none
      | d :: ds =>
        if c = '\\' ∧ d = quote then
          match readSpelling? quote triple ds with
          | some (body, rest) => some (c :: d :: body, rest)
          | none =>
            if closes quote triple (d :: ds) then
              some ([c], (d :: ds).drop (closeWidth triple))
            else none
        else (readSpelling? quote triple (d :: ds)).map fun (body, rest) => (c :: body, rest)

/-- The code of `n` hexadecimal digits at the front. -/
def readCode? (n : Nat) (cs : List Char) : Option (Nat × List Char) :=
  let digits := cs.take n
  if digits.length = n ∧ digits.all fun c => (Json.hexValue? c).isSome then
    some (digits.foldl (fun n c => n * 16 + (Json.hexValue? c).getD 0) 0, cs.drop n)
  else none

/-- A piece of a text between quotes. -/
inductive Piece where
  /-- A character by itself. -/
  | char (c : Char)
  /-- A code by an escape. -/
  | code (n : Nat)
  /-- A code by an escape of eight digits. -/
  | longCode (n : Nat)
  /-- An escape of three digits that are not all octal. -/
  | bad
  deriving Inhabited

/-- The character of an escape by a letter. -/
def letterEscape? : Char → Option Char
  | 'a' => some '\x07'
  | 'b' => some '\x08'
  | 'f' => some '\x0c'
  | 'n' => some '\n'
  | 'r' => some '\r'
  | 't' => some '\t'
  | 'v' => some '\x0b'
  | '"' => some '"'
  | '\'' => some '\''
  | '\\' => some '\\'
  | _ => none

/-- An escape at the front, behind its backslash. -/
def readEscape? (cs : List Char) : Option (Piece × List Char) :=
  match cs with
  | [] => none
  | c :: rest =>
    match letterEscape? c with
    | some d => some (.char d, rest)
    | none =>
      if c = 'x' then (readCode? 2 rest).map fun (n, rest) => (.code n, rest)
      else if c = 'u' then (readCode? 4 rest).map fun (n, rest) => (.code n, rest)
      else if c = 'U' then (readCode? 8 rest).map fun (n, rest) => (.longCode n, rest)
      else
        let digits := cs.take 3
        if digits.length = 3 ∧ digits.all Char.isDigit then
          if digits.all fun d => d ≤ '7' then
            some (.code (digits.foldl (fun n d => n * 8 + (d.toNat - 0x30)) 0), cs.drop 3)
          else some (.bad, cs.drop 3)
        else none

/-- The pieces of a text between quotes.  A backslash that starts no escape stands for itself; line
ends are left out. -/
def pieces : Nat → List Char → List Piece
  | 0, _ => []
  | _ + 1, [] => []
  | fuel + 1, c :: cs =>
    if c = '\\' then
      match readEscape? cs with
      | some (piece, rest) => piece :: pieces fuel rest
      | none => .char c :: pieces fuel cs
    else if c = '\n' then pieces fuel cs
    else .char c :: pieces fuel cs

/-- The character of a code.  A code that no character has fails, and a huge one stops. -/
def charOfCode (n : Nat) : Except Stop (Option Char) :=
  if n < 0x110000 then .ok (some (Char.ofNat n))
  else if n < 0x80000000 then .ok none else .error .hugeCode

/-- The character that a piece stands for. -/
def Piece.toChar : Piece → Except Stop (Option Char)
  | .char c => .ok (some c)
  | .code n | .longCode n => charOfCode n
  | .bad => .ok none

/-- The bytes that a piece stands for.  An escape of eight digits stands for none. -/
def Piece.toBytes : Piece → Except Stop (Option (List UInt8))
  | .char c => .ok (some (String.singleton c).toUTF8.toList)
  | .code n => .ok (if n < 256 then some [UInt8.ofNat n] else none)
  | .longCode _ => .error (.byteEscape 10)
  | .bad => .ok none

/-- What all pieces stand for, up to the first that fails or stops. -/
def gather {α : Type} (f : Piece → Except Stop (Option α)) :
    List Piece → Except Stop (Option (List α))
  | [] => .ok (some [])
  | p :: ps =>
    match f p with
    | .error stop => .error stop
    | .ok none => .ok none
    | .ok (some a) => (gather f ps).map fun as => as.map (a :: ·)

/-- The pieces of a spelling. -/
def piecesOf (spelling : List Char) : List Piece := pieces (spelling.length + 1) spelling

/-- How a text is prefixed. -/
structure Marks where
  raw : Bool
  bytes : Bool

/-- The marks before a quote at the front, and what follows them. -/
def readMarks? : List Char → Option (Marks × List Char)
  | b :: r :: q :: cs =>
    let isQuote (c : Char) := c == '"' || c == '\''
    if isQuote b then some (⟨false, false⟩, b :: r :: q :: cs)
    else if isQuote r ∧ (b = 'r' ∨ b = 'R') then some (⟨true, false⟩, r :: q :: cs)
    else if isQuote r ∧ (b = 'b' ∨ b = 'B') then some (⟨false, true⟩, r :: q :: cs)
    else if isQuote q ∧ (b = 'b' ∨ b = 'B') ∧ (r = 'r' ∨ r = 'R') then
      some (⟨true, true⟩, q :: cs)
    else none
  | [q, r] => if q = '"' ∨ q = '\'' then some (⟨false, false⟩, [q, r]) else none
  | _ => none

/-- The bytes of characters, if each of them is one. -/
def rawBytes? (cs : List Char) : Option (List UInt8) :=
  cs.mapM fun c => if c.toNat < 256 then some (UInt8.ofNat c.toNat) else none

/-- The operand of a text between quotes. -/
def textOperand (marks : Marks) (spelling : List Char) : Except Stop (Option Operand) :=
  if marks.bytes then
    if marks.raw then .ok ((rawBytes? spelling).map .bytes)
    else (gather Piece.toBytes (piecesOf spelling)).map fun bs => bs.map fun bs => .bytes bs.flatten
  else if marks.raw then .ok (some (.text (String.ofList spelling)))
  else (gather Piece.toChar (piecesOf spelling)).map fun cs =>
    cs.map fun cs => .text (String.ofList cs)

/-- The literal of a text between quotes. -/
def textLiteral (marks : Marks) (spelling : List Char) : Token :=
  .literal ((textOperand marks spelling).map fun a =>
    a.getD (.failure (.spelling (String.ofList spelling))))

/-- A text at the front. -/
def readText? (cs : List Char) : Option (Token × List Char) :=
  match readMarks? cs with
  | none => none
  | some (marks, body) =>
    match body with
    | [] => none
    | q :: rest =>
      let triple := rest.take 2 = [q, q]
      match if triple then readSpelling? q true (rest.drop 2) else none with
      | some (spelling, rest) => some (textLiteral marks spelling, rest)
      | none =>
        (readSpelling? q false rest).map fun (spelling, rest) =>
          (textLiteral marks spelling, rest)

/-! ## Scanning -/

/-- The literal that a word is where an operand may stand. -/
def wordLiteral? : String → Option Operand
  | "true" => some (.ofBool true)
  | "false" => some (.ofBool false)
  | "null" => some .null
  | _ => none

/-- A word at the front, and the place behind it. -/
def readWord? (p : Place) (cs : List Char) : Option (Token × Place × List Char) :=
  let name := String.ofList (cs.takeWhile inWord)
  let rest := cs.dropWhile inWord
  let named :=
    if name = "true" ∨ name = "false" then none else some (.word name, p.behindOperand, rest)
  match p.expecting with
  | .operand =>
    match wordLiteral? name with
    | some a => some (.literal (.ok a), p.behindOperand, rest)
    | none => some (.word name, p.behindOperand, rest)
  | .operation =>
    (Text.dropLead? ['i', 'n'] cs).map fun rest => (.sign "in", p.behindSign "in", rest)
  | .name => named
  | .field => named

/-- A number at the front where an operand may stand. -/
def readSignedNumber? : List Char → Option (Token × List Char)
  | '-' :: cs => readNumber? true cs
  | cs => readNumber? false cs

/-- The token at the front, and the place behind it. -/
def readOne? (p : Place) (cs : List Char) : Option (Token × Place × List Char) :=
  let operand :=
    if p.expecting = .operand then (readText? cs).or (readSignedNumber? cs) else none
  match operand with
  | some (token, rest) => some (token, p.behindOperand, rest)
  | none =>
    match cs with
    | [] => none
    | c :: _ =>
      if startsWord c then readWord? p cs
      else (readSign? cs).map fun (s, rest) => (.sign s, p.behindSign s, rest)

/-- The tokens of a condition, with gaps and comments left out; none if a character starts no token.
The fuel bounds the number of tokens. -/
def scan (p : Place) : Nat → List Char → Option (List Token)
  | 0, _ => none
  | _ + 1, [] => some []
  | fuel + 1, c :: cs =>
    if isGap c then scan p fuel cs
    else if c = '/' ∧ cs.head? = some '/' then scan p fuel (cs.dropWhile (· ≠ '\n'))
    else
      match readOne? p (c :: cs) with
      | some (token, p, rest) => (scan p fuel rest).map (token :: ·)
      | none => none

/-- The tokens of a text. -/
def ofText? (s : String) : Option (List Token) :=
  let cs := s.toList
  scan ⟨.operand, []⟩ (cs.length + 1) cs

end Token

end Condition

end Remediation
