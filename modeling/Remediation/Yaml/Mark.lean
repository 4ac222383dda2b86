import Remediation.Text.Split
/-!
# Marked characters

The layout of a YAML document means something, so its characters are read with their places: index,
line and column.  A text is marked once (`marks`), and every reader then takes characters from the
front of the marked text.  A null character marks the end of the text, which holds no other one.
-/

set_option autoImplicit false

namespace Remediation.Yaml

/-- A character and its place. -/
structure Mark where
  char : Char
  /-- The number of characters before it. -/
  index : Nat
  line : Nat
  /-- The number of characters before it on its line. -/
  column : Nat
  deriving DecidableEq, Repr, Inhabited

/-- Why a text cannot be read. -/
inductive Refusal where
  /-- The text does not follow the grammar. -/
  | malformed
  /-- An escape names a code that no character has. -/
  | code (n : Nat)
  deriving DecidableEq, Repr, Inhabited

/-- The mark of the end. -/
def endChar : Char := '\x00'

/-- A character that ends a line. -/
def isBreak (c : Char) : Bool :=
  c == '\n' || c == '\r' || c == '\x85' || c == '\u2028' || c == '\u2029'

/-- The end of a line or of the text. -/
def isLineEnd (c : Char) : Bool := c == endChar || isBreak c

/-- A space, or the end of a line or of the text. -/
def isSpaceOrEnd (c : Char) : Bool := c == ' ' || isLineEnd c

/-- A space or a tab, or the end of a line or of the text. -/
def isGapOrEnd (c : Char) : Bool := c == '\t' || isSpaceOrEnd c

/-- Whether the next character stands on a new line. -/
def breaksLine (c : Char) (behind : List Char) : Bool :=
  if c == '\r' then behind.head? != some '\n' else isBreak c

/-- A text with the places of its characters, the first of which stands at the given place.  A byte
order mark takes no column. -/
def marksFrom (index line column : Nat) : List Char → List Mark
  | [] => [⟨endChar, index, line, column⟩]
  | c :: cs =>
    ⟨c, index, line, column⟩ ::
      if breaksLine c cs then marksFrom (index + 1) (line + 1) 0 cs
      else marksFrom (index + 1) line (if c == '\ufeff' then column else column + 1) cs

/-- A text with the places of its characters. -/
def marks (cs : List Char) : List Mark := marksFrom 0 0 0 cs

/-- The character at a distance from the front. -/
def look (n : Nat) (ms : List Mark) : Char :=
  match ms[n]? with
  | some m => m.char
  | none => endChar

/-- The character at the front. -/
def front (ms : List Mark) : Char :=
  match ms with
  | m :: _ => m.char
  | [] => endChar

/-- The column at the front. -/
def column (ms : List Mark) : Nat :=
  match ms with
  | m :: _ => m.column
  | [] => 0

/-- The characters at the front that belong to a class. -/
def spanChars (p : Char → Bool) (ms : List Mark) : List Char :=
  (ms.takeWhile fun m => p m.char).map (·.char)

/-- What is behind the characters at the front that belong to a class. -/
def dropChars (p : Char → Bool) (ms : List Mark) : List Mark := ms.dropWhile fun m => p m.char

/-- The end of a line at the front and what is behind it: every end reads as a line feed, save for
the separators of lines and of paragraphs. -/
def lineBreak? (ms : List Mark) : Option (Char × List Mark) :=
  match ms with
  | m :: rest =>
    if m.char = '\r' then
      match rest with
      | n :: behind => if n.char = '\n' then some ('\n', behind) else some ('\n', rest)
      | [] => some ('\n', [])
    else if m.char = '\n' ∨ m.char = '\x85' then some ('\n', rest)
    else if m.char = '\u2028' ∨ m.char = '\u2029' then some (m.char, rest)
    else none
  | [] => none

/-- Behind the end of a line at the front, if there is one. -/
def skipLineBreak (ms : List Mark) : List Mark :=
  match lineBreak? ms with
  | some (_, rest) => rest
  | none => ms

/-- Whether a mark of the start or the end of a document is at the front. -/
def isDocumentMark (ms : List Mark) : Bool :=
  let three := [look 0 ms, look 1 ms, look 2 ms]
  (three == ['-', '-', '-'] || three == ['.', '.', '.']) && isGapOrEnd (look 3 ms)

/-- Behind spaces and a comment; the rest of the line has to be empty. -/
def restOfLine (ms : List Mark) : Except Refusal (List Mark) :=
  let ms := dropChars (· == ' ') ms
  let ms := if front ms = '#' then dropChars (!isLineEnd ·) ms else ms
  if isLineEnd (front ms) then .ok (skipLineBreak ms) else .error .malformed

/-- A character that documents may hold. -/
def isAllowed (c : Char) : Bool :=
  let n := c.toNat
  n == 9 || n == 10 || n == 13 || (0x20 ≤ n && n ≤ 0x7e) || n == 0x85 || (0xa0 ≤ n && n ≤ 0xd7ff) ||
    (0xe000 ≤ n && n ≤ 0xfffd) || 0x10000 ≤ n

end Remediation.Yaml
