import Remediation.Json.Reader
import Remediation.Yaml.Mark
/-!
# Scalars of YAML

The texts of scalars in their three forms: quoted, plain, and as blocks.  Within a scalar the end of
a line folds: one end alone reads as a space, and of several the first is left out.  Blocks of the
literal style keep all ends of lines.
-/

set_option autoImplicit false

namespace Remediation.Yaml

/-! ## Quoted -/

/-- The characters of the short escapes. -/
def escapes : List (Char × Char) :=
  [('0', '\x00'), ('a', '\x07'), ('b', '\x08'), ('t', '\t'), ('\t', '\t'), ('n', '\n'), ('v', '\x0b'),
   ('f', '\x0c'), ('r', '\r'), ('e', '\x1b'), (' ', ' '), ('"', '"'), ('\\', '\\'), ('/', '/'),
   ('N', '\x85'), ('_', '\xa0'), ('L', '\u2028'), ('P', '\u2029')]

/-- How many hexadecimal digits follow the letter of an escape by code. -/
def codeWidth? : Char → Option Nat
  | 'x' => some 2
  | 'u' => some 4
  | 'U' => some 8
  | _ => none

/-- The number that hexadecimal digits spell. -/
def codeOf? (digits : List Char) : Option Nat :=
  digits.foldlM (fun n c => (Json.hexValue? c).map (n * 16 + ·)) 0

/-- The character of a code; half of a surrogate pair is replaced. -/
def charOfCode (n : Nat) : Except Refusal Char :=
  if 0x10ffff < n then .error (.code n)
  else if 0xd800 ≤ n ∧ n < 0xe000 then .ok '\ufffd'
  else .ok (Char.ofNat n)

/-- The ends of empty lines at the front, and what is behind the blanks after them. -/
def emptyLines : Nat → List Mark → Except Refusal (List Char × List Mark)
  | 0, _ => .error .malformed
  | fuel + 1, ms =>
    if isDocumentMark ms then .error .malformed
    else
      let ms := dropChars (fun c => c == ' ' || c == '\t') ms
      match lineBreak? ms with
      | none => .ok ([], ms)
      | some (c, rest) =>
        match emptyLines fuel rest with
        | .ok (cs, rest) => .ok (c :: cs, rest)
        | .error e => .error e

/-- What the end of a line reads as, before the ends of empty lines. -/
def fold (lineEnd : Char) (emptyEnds : List Char) : List Char :=
  if lineEnd ≠ '\n' then lineEnd :: emptyEnds
  else if emptyEnds.isEmpty then [' '] else emptyEnds

/-- Blanks within quotes, folded where a line ends. -/
def quotedGap (ms : List Mark) : Except Refusal (List Char × List Mark) :=
  let isBlank := fun c => c == ' ' || c == '\t'
  let behind := dropChars isBlank ms
  if front behind = endChar then .error .malformed
  else
    match lineBreak? behind with
    | none => .ok (spanChars isBlank ms, behind)
    | some (c, rest) =>
      match emptyLines (rest.length + 1) rest with
      | .error e => .error e
      | .ok (ends, rest) => .ok (fold c ends, rest)

/-- An escape behind its backslash. -/
def readEscape (ms : List Mark) : Except Refusal (List Char × List Mark) :=
  let c := front ms
  match escapes.lookup c, codeWidth? c with
  | some d, _ => .ok ([d], ms.drop 1)
  | none, some width =>
    let digits := ((ms.drop 1).take width).map (·.char)
    match codeOf? digits with
    | none => .error .malformed
    | some n =>
      match charOfCode n with
      | .error e => .error e
      | .ok d => .ok ([d], ms.drop (width + 1))
  | none, none =>
    match lineBreak? ms with
    | none => .error .malformed
    | some (_, rest) => emptyLines (rest.length + 1) rest

/-- The text behind an opening quote, and what is behind the closing one. -/
def readQuoted (double : Bool) : Nat → List Mark → Except Refusal (List Char × List Mark)
  | 0, _ => .error .malformed
  | fuel + 1, ms => do
    let quote := if double then '"' else '\''
    let c := front ms
    if c = quote then
      if !double && look 1 ms = quote then
        let (cs, rest) ← readQuoted double fuel (ms.drop 2)
        return (quote :: cs, rest)
      else return ([], ms.drop 1)
    else if isGapOrEnd c then
      let (gap, rest) ← quotedGap ms
      let (cs, rest) ← readQuoted double fuel rest
      return (gap ++ cs, rest)
    else if double && c = '\\' then
      let (part, rest) ← readEscape (ms.drop 1)
      let (cs, rest) ← readQuoted double fuel rest
      return (part ++ cs, rest)
    else
      let (cs, rest) ← readQuoted double fuel (ms.drop 1)
      return (c :: cs, rest)

/-! ## Plain -/

/-- Whether a plain scalar ends before a character; `next` is the one behind it. -/
def endsPlain (inFlow : Bool) (c next : Char) : Bool :=
  isGapOrEnd c ||
    (c == ':' && (isGapOrEnd next || (inFlow && [',', '[', ']', '\x7b', '\x7d'].contains next))) ||
    (inFlow && [',', '?', '[', ']', '\x7b', '\x7d'].contains c)

/-- The characters of a plain scalar up to a blank. -/
def plainWord (inFlow : Bool) : List Mark → List Char × List Mark
  | [] => ([], [])
  | m :: rest =>
    if endsPlain inFlow m.char (front rest) then ([], m :: rest)
    else
      let (cs, behind) := plainWord inFlow rest
      (m.char :: cs, behind)

/-- The ends of empty lines within a plain scalar; none where a document starts or ends behind one of
them. -/
def plainLines : Nat → List Mark → Option (List Char) × List Mark
  | 0, ms => (none, ms)
  | fuel + 1, ms =>
    if front ms = ' ' then plainLines fuel (ms.drop 1)
    else
      match lineBreak? ms with
      | none => (some [], ms)
      | some (c, rest) =>
        if isDocumentMark rest then (none, rest)
        else
          let (ends, behind) := plainLines fuel rest
          (ends.map (c :: ·), behind)

/-- What is between two words of a plain scalar. -/
structure PlainGap where
  /-- How it reads; empty if the scalar ends before it. -/
  text : List Char
  /-- Whether a line ends in it. -/
  broken : Bool
  rest : List Mark
  deriving Inhabited

/-- Blanks behind a word of a plain scalar. -/
def plainGap (ms : List Mark) : PlainGap :=
  let behind := dropChars (· == ' ') ms
  match lineBreak? behind with
  | none => ⟨spanChars (· == ' ') ms, false, behind⟩
  | some (c, rest) =>
    if isDocumentMark rest then ⟨[], true, rest⟩
    else
      match plainLines (rest.length + 1) rest with
      | (none, rest) => ⟨[], true, rest⟩
      | (some ends, rest) => ⟨fold c ends, true, rest⟩

/-- A plain scalar at the front, or no text: the last gap says whether a line ends behind it.  On a
line of its own, a scalar outside of brackets does not stand further left than `indent`. -/
def readPlain (inFlow : Bool) (indent : Int) : Nat → List Mark → List Char × PlainGap
  | 0, ms => ([], ⟨[], false, ms⟩)
  | fuel + 1, ms =>
    match plainWord inFlow ms with
    | ([], rest) => ([], ⟨[], false, rest⟩)
    | (word, rest) =>
      let gap := plainGap rest
      if gap.text.isEmpty || front gap.rest = '#' || (!inFlow && (column gap.rest : Int) < indent) then
        (word, gap)
      else
        match readPlain inFlow indent fuel gap.rest with
        | ([], _) => (word, gap)
        | (more, last) => (word ++ gap.text ++ more, last)

/-! ## Blocks -/

/-- What becomes of the ends of the last lines of a block. -/
inductive Chomp where
  /-- The last line keeps its end. -/
  | clip
  /-- No end is kept. -/
  | strip
  /-- All ends are kept. -/
  | keep
  deriving DecidableEq, Repr, Inhabited

/-- A sign that says what becomes of the last ends. -/
def readChomp? (ms : List Mark) : Option (Chomp × List Mark) :=
  if front ms = '+' then some (.keep, ms.drop 1)
  else if front ms = '-' then some (.strip, ms.drop 1)
  else none

/-- A digit that says how far the block is moved in. -/
def readIndentation? (ms : List Mark) : Except Refusal (Option (Nat × List Mark)) :=
  let c := front ms
  if c = '0' then .error .malformed
  else if c.isDigit then .ok (some (c.toNat - 0x30, ms.drop 1))
  else .ok none

/-- The header of a block: what becomes of the last ends and how far the block is moved in, in either
order. -/
def readHeader (ms : List Mark) : Except Refusal (Chomp × Option Nat × List Mark) := do
  let (chomp, step, ms) ←
    match readChomp? ms with
    | some (chomp, rest) =>
      match ← readIndentation? rest with
      | some (n, rest) => pure (chomp, some n, rest)
      | none => pure (chomp, none, rest)
    | none =>
      match ← readIndentation? ms with
      | some (n, rest) =>
        match readChomp? rest with
        | some (chomp, rest) => pure (chomp, some n, rest)
        | none => pure (.clip, some n, rest)
      | none => pure (.clip, none, ms)
  if isSpaceOrEnd (front ms) then return (chomp, step, ← restOfLine ms) else throw .malformed

/-- Behind the spaces of a line up to a column. -/
def dropIndent (indent : Nat) : List Mark → List Mark
  | [] => []
  | m :: rest =>
    if m.char = ' ' ∧ m.column < indent then dropIndent indent rest else m :: rest

/-- The ends of lines that hold nothing but spaces up to a column, and what is behind the spaces of
the next line. -/
def blockBreaks (indent : Nat) : Nat → List Mark → List Char × List Mark
  | 0, ms => ([], ms)
  | fuel + 1, ms =>
    let ms := dropIndent indent ms
    match lineBreak? ms with
    | none => ([], ms)
    | some (c, rest) =>
      let (cs, behind) := blockBreaks indent fuel rest
      (c :: cs, behind)

/-- The ends of the blank lines in front of a block, the column of its first text or further right
spaces before it, and what is behind them. -/
def blockLead (deepest : Nat) : Nat → List Mark → List Char × Nat × List Mark
  | 0, ms => ([], deepest, ms)
  | fuel + 1, ms =>
    if front ms = ' ' then blockLead (max deepest (column ms + 1)) fuel (ms.drop 1)
    else
      match lineBreak? ms with
      | none => ([], deepest, ms)
      | some (c, rest) =>
        let (cs, deepest, behind) := blockLead deepest fuel rest
        (c :: cs, deepest, behind)

/-- The lines of a block, apart from the ends of its last lines. -/
structure BlockLines where
  text : List Char
  /-- The end of the last line. -/
  lastEnd : List Char
  /-- The ends of the empty lines behind it. -/
  emptyEnds : List Char
  rest : List Mark
  deriving Inhabited

/-- The lines of a block behind the ends of some empty lines. -/
def blockLines (folded : Bool) (indent : Nat) (before : List Char) : Nat → List Mark → BlockLines
  | 0, ms => ⟨[], [], before, ms⟩
  | fuel + 1, ms =>
    let inBlock (ms : List Mark) := column ms = indent && front ms ≠ endChar
    let isBlank (ms : List Mark) := front ms = ' ' || front ms = '\t'
    if inBlock ms then
      let line := spanChars (!isLineEnd ·) ms
      let behind := dropChars (!isLineEnd ·) ms
      let (lineEnd, rest) : List Char × List Mark :=
        match lineBreak? behind with
        | some (c, rest) => ([c], rest)
        | none => ([], behind)
      let (ends, rest) := blockBreaks indent (rest.length + 1) rest
      if inBlock rest then
        let gap : List Char :=
          if folded && lineEnd = ['\n'] && !isBlank ms && !isBlank rest then
            if ends.isEmpty then [' '] else []
          else lineEnd
        let more := blockLines folded indent ends fuel rest
        { more with text := before ++ line ++ gap ++ more.text }
      else ⟨before ++ line, lineEnd, ends, rest⟩
    else ⟨[], [], before, ms⟩

/-- A block behind its indicator, within a block that is moved in to `indent`. -/
def readBlock (folded : Bool) (indent : Int) (ms : List Mark) :
    Except Refusal (List Char × List Mark) :=
  match readHeader ms with
  | .error e => .error e
  | .ok (chomp, step, ms) =>
    let least := max 1 (indent + 1).toNat
    let fuel := ms.length + 1
    let (depth, ends, ms) : Nat × List Char × List Mark :=
      match step with
      | none =>
        let (ends, deepest, rest) := blockLead 0 fuel ms
        (max least deepest, ends, rest)
      | some n =>
        let depth := least + n - 1
        let (ends, rest) := blockBreaks depth fuel ms
        (depth, ends, rest)
    let lines := blockLines folded depth ends fuel ms
    let tail :=
      match chomp with
      | .clip => lines.lastEnd
      | .strip => []
      | .keep => lines.lastEnd ++ lines.emptyEnds
    .ok (lines.text ++ tail, lines.rest)

end Remediation.Yaml
