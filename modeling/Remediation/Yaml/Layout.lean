import Remediation.Yaml.Token
/-!
# The layout of YAML documents

Outside of brackets, the columns of items and keys say what belongs together.  The layout keeps the
columns of the blocks that are open, opens a block where an item or a key stands further right, and
closes blocks where something stands further left.

A key is written like any other node and turns out to be one by the colon behind it.  So where a node
may be a key, its place is kept, and the token of the key is put there when the colon is met.  The
colon has to come on the same line and within 1024 characters.
-/

set_option autoImplicit false

namespace Remediation.Yaml

/-- The place of a node that may be a key. -/
structure KeyPlace where
  /-- The number of tokens before it. -/
  tokens : Nat
  /-- Whether it can be nothing else. -/
  required : Bool
  index : Nat
  line : Nat
  column : Nat
  deriving DecidableEq, Repr, Inhabited

/-- The layout of what has been read. -/
structure Layout where
  tokens : Array Token
  /-- How many brackets are open. -/
  flow : Nat
  /-- The column of the innermost block; one left of the text if there is none. -/
  indent : Int
  /-- The columns of the blocks around it, the nearest first. -/
  outer : List Int
  /-- Whether a key may stand here. -/
  keyAllowed : Bool
  /-- The nodes that may be keys, by the number of brackets around them. -/
  keys : List (Nat × KeyPlace)
  deriving Inhabited

namespace Layout

/-- Nothing has been read. -/
def start : Layout := ⟨#[], 0, -1, [], true, []⟩

/-- Add a token. -/
def push (l : Layout) (t : Token) : Layout := { l with tokens := l.tokens.push t }

/-- Whether a key may have been passed by. -/
def isStale (m : Mark) (k : KeyPlace) : Bool := k.line != m.line || k.index + 1024 < m.index

/-- Forget the nodes that can be no keys any more; one that has to be a key refuses the text. -/
def dropStale (l : Layout) (m : Mark) : Except Refusal Layout :=
  if l.keys.any fun (_, k) => isStale m k && k.required then .error .malformed
  else .ok { l with keys := l.keys.filter fun (_, k) => !isStale m k }

/-- Forget the node that may be a key within the brackets that are open. -/
def dropKey (l : Layout) : Except Refusal Layout :=
  if l.keys.any fun (flow, k) => flow == l.flow && k.required then .error .malformed
  else .ok { l with keys := l.keys.filter fun (flow, _) => flow != l.flow }

/-- Keep the place of a node that may be a key. -/
def saveKey (l : Layout) (m : Mark) : Except Refusal Layout :=
  if l.keyAllowed then
    l.dropKey.map fun l =>
      let required := l.flow == 0 && l.indent == (m.column : Int)
      { l with keys := (l.flow, ⟨l.tokens.size, required, m.index, m.line, m.column⟩) :: l.keys }
  else .ok l

/-- Close the blocks that stand right of a column. -/
def closeBlocks (column : Int) (tokens : Array Token) (indent : Int) :
    List Int → Array Token × Int × List Int
  | [] => (tokens, indent, [])
  | above :: outer =>
    if column < indent then closeBlocks column (tokens.push .blockEnd) above outer
    else (tokens, indent, above :: outer)

/-- Close the blocks that stand right of a column; brackets have no columns. -/
def unwind (l : Layout) (column : Int) : Layout :=
  if l.flow ≠ 0 then l
  else
    let (tokens, indent, outer) := closeBlocks column l.tokens l.indent l.outer
    { l with tokens := tokens, indent := indent, outer := outer }

/-- Open a block at a column, if it is right of the innermost one: its token goes to the given
place. -/
def openBlock (l : Layout) (column : Nat) (place : Nat) (t : Token) : Layout :=
  if l.indent < (column : Int) then
    { l with
      indent := column
      outer := l.indent :: l.outer
      tokens := l.tokens.insertIdxIfInBounds place t }
  else l

/-- Open a block for an item or a key of its own, where one may stand. -/
def openEntry (l : Layout) (m : Mark) (t : Token) : Except Refusal Layout :=
  if l.flow ≠ 0 then .ok l
  else if l.keyAllowed then .ok (l.openBlock m.column l.tokens.size t)
  else .error .malformed

/-- A mark or an instruction that stands outside of all nodes. -/
def outside (l : Layout) (t : Token) : Except Refusal Layout :=
  (l.unwind (-1)).dropKey.map fun l => { l with keyAllowed := false }.push t

/-- A node begins that may be a key, and with it a token behind which no key may stand. -/
def node (l : Layout) (m : Mark) (t : Token) : Except Refusal Layout :=
  (l.saveKey m).map fun l => { l with keyAllowed := false }.push t

/-- An opening bracket. -/
def openBracket (l : Layout) (m : Mark) (t : Token) : Except Refusal Layout :=
  (l.saveKey m).map fun l => { l with flow := l.flow + 1, keyAllowed := true }.push t

/-- A closing bracket; there has to be one to close. -/
def closeBracket (l : Layout) (t : Token) : Except Refusal Layout :=
  match l.flow with
  | 0 => .error .malformed
  | flow + 1 => l.dropKey.map fun l => { l with flow := flow, keyAllowed := false }.push t

/-- The comma between items in brackets. -/
def comma (l : Layout) : Except Refusal Layout :=
  l.dropKey.map fun l => { l with keyAllowed := true }.push .comma

/-- The hyphen before an item. -/
def item (l : Layout) (m : Mark) : Except Refusal Layout :=
  match l.openEntry m .blockSequence with
  | .error e => .error e
  | .ok l => ({ l with keyAllowed := true }.dropKey).map fun l : Layout => l.push .item

/-- The question mark before a key. -/
def key (l : Layout) (m : Mark) : Except Refusal Layout :=
  match l.openEntry m .blockMapping with
  | .error e => .error e
  | .ok l => ({ l with keyAllowed := l.flow == 0 }.dropKey).map fun l : Layout => l.push .key

/-- The colon before a value: the node before it becomes a key, if it may be one. -/
def value (l : Layout) (m : Mark) : Except Refusal Layout :=
  match l.keys.lookup l.flow with
  | some k =>
    let l := { l with
      keys := l.keys.filter fun (flow, _) => flow != l.flow
      tokens := l.tokens.insertIdxIfInBounds k.tokens .key
      keyAllowed := false }
    let l := if l.flow = 0 then l.openBlock k.column k.tokens .blockMapping else l
    .ok (l.push .value)
  | none =>
    match l.openEntry m .blockMapping with
    | .error e => .error e
    | .ok l => ({ l with keyAllowed := l.flow == 0 }.dropKey).map fun l : Layout => l.push .value

/-- A block of text; a key may follow on the next line. -/
def block (l : Layout) (t : Token) : Except Refusal Layout :=
  ({ l with keyAllowed := true }.dropKey).map fun l : Layout => l.push t

end Layout

/-- Behind spaces, comments and ends of lines; and whether a line has ended. -/
def skipGap (broken : Bool) : Nat → List Mark → Bool × List Mark
  | 0, ms => (broken, ms)
  | fuel + 1, ms =>
    let ms := dropChars (· == ' ') ms
    let ms := if front ms = '#' then dropChars (!isLineEnd ·) ms else ms
    match lineBreak? ms with
    | some (_, rest) => skipGap true fuel rest
    | none => (broken, ms)

/-- Whether a plain scalar may begin with a character; `next` is the one behind it. -/
def startsPlain (inFlow : Bool) (c next : Char) : Bool :=
  !(isGapOrEnd c || "-?:,[]\x7b\x7d#&*!|>'\"%@`".contains c) ||
    (!isGapOrEnd next && (c == '-' || (!inFlow && (c == '?' || c == ':'))))

/-- The layout and what is behind it. -/
abbrev LayoutStep := Except Refusal (Layout × List Mark)

/-- A quoted text. -/
def quotedToken (double : Bool) (l : Layout) (m : Mark) (rest : List Mark) : LayoutStep := do
  let (cs, rest) ← readQuoted double (rest.length + 1) rest
  return (← l.node m (.scalar false (String.ofList cs)), rest)

/-- A block of text. -/
def blockToken (folded : Bool) (l : Layout) (rest : List Mark) : LayoutStep := do
  let (cs, rest) ← readBlock folded l.indent rest
  return (← l.block (.scalar false (String.ofList cs)), rest)

/-- A plain text. -/
def plainToken (l : Layout) (m : Mark) (ms : List Mark) : LayoutStep := do
  let l ← l.saveKey m
  let (cs, gap) := readPlain (l.flow != 0) (l.indent + 1) (ms.length + 1) ms
  return ({ l with keyAllowed := gap.broken }.push (.scalar true (String.ofList cs)), gap.rest)

/-- The token at the front, where a character stands that is no gap. -/
def nextToken (l : Layout) (m : Mark) (rest : List Mark) : LayoutStep :=
  let ms := m :: rest
  let c := m.char
  let next := front rest
  let inFlow := l.flow != 0
  if c = '%' ∧ m.column = 0 then do
    let (d, rest) ← readDirective rest
    return (← l.outside (.directive d), rest)
  else if m.column = 0 ∧ isDocumentMark ms then do
    return (← l.outside (if c = '-' then .documentStart else .documentEnd), rest.drop 2)
  else if c = '[' then (l.openBracket m .flowSequence).map fun l => (l, rest)
  else if c = '\x7b' then (l.openBracket m .flowMapping).map fun l => (l, rest)
  else if c = ']' then (l.closeBracket .flowSequenceEnd).map fun l => (l, rest)
  else if c = '\x7d' then (l.closeBracket .flowMappingEnd).map fun l => (l, rest)
  else if c = ',' then l.comma.map fun l => (l, rest)
  else if c = '-' ∧ isGapOrEnd next then (l.item m).map fun l => (l, rest)
  else if c = '?' ∧ (inFlow ∨ isGapOrEnd next) then (l.key m).map fun l => (l, rest)
  else if c = ':' ∧ (inFlow ∨ isGapOrEnd next) then (l.value m).map fun l => (l, rest)
  else if c = '*' then do
    let (name, rest) ← readName rest
    return (← l.node m (.alias name), rest)
  else if c = '&' then do
    let (name, rest) ← readName rest
    return (← l.node m (.anchor name), rest)
  else if c = '!' then do
    let (name, rest) ← readTag ms
    return (← l.node m (.tag name), rest)
  else if c = '|' ∧ !inFlow then blockToken false l rest
  else if c = '>' ∧ !inFlow then blockToken true l rest
  else if c = '\'' then quotedToken false l m rest
  else if c = '"' then quotedToken true l m rest
  else if startsPlain inFlow c next then plainToken l m ms
  else .error .malformed

/-- Add the tokens of a text to a layout. -/
def readTokens (l : Layout) : Nat → List Mark → Except Refusal (List Token)
  | 0, _ => .error .malformed
  | fuel + 1, ms =>
    let (broken, ms) := skipGap false (ms.length + 1) ms
    let l := if broken ∧ l.flow = 0 then { l with keyAllowed := true } else l
    match ms with
    | [] => .error .malformed
    | m :: rest =>
      match l.dropStale m with
      | .error e => .error e
      | .ok l =>
        let l := l.unwind m.column
        if m.char = endChar then
          (l.unwind (-1)).dropKey.map fun l => l.tokens.toList
        else
          match nextToken l m rest with
          | .error e => .error e
          | .ok (l, rest) => readTokens l fuel rest

/-- Leave out a byte order mark at the front. -/
def skipOrderMark (ms : List Mark) : List Mark := if front ms = '\ufeff' then ms.drop 1 else ms

/-- The tokens of a text. -/
def tokens (s : String) : Except Refusal (List Token) :=
  let cs := s.toList
  if cs.all isAllowed then
    let ms := marks cs
    readTokens .start (ms.length + 1) (skipOrderMark ms)
  else .error .malformed

end Remediation.Yaml
