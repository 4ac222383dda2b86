import Remediation.Text.Utf8
import Remediation.Yaml.Scalar
/-!
# Tokens of YAML

What a document is made of below its nodes, with the readers of names: anchors, aliases, tags and
directives.
-/

set_option autoImplicit false

namespace Remediation.Yaml

/-- A tag as it is spelled: a handle that stands for a beginning, unless the tag is verbatim, and the
rest. -/
structure TagName where
  handle : Option String
  suffix : String
  deriving DecidableEq, Repr, Inhabited

/-- An instruction in front of a document. -/
inductive Directive where
  /-- The version of the language; only the first number counts. -/
  | version (major : Nat)
  /-- What a handle stands for. -/
  | tag (handle start : String)
  /-- Any other instruction says nothing. -/
  | other
  deriving DecidableEq, Repr, Inhabited

/-- A token. -/
inductive Token where
  | directive (d : Directive)
  | documentStart
  | documentEnd
  | blockSequence
  | blockMapping
  | blockEnd
  | flowSequence
  | flowSequenceEnd
  | flowMapping
  | flowMappingEnd
  /-- The hyphen before an item. -/
  | item
  /-- The comma between items in brackets. -/
  | comma
  /-- What precedes a key; often nothing that is written. -/
  | key
  /-- The colon before a value. -/
  | value
  | alias (name : String)
  | anchor (name : String)
  | tag (name : TagName)
  | scalar (isPlain : Bool) (text : String)
  deriving DecidableEq, Repr, Inhabited

/-- A character of a name. -/
def isNameChar (c : Char) : Bool := c.isAlphanum || c == '-' || c == '_'

/-- A character of a tag or of what a handle stands for. -/
def isTagChar (c : Char) : Bool := c.isAlphanum || "-;/?:@&=+$,_.!~*'()[]%".contains c

/-- The name of an anchor or an alias. -/
def readName (ms : List Mark) : Except Refusal (String × List Mark) :=
  let name := spanChars isNameChar ms
  let rest := dropChars isNameChar ms
  let c := front rest
  if name.isEmpty || !(isGapOrEnd c || "?:,]\x7d%@`".contains c) then .error .malformed
  else .ok (String.ofList name, rest)

/-- The byte of two hexadecimal digits behind a percent sign. -/
def readByte? (ms : List Mark) : Option (UInt8 × List Mark) :=
  match ms with
  | p :: a :: b :: rest =>
    if p.char = '%' then
      (codeOf? [a.char, b.char]).map fun n => (UInt8.ofNat n, rest)
    else none
  | _ => none

/-- The bytes of a run of percent signs. -/
def readBytes : Nat → List Mark → Except Refusal (List UInt8 × List Mark)
  | 0, _ => .error .malformed
  | fuel + 1, ms =>
    if front ms = '%' then
      match readByte? ms with
      | none => .error .malformed
      | some (b, rest) =>
        match readBytes fuel rest with
        | .ok (bs, rest) => .ok (b :: bs, rest)
        | .error e => .error e
    else .ok ([], ms)

/-- The characters of a tag; bytes behind percent signs encode characters. -/
def readTagChars : Nat → List Mark → Except Refusal (List Char × List Mark)
  | 0, _ => .error .malformed
  | fuel + 1, ms =>
    if front ms = '%' then
      match readBytes (ms.length + 1) ms with
      | .error e => .error e
      | .ok (bytes, rest) =>
        match Text.decodeUtf8 bytes with
        | .error _ => .error .malformed
        | .ok s =>
          match readTagChars fuel rest with
          | .ok (cs, rest) => .ok (s.toList ++ cs, rest)
          | .error e => .error e
    else if isTagChar (front ms) then
      match readTagChars fuel (ms.drop 1) with
      | .ok (cs, rest) => .ok (front ms :: cs, rest)
      | .error e => .error e
    else .ok ([], ms)

/-- The characters of a tag, of which there has to be one. -/
def readTagText (ms : List Mark) : Except Refusal (String × List Mark) :=
  if isTagChar (front ms) then
    match readTagChars (ms.length + 1) ms with
    | .ok (cs, rest) => .ok (String.ofList cs, rest)
    | .error e => .error e
  else .error .malformed

/-- A handle: an exclamation mark, or a name between two. -/
def readHandle (ms : List Mark) : Except Refusal (String × List Mark) :=
  if front ms ≠ '!' then .error .malformed
  else if look 1 ms = ' ' then .ok ("!", ms.drop 1)
  else
    let name := spanChars isNameChar (ms.drop 1)
    let rest := dropChars isNameChar (ms.drop 1)
    if front rest = '!' then .ok (String.ofList ('!' :: name ++ ['!']), rest.drop 1)
    else .error .malformed

/-- A tag at its exclamation mark. -/
def readTag (ms : List Mark) : Except Refusal (TagName × List Mark) := do
  let c := look 1 ms
  let (name, rest) ←
    if c = '<' then do
      let (s, rest) ← readTagText (ms.drop 2)
      if front rest = '>' then pure (TagName.mk none s, rest.drop 1) else throw Refusal.malformed
    else if isGapOrEnd c then pure (TagName.mk none "!", ms.drop 1)
    else if (spanChars (!isSpaceOrEnd ·) (ms.drop 1)).contains '!' then do
      let (handle, rest) ← readHandle ms
      let (s, rest) ← readTagText rest
      pure (TagName.mk (some handle) s, rest)
    else do
      let (s, rest) ← readTagText (ms.drop 1)
      pure (TagName.mk (some "!") s, rest)
  if isSpaceOrEnd (front rest) then return (name, rest) else throw .malformed

/-- A number of ASCII digits. -/
def readNumber (ms : List Mark) : Except Refusal (Nat × List Mark) :=
  let digits := spanChars Char.isDigit ms
  if digits.isEmpty then .error .malformed
  else .ok (Decimal.natOfDigits digits, dropChars Char.isDigit ms)

/-- What an instruction of a name says. -/
def readInstruction (name : String) (ms : List Mark) : Except Refusal (Directive × List Mark) := do
  let spaceless (ms : List Mark) := dropChars (· == ' ') ms
  match name with
  | "YAML" =>
    let (major, rest) ← readNumber (spaceless ms)
    if front rest ≠ '.' then throw .malformed
    let (_, rest) ← readNumber (rest.drop 1)
    if isSpaceOrEnd (front rest) then return (.version major, rest) else throw .malformed
  | "TAG" =>
    let (handle, rest) ← readHandle (spaceless ms)
    if front rest ≠ ' ' then throw .malformed
    let (start, rest) ← readTagText (spaceless rest)
    if isSpaceOrEnd (front rest) then return (.tag handle start, rest) else throw .malformed
  | _ => return (.other, dropChars (!isLineEnd ·) ms)

/-- An instruction behind its percent sign, with the rest of its line. -/
def readDirective (ms : List Mark) : Except Refusal (Directive × List Mark) := do
  let name := spanChars isNameChar ms
  let rest := dropChars isNameChar ms
  if name.isEmpty || !isSpaceOrEnd (front rest) then throw .malformed
  let (d, rest) ← readInstruction (String.ofList name) rest
  return (d, ← restOfLine rest)

end Remediation.Yaml
