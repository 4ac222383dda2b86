import Remediation.Decimal.Digits
import Remediation.Json.Reader
import Remediation.LinearPattern
import Remediation.Text.Category
import Remediation.Text.Script
/-!
# Reading linear patterns

The text of a pattern is read from the left.  What stands last may be repeated once, and flags that are
set between parentheses hold up to the end of the group they stand in.
-/

set_option autoImplicit false

namespace Remediation

namespace LinearPattern

/-! ## Flags -/

/-- The flags that hold at a place of a pattern. -/
structure Flags where
  /-- Characters stand for their variants as well. -/
  fold : Bool
  /-- Lines have borders. -/
  lines : Bool
  /-- A point stands for line ends as well. -/
  lineEnds : Bool
  deriving DecidableEq, Repr, Inhabited

/-- A set with the variants of its codes, if characters stand for them. -/
def Flags.widen (flags : Flags) (set : CodeSet) : CodeSet := if flags.fold then .folded set else set

/-- A set that is negated or not. -/
def signed (negated : Bool) (set : CodeSet) : CodeSet := if negated then .complement set else set

/-! ## Classes -/

/-- The class of an escape by one letter. -/
def letterClass? : Char → Option CodeSet
  | 'd' => some (.runs [(0x30, 0x39)])
  | 's' => some (.runs [(0x9, 0xa), (0xc, 0xd), (0x20, 0x20)])
  | 'w' => some (.runs [(0x30, 0x39), (0x41, 0x5a), (0x5f, 0x5f), (0x61, 0x7a)])
  | _ => none

/-- The classes of ASCII that are written by name inside of a set. -/
def namedClass? : String → Option CodeSet
  | "alnum" => some (.runs [(0x30, 0x39), (0x41, 0x5a), (0x61, 0x7a)])
  | "alpha" => some (.runs [(0x41, 0x5a), (0x61, 0x7a)])
  | "ascii" => some (.runs [(0, 0x7f)])
  | "blank" => some (.runs [(0x9, 0x9), (0x20, 0x20)])
  | "cntrl" => some (.runs [(0, 0x1f), (0x7f, 0x7f)])
  | "digit" => some (.runs [(0x30, 0x39)])
  | "graph" => some (.runs [(0x21, 0x7e)])
  | "lower" => some (.runs [(0x61, 0x7a)])
  | "print" => some (.runs [(0x20, 0x7e)])
  | "punct" => some (.runs [(0x21, 0x2f), (0x3a, 0x40), (0x5b, 0x60), (0x7b, 0x7e)])
  | "space" => some (.runs [(0x9, 0xd), (0x20, 0x20)])
  | "upper" => some (.runs [(0x41, 0x5a)])
  | "word" => some (.runs [(0x30, 0x39), (0x41, 0x5a), (0x5f, 0x5f), (0x61, 0x7a)])
  | "xdigit" => some (.runs [(0x30, 0x39), (0x41, 0x46), (0x61, 0x66)])
  | _ => none

/-- The class of all characters, of a category or of a script. -/
def property? (name : String) : Option CodeSet :=
  if name = "Any" then some (.range 0 0x10ffff)
  else ((Text.category? name).or (Text.script? name)).map .runs

/-- The class of a name in front of which a caret may negate it. -/
def signedClass? (find : String → Option CodeSet) (flags : Flags) (negated : Bool)
    (name : List Char) : Option CodeSet :=
  let (negated, name) :=
    match name with
    | '^' :: name => (!negated, name)
    | name => (negated, name)
  (find (String.ofList name)).map fun set => signed negated (flags.widen set)

/-- The text up to a closing character, and what stands behind that. -/
def cutAt? (close : Char) : List Char → Option (List Char × List Char)
  | [] => none
  | c :: cs => if c = close then some ([], cs) else (cutAt? close cs).map fun (a, b) => (c :: a, b)

/-- The class of a property behind its letter, and what stands behind it. -/
def readProperty (flags : Flags) (negated : Bool) (cs : List Char) :
    Option (CodeSet × List Char) :=
  match cs with
  | [] => none
  | '\x7b' :: cs =>
    (cutAt? '\x7d' cs).bind fun (name, rest) =>
      (signedClass? property? flags negated name).map fun set => (set, rest)
  | c :: rest => (signedClass? property? flags negated [c]).map fun set => (set, rest)

/-- The class at the front of a text that is an escape, and what stands behind it; nothing if the
escape is none of a class, and a fault if it is one of no known class. -/
def readClass? (flags : Flags) (cs : List Char) : Option (Option (CodeSet × List Char)) :=
  match cs with
  | '\\' :: 'p' :: cs => some (readProperty flags false cs)
  | '\\' :: 'P' :: cs => some (readProperty flags true cs)
  | '\\' :: c :: cs =>
    (letterClass? c.toLower).map fun set => some (signed c.isUpper (flags.widen set), cs)
  | _ => none

/-! ## Escapes -/

/-- Whether a character is an octal digit. -/
def isOctalDigit (c : Char) : Bool := '0' ≤ c && c ≤ '7'

/-- The number of digits. -/
def digitsNumber (base : Nat) (digits : List Char) : Nat :=
  digits.foldl (fun n c => n * base + (Json.hexValue? c).getD 0) 0

/-- The code of an escape in hexadecimal behind its letter, and what stands behind it. -/
def readHexEscape : List Char → Option (Nat × List Char)
  | '\x7b' :: cs =>
    (cutAt? '\x7d' cs).bind fun (digits, rest) =>
      let code := digitsNumber 16 digits
      if !digits.isEmpty ∧ digits.all (fun c => (Json.hexValue? c).isSome) ∧ code ≤ 0x10ffff then
        some (code, rest)
      else none
  | a :: b :: rest =>
    if (Json.hexValue? a).isSome ∧ (Json.hexValue? b).isSome then
      some (digitsNumber 16 [a, b], rest)
    else none
  | _ => none

/-- The code of an escape behind its backslash, and what stands behind it. -/
def readEscape : List Char → Option (Nat × List Char)
  | [] => none
  | c :: cs =>
    if isOctalDigit c then
      let more := (cs.take 2).takeWhile isOctalDigit
      if c ≠ '0' ∧ more.isEmpty then none
      else some (digitsNumber 8 (c :: more), cs.drop more.length)
    else
      match c with
      | 'x' => readHexEscape cs
      | 'a' => some (0x7, cs)
      | 'f' => some (0xc, cs)
      | 'n' => some (0xa, cs)
      | 'r' => some (0xd, cs)
      | 't' => some (0x9, cs)
      | 'v' => some (0xb, cs)
      | c => if c.toNat < 0x80 ∧ !c.isAlphanum then some (c.toNat, cs) else none

/-! ## Sets -/

/-- The code at the front of a set, and what stands behind it. -/
def readSetCode : List Char → Option (Nat × List Char)
  | [] => none
  | '\\' :: cs => readEscape cs
  | c :: cs => some (c.toNat, cs)

/-- A code or a range of codes at the front of a set, and what stands behind it. -/
def readSetRange (cs : List Char) : Option (CodeSet × List Char) :=
  match readSetCode cs with
  | none => none
  | some (first, '-' :: c :: rest) =>
    if c = ']' then some (.one first, '-' :: c :: rest)
    else
      (readSetCode (c :: rest)).bind fun (last, rest) =>
        if last < first then none else some (.range first last, rest)
  | some (first, rest) => some (.one first, rest)

/-- The name between the colons and the brackets of a class at the front of a set, and what stands
behind it. -/
def cutClassName? : List Char → Option (List Char × List Char)
  | ':' :: ']' :: rest => some ([], rest)
  | c :: cs => (cutClassName? cs).map fun (name, rest) => (c :: name, rest)
  | [] => none

/-- One item at the front of a set, and what stands behind it. -/
def readSetItem (flags : Flags) (cs : List Char) : Option (CodeSet × List Char) :=
  let plain (_ : Unit) := (readSetRange cs).map fun (set, rest) => (flags.widen set, rest)
  match cs with
  | '[' :: ':' :: inner =>
    match cutClassName? inner with
    | some (name, rest) => (signedClass? namedClass? flags false name).map fun set => (set, rest)
    | none => plain ()
  | cs =>
    match readClass? flags cs with
    | some found => found
    | none => plain ()

/-- The items of a set up to its closing bracket, which is none where the `first` item stands, and what
stands behind it. -/
def readSet (flags : Flags) (first : Bool) (set : CodeSet) (fuel : Nat) (cs : List Char) :
    Option (CodeSet × List Char) :=
  match fuel with
  | 0 => none
  | fuel + 1 =>
    match cs with
    | [] => none
    | c :: rest =>
      if c = ']' ∧ !first then some (set, rest)
      else
        match readSetItem flags (c :: rest) with
        | none => none
        | some (item, rest) => readSet flags false (.union set item) fuel rest

/-! ## Repetitions -/

/-- A number at the front, without zeros that it does not need, and what stands behind it. -/
def readCount (cs : List Char) : Option (Nat × List Char) :=
  let digits := cs.takeWhile Char.isDigit
  if digits.isEmpty ∨ (digits.head? = some '0' ∧ 1 < digits.length) ∨ 9 < digits.length then none
  else some (Decimal.natOfDigits digits, cs.drop digits.length)

/-- The least and the greatest number of a repetition behind its opening brace, and what stands behind
it; nothing if it is no repetition. -/
def readCounts (cs : List Char) : Option (Nat × Option Nat × List Char) :=
  match readCount cs with
  | some (least, ',' :: '\x7d' :: rest) => some (least, none, rest)
  | some (least, ',' :: rest) =>
    match readCount rest with
    | some (most, '\x7d' :: rest) => some (least, some most, rest)
    | _ => none
  | some (least, '\x7d' :: rest) => some (least, some least, rest)
  | _ => none

/-- The greatest number of repetitions, those of all that stands in each other together. -/
def repeatLimit : Nat := 1000

/-- A repetition, if it does not repeat too often. -/
def repeat? (p : LinearPattern) (least : Nat) (most : Option Nat) : Option LinearPattern :=
  let count := most.getD least
  let r := many p least most
  if most.any (· < least) ∨ repeatLimit < least ∨ repeatLimit < count then none
  else if (2 ≤ least ∨ 2 ≤ count) ∧ r.allowance repeatLimit = 0 then none
  else some r

/-! ## Groups -/

/-- Flags behind a parenthesis and a question mark: what they make of the flags that hold, whether they
open a group of their own, and what stands behind them. -/
def readFlags (flags : Flags) (off seen : Bool) : List Char → Option (Flags × Bool × List Char)
  | [] => none
  | c :: cs =>
    match c with
    | 'i' => readFlags { flags with fold := !off } off true cs
    | 'm' => readFlags { flags with lines := !off } off true cs
    | 's' => readFlags { flags with lineEnds := !off } off true cs
    | 'U' => readFlags flags off true cs
    | '-' => if off then none else readFlags flags true false cs
    | ':' => if off && !seen then none else some (flags, true, cs)
    | ')' => if off && !seen then none else some (flags, false, cs)
    | _ => none

/-- The categories of the characters of names. -/
def nameCategories : List String := ["Lu", "Ll", "Lt", "Lm", "Lo", "Nl", "Mn", "Mc", "Nd", "Pc"]

/-- Whether characters are the name of a group. -/
def isGroupName (name : List Char) : Bool :=
  !name.isEmpty && name.all fun c =>
    nameCategories.any fun category => Text.inRuns ((Text.category? category).getD []) c.toNat

/-- What a parenthesis opens: flags that hold from here on, or a group with the flags that hold in
it. -/
inductive Opening where
  | flags (flags : Flags)
  | group (flags : Flags)
  deriving DecidableEq, Repr, Inhabited

/-- What stands behind a parenthesis that opens something, and what it opens. -/
def readOpening (flags : Flags) (cs : List Char) : Option (Opening × List Char) :=
  let named (cs : List Char) :=
    (cutAt? '>' cs).bind fun (name, rest) =>
      if isGroupName name then some (Opening.group flags, rest) else none
  match cs with
  | '?' :: 'P' :: '<' :: cs => named cs
  | '?' :: '<' :: cs => named cs
  | '?' :: cs =>
    (readFlags flags false false cs).map fun (inner, own, rest) =>
      (if own then .group inner else .flags inner, rest)
  | cs => some (.group flags, cs)

/-! ## Patterns -/

/-- The pattern of a code. -/
def ofCode (flags : Flags) (code : Nat) : LinearPattern := .among (flags.widen (.one code))

/-- The pattern of a point. -/
def ofPoint (flags : Flags) : LinearPattern :=
  .among (if flags.lineEnds then .range 0 0x10ffff else .complement (.one 0xa))

/-- What has been read of an alternative. -/
structure Draft where
  /-- All but the last item. -/
  done : LinearPattern
  /-- The last item, which may be repeated. -/
  last : Option LinearPattern
  /-- Whether the last item has just been repeated. -/
  repeated : Bool
  deriving Inhabited

namespace Draft

/-- Nothing has been read. -/
def blank : Draft := ⟨.empty, none, false⟩

/-- The pattern that has been read. -/
def pattern (d : Draft) : LinearPattern :=
  match d.last with
  | some p => .seq d.done p
  | none => d.done

/-- Read one more item. -/
def push (d : Draft) (p : LinearPattern) : Draft := ⟨d.pattern, some p, false⟩

/-- Read something that is no item. -/
def pass (d : Draft) : Draft := { d with repeated := false }

/-- Repeat the last item. -/
def repeatLast? (d : Draft) (least : Nat) (most : Option Nat) : Option Draft :=
  match d.last with
  | some p =>
    if d.repeated then none else (repeat? p least most).map fun r => ⟨d.done, some r, true⟩
  | none => none

end Draft

/-- What stands behind a mark that may make a repetition a lazy one. -/
def dropLazy : List Char → List Char
  | '?' :: cs => cs
  | cs => cs

/-- Text that stands for itself up to the end of quoting, and what stands behind it. -/
def readQuoted (flags : Flags) (d : Draft) : List Char → Draft × List Char
  | [] => (d, [])
  | '\\' :: 'E' :: cs => (d, cs)
  | c :: cs => readQuoted flags (d.push (ofCode flags c.toNat)) cs

/-- What an escape that is neither of a class nor of a code stands for. -/
def simpleEscape? : Char → Option LinearPattern
  | 'b' => some (.border (.word false))
  | 'B' => some (.border (.word true))
  | 'A' => some (.border .first)
  | 'z' => some (.border .last)
  | 'C' => some .byte
  | _ => none

/-- Read an escape. -/
def readEscaped (flags : Flags) (d : Draft) (cs : List Char) : Option (Draft × List Char) :=
  match cs with
  | '\\' :: 'Q' :: cs => some (readQuoted flags d.pass cs)
  | '\\' :: c :: rest =>
    match simpleEscape? c with
    | some p => some (d.push p, rest)
    | none =>
      match readClass? flags cs with
      | some found => found.map fun (set, rest) => (d.push (.among set), rest)
      | none => (readEscape (c :: rest)).map fun (code, rest) => (d.push (ofCode flags code), rest)
  | _ => none

/-- Read one item that opens no group. -/
def readItem (flags : Flags) (d : Draft) (c : Char) (cs : List Char) : Option (Draft × List Char) :=
  let again (least : Nat) (most : Option Nat) (rest : List Char) :=
    (d.repeatLast? least most).map fun d => (d, dropLazy rest)
  match c with
  | '*' => again 0 none cs
  | '+' => again 1 none cs
  | '?' => again 0 (some 1) cs
  | '\x7b' =>
    match readCounts cs with
    | some (least, most, rest) => again least most rest
    | none => some (d.push (ofCode flags c.toNat), cs)
  | '^' => some (d.push (.border (if flags.lines then .lineFirst else .first)), cs)
  | '$' => some (d.push (.border (if flags.lines then .lineLast else .last)), cs)
  | '.' => some (d.push (ofPoint flags), cs)
  | '[' =>
    let (negated, inner) :=
      match cs with
      | '^' :: cs => (true, cs)
      | cs => (false, cs)
    (readSet flags true .empty (inner.length + 1) inner).map fun (set, rest) =>
      (d.push (.among (signed negated set)), rest)
  | '\\' => readEscaped flags d (c :: cs)
  | c => some (d.push (ofCode flags c.toNat), cs)

/-- Read alternatives up to the end of their group, whose closing parenthesis is left. -/
def readAlternatives (fuel : Nat) (flags : Flags) (d : Draft) (cs : List Char) :
    Option (LinearPattern × List Char) :=
  match fuel with
  | 0 => none
  | fuel + 1 =>
    match cs with
    | [] => some (d.pattern, [])
    | ')' :: rest => some (d.pattern, ')' :: rest)
    | '|' :: rest =>
      (readAlternatives fuel flags .blank rest).map fun (p, rest) => (.alt d.pattern p, rest)
    | '(' :: rest =>
      match readOpening flags rest with
      | none => none
      | some (.flags flags, rest) => readAlternatives fuel flags d.pass rest
      | some (.group inner, rest) =>
        match readAlternatives fuel inner .blank rest with
        | some (p, ')' :: rest) => readAlternatives fuel flags (d.push p) rest
        | _ => none
    | c :: rest =>
      match readItem flags d c rest with
      | none => none
      | some (d, rest) => readAlternatives fuel flags d rest

/-- The pattern that a text spells. -/
def read? (text : String) : Option LinearPattern :=
  let cs := text.toList
  match readAlternatives (cs.length + 1) ⟨false, false, false⟩ .blank cs with
  | some (p, []) => some p
  | _ => none

end LinearPattern

end Remediation
