import Remediation.Pattern.Folding
import Remediation.Text.Blank
import Remediation.Text.Digit
import Remediation.Text.Word
/-!
# Patterns

A pattern describes texts by their characters.  It is matched by trying its choices in order: the
left alternative before the right one, one more repetition before none for greedy repetition, and the
other way round for lazy repetition.  The first way that leads to a match of the whole pattern wins.

`Pattern.matchAt` hands the place behind a match to a continuation and goes on with its next choice
where the continuation fails.
-/

set_option autoImplicit false

namespace Remediation

/-- A class of characters with a name. -/
inductive CharClass where
  | digit
  | blank
  | word
  deriving DecidableEq, Repr, Inhabited

namespace CharClass

/-- Whether a character is of a class, of all scripts or of ASCII alone. -/
def has (k : CharClass) (ascii : Bool) (c : Char) : Bool :=
  match k with
  | .digit => if ascii then c.isDigit else Text.isDigit c
  | .blank =>
    if ascii then c == ' ' || (9 ≤ c.toNat && c.toNat ≤ 13) else Text.isBlank c
  | .word => if ascii then c.isAlphanum || c == '_' else Text.isWord c

end CharClass

/-- An item of a set of characters. -/
inductive SetItem where
  | one (c : Char)
  | range (first last : Char)
  | ofClass (k : CharClass) (ascii negated : Bool)
  deriving DecidableEq, Repr, Inhabited

/-- How often a repetition tries to repeat. -/
inductive Greed where
  /-- As often as it can. -/
  | greedy
  /-- As seldom as it can. -/
  | lazy
  /-- As often as it can, and never less often afterwards. -/
  | possessive
  deriving DecidableEq, Repr, Inhabited

/-- A condition on a place of the text. -/
inductive Edge where
  /-- The start of the text. -/
  | first
  /-- The start of the text or of a line. -/
  | lineFirst
  /-- The end of the text. -/
  | last
  /-- The end of the text, or the line end that ends it. -/
  | lastLine
  /-- The end of the text or of a line. -/
  | lineLast
  /-- Where a word starts or ends. -/
  | word (ascii : Bool)
  /-- Where no word starts or ends. -/
  | inner (ascii : Bool)
  deriving DecidableEq, Repr, Inhabited

/-- A pattern. -/
inductive Pattern where
  /-- The empty text. -/
  | empty
  | one (fold : Pattern.Folding) (c : Char)
  /-- Any character; line ends only if `lineEnds` is set. -/
  | any (lineEnds : Bool)
  | among (fold : Pattern.Folding) (negated : Bool) (items : List SetItem)
  | edge (e : Edge)
  | seq (a b : Pattern)
  | alt (a b : Pattern)
  /-- A group whose text is kept under a number. -/
  | group (n : Nat) (p : Pattern)
  | many (p : Pattern) (least : Nat) (most : Option Nat) (greed : Greed)
  /-- A part whose first match is final. -/
  | atomic (p : Pattern)
  /-- What has to follow, or has to be absent. -/
  | ahead (negated : Bool) (p : Pattern)
  /-- What has to stand before, with its number of characters, or has to be absent. -/
  | behind (negated : Bool) (width : Nat) (p : Pattern)
  /-- The text of a group once more. -/
  | again (fold : Pattern.Folding) (n : Nat)
  /-- One of two patterns, by whether a group has matched. -/
  | ifGroup (n : Nat) (yes no : Pattern)
  deriving Repr, Inhabited

/-- A place in a text, with what the groups have matched on the way. -/
structure Spot where
  /-- The characters before, the nearest first. -/
  before : List Char
  /-- The characters behind. -/
  after : List Char
  /-- The number of characters before. -/
  position : Nat
  groups : List (Nat × List Char)
  deriving Repr, Inhabited

namespace Spot

/-- The start of a text. -/
def start (cs : List Char) : Spot := ⟨[], cs, 0, []⟩

/-- The place behind the next character. -/
def step? (s : Spot) : Option (Char × Spot) :=
  match s.after with
  | [] => none
  | c :: cs => some (c, { s with before := c :: s.before, after := cs, position := s.position + 1 })

/-- The place some characters earlier. -/
def back? (s : Spot) : Nat → Option Spot
  | 0 => some s
  | n + 1 =>
    match s.before with
    | [] => none
    | c :: cs => back? { s with before := cs, after := c :: s.after, position := s.position - 1 } n

/-- The text of a group. -/
def group? (s : Spot) (n : Nat) : Option (List Char) := (s.groups.find? (·.1 == n)).map (·.2)

/-- Whether the next character, or the one before, is part of a word. -/
def wordAt (ascii : Bool) (cs : List Char) : Bool :=
  match cs with
  | c :: _ => CharClass.word.has ascii c
  | [] => false

end Spot

namespace Pattern

/-- Whether an item has a character. -/
def itemHas (c : Char) : SetItem → Bool
  | .one d => c == d
  | .range first last => first ≤ c && c ≤ last
  | .ofClass k ascii negated => k.has ascii c != negated

/-- Whether an item of several has a character by its lower case.  Beyond the codes of 16 bits a single
character stands for its lower case alone if it is lower case itself. -/
def itemHasLower (fold : Folding) (low : Char) : SetItem → Bool
  | .one d =>
    if d.toNat < 0x10000 then (fold.origins low).contains d.toNat else low == d
  | .range first last =>
    (fold.origins low).any fun n => first.toNat ≤ n && n ≤ last.toNat
  | .ofClass k ascii negated => k.has ascii low != negated

/-- Whether an item has characters of different case. -/
def itemIsCased (fold : Folding) : SetItem → Bool
  | .one d => fold.isCased d || 0x10000 ≤ d.toNat
  | .range .. => true
  | .ofClass .. => false

/-- Whether a set has a character. -/
def setHas (fold : Folding) (items : List SetItem) (c : Char) : Bool :=
  match fold, items.eraseDups with
  | .exact, _ => items.any (itemHas c)
  | fold, [.one d] => fold.same d c
  | fold, items =>
    if items.any (itemIsCased fold) then items.any (itemHasLower fold (fold.lower c))
    else items.any (itemHas c)

/-- Whether a condition holds at a place. -/
def edgeHolds (s : Spot) : Edge → Bool
  | .first => s.before.isEmpty
  | .lineFirst => s.before.isEmpty || s.before.head? == some '\n'
  | .last => s.after.isEmpty
  | .lastLine => s.after.isEmpty || s.after == ['\n']
  | .lineLast => s.after.isEmpty || s.after.head? == some '\n'
  | .word ascii => Spot.wordAt ascii s.before != Spot.wordAt ascii s.after
  | .inner ascii => Spot.wordAt ascii s.before == Spot.wordAt ascii s.after

/-- The place behind one character of a class. -/
def stepIf (p : Char → Bool) (s : Spot) : Option Spot :=
  match s.step? with
  | some (c, s) => if p c then some s else none
  | none => none

/-- The place behind a text. -/
def stepText (fold : Folding) : List Char → Spot → Option Spot
  | [], s => some s
  | c :: cs, s =>
    match stepIf (fun d => fold.lower d == fold.lower c) s with
    | some s => stepText fold cs s
    | none => none

/-- Repeat a body; a repetition that takes no character is the last one.  The fuel bounds the number
of repetitions, of which all but the required ones take a character. -/
def iterate (body : Spot → (Spot → Option Spot) → Option Spot) (patient : Bool) :
    Nat → Nat → Option Nat → Spot → (Spot → Option Spot) → Option Spot
  | 0, _, _, s, k => k s
  | fuel + 1, least + 1, most, s, k =>
    body s fun s' => iterate body patient fuel least (most.map (· - 1)) s' k
  | fuel + 1, 0, most, s, k =>
    if most = some 0 then k s
    else
      let more := fun (_ : Unit) => body s fun s' =>
        if s'.position = s.position then k s'
        else iterate body patient fuel 0 (most.map (· - 1)) s' k
      if patient then (k s).or (more ()) else (more ()).or (k s)

/-- Match a pattern at a place and go on with a continuation. -/
def matchAt (p : Pattern) (s : Spot) (k : Spot → Option Spot) : Option Spot :=
  match p with
  | .empty => k s
  | .one fold c => (stepIf (fold.same c) s).bind k
  | .any lineEnds => (stepIf (fun c => lineEnds || c != '\n') s).bind k
  | .among fold negated items => (stepIf (fun c => setHas fold items c != negated) s).bind k
  | .edge e => if edgeHolds s e then k s else none
  | .seq a b => matchAt a s fun s' => matchAt b s' k
  | .alt a b => (matchAt a s k).or (matchAt b s k)
  | .group n p =>
    matchAt p s fun s' =>
      let body := s.after.take (s'.position - s.position)
      k { s' with groups := (n, body) :: s'.groups.filter (·.1 != n) }
  | .many p least most .possessive =>
    (iterate (fun s k => matchAt p s k) false (least + s.after.length + 1) least most s some).bind k
  | .many p least most greed =>
    iterate (fun s k => matchAt p s k) (greed == .lazy) (least + s.after.length + 1) least most s k
  | .atomic p => (matchAt p s some).bind k
  | .ahead negated p =>
    match matchAt p s some, negated with
    | some s', false => k { s with groups := s'.groups }
    | none, true => k s
    | _, _ => none
  | .behind negated width p =>
    match (s.back? width).bind fun s' => matchAt p s' some, negated with
    | some s', false => k { s with groups := s'.groups }
    | none, true => k s
    | _, _ => none
  | .again fold n =>
    match s.group? n with
    | some body => (stepText fold body s).bind k
    | none => none
  | .ifGroup n yes no => if (s.group? n).isSome then matchAt yes s k else matchAt no s k

/-- What a pattern has matched. -/
structure Found where
  /-- The text of the match. -/
  whole : List Char
  groups : List (Nat × List Char)
  deriving Repr, Inhabited

/-- The first match at a place or behind it; the fuel is the number of places. -/
def searchFrom (p : Pattern) : Nat → Spot → Option Found
  | 0, _ => none
  | fuel + 1, s =>
    match p.matchAt s some with
    | some s' => some ⟨s.after.take (s'.position - s.position), s'.groups⟩
    | none =>
      match s.step? with
      | some (_, s) => searchFrom p fuel s
      | none => none

/-- The first match in a text. -/
def search (p : Pattern) (text : String) : Option Found :=
  let cs := text.toList
  p.searchFrom (cs.length + 1) (Spot.start cs)

/-- Whether a pattern has a group. -/
def hasGroup : Pattern → Bool
  | .group _ _ => true
  | .seq a b | .alt a b | .ifGroup _ a b => a.hasGroup || b.hasGroup
  | .many p _ _ _ | .atomic p | .ahead _ p | .behind _ _ p => p.hasGroup
  | _ => false

/-- The least and the greatest number of characters that a pattern matches, where `widths` says it of
groups; no greatest number if there is none. -/
def width (widths : List (Nat × Nat × Option Nat)) : Pattern → Nat × Option Nat
  | .empty | .edge _ | .ahead .. | .behind .. => (0, some 0)
  | .one .. | .any _ | .among .. => (1, some 1)
  | .seq a b =>
    let (la, ma) := a.width widths
    let (lb, mb) := b.width widths
    (la + lb, do return (← ma) + (← mb))
  | .alt a b | .ifGroup _ a b =>
    let (la, ma) := a.width widths
    let (lb, mb) := b.width widths
    (min la lb, do return max (← ma) (← mb))
  | .group _ p | .atomic p => p.width widths
  | .many p least most _ =>
    let (l, m) := p.width widths
    (l * least,
      match most, m with
      | _, some 0 => some 0
      | some n, some m => some (m * n)
      | _, _ => none)
  | .again _ n =>
    match widths.find? (·.1 == n) with
    | some (_, w) => w
    | none => (0, none)

end Pattern

end Remediation
