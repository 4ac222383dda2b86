import Remediation.Text.Folding
import Remediation.Text.Runs
import Remediation.Text.Utf8
/-!
# Linear patterns

A pattern of this kind is only asked whether it matches somewhere in a text.  It has no groups that are
referred to and no look around, so that it may be matched in one pass: from all places at once where a
match may be, to all places where it may be behind it.

Texts are bytes in UTF-8, and places are numbers of bytes.  A set of characters takes a whole
character, and nothing where no character starts.
-/

set_option autoImplicit false

namespace Remediation

/-- A set of codes. -/
inductive CodeSet where
  | range (first last : Nat)
  | runs (runs : Text.Runs)
  | union (a b : CodeSet)
  | complement (a : CodeSet)
  /-- The codes of a set together with their variants. -/
  | folded (a : CodeSet)
  deriving Repr, Inhabited

namespace CodeSet

/-- The set of no code. -/
def empty : CodeSet := .runs []

/-- The set of a code. -/
def one (n : Nat) : CodeSet := .range n n

/-- Whether a set has a code. -/
def has : CodeSet → Nat → Bool
  | .range first last, n => first ≤ n && n ≤ last
  | .runs rs, n => Text.inRuns rs n
  | .union a b, n => a.has n || b.has n
  | .complement a, n => !a.has n
  | .folded a, n => (Text.foldVariants n).any fun m => a.has m

theorem has_union (a b : CodeSet) (n : Nat) : (union a b).has n = (a.has n || b.has n) := rfl

theorem has_complement (a : CodeSet) (n : Nat) : (complement a).has n = !a.has n := rfl

theorem has_empty (n : Nat) : empty.has n = false := rfl

end CodeSet

/-- A condition on a place in a text. -/
inductive Border where
  /-- The start of the text. -/
  | first
  /-- The start of the text or of a line. -/
  | lineFirst
  /-- The end of the text. -/
  | last
  /-- The end of the text or of a line. -/
  | lineLast
  /-- Where a word of ASCII starts or ends, or where none does. -/
  | word (negated : Bool)
  deriving DecidableEq, Repr, Inhabited

/-- A pattern that is matched in one pass. -/
inductive LinearPattern where
  /-- The empty text. -/
  | empty
  | among (set : CodeSet)
  /-- Any byte. -/
  | byte
  | border (b : Border)
  | seq (a b : LinearPattern)
  | alt (a b : LinearPattern)
  | many (p : LinearPattern) (least : Nat) (most : Option Nat)
  deriving Repr, Inhabited

namespace LinearPattern

/-! ## Places -/

/-- A place in a text. -/
structure Place where
  /-- The number of bytes before. -/
  position : Nat
  before : Option UInt8
  after : Option UInt8
  /-- The code of the character that starts here, with its number of bytes. -/
  here : Option (Nat × Nat)
  deriving Repr, Inhabited

/-- The places of bytes behind others. -/
def placesFrom (position : Nat) (before : Option UInt8) : List UInt8 → List Place
  | [] => [⟨position, before, none, none⟩]
  | b :: rest =>
    let here :=
      match Text.decodeFront b rest with
      | .ok (c, more) => some (c.toNat, more + 1)
      | .error _ => none
    ⟨position, before, some b, here⟩ :: placesFrom (position + 1) (some b) rest

/-- The places of a text, its end included. -/
def places (bytes : List UInt8) : List Place := placesFrom 0 none bytes

theorem length_placesFrom (position : Nat) (before : Option UInt8) (bytes : List UInt8) :
    (placesFrom position before bytes).length = bytes.length + 1 := by
  induction bytes generalizing position before with
  | nil => rfl
  | cons b rest ih => simp [placesFrom, ih]

/-- A text has one place more than it has bytes. -/
theorem length_places (bytes : List UInt8) : (places bytes).length = bytes.length + 1 :=
  length_placesFrom 0 none bytes

/-- Whether a byte is part of a word. -/
def isWordByte (b : UInt8) : Bool :=
  let n := b.toNat
  (0x30 ≤ n && n ≤ 0x39) || (0x41 ≤ n && n ≤ 0x5a) || (0x61 ≤ n && n ≤ 0x7a) || n == 0x5f

/-- Whether a condition holds at a place. -/
def holdsAt (p : Place) : Border → Bool
  | .first => p.before.isNone
  | .lineFirst => p.before.isNone || p.before == some 0x0a
  | .last => p.after.isNone
  | .lineLast => p.after.isNone || p.after == some 0x0a
  | .word negated => (p.before.any isWordByte != p.after.any isWordByte) != negated

/-! ## Sets of places -/

/-- A set of places: the bit of a place says whether it is in the set. -/
abbrev Places := Nat

/-- The places that are reached from those of a set by a step. -/
def reached (text : List Place) (step : Place → Option Nat) (starts : Places) : Places :=
  text.foldl (fun found p =>
    if starts.testBit p.position then
      match step p with
      | some n => found ||| 1 <<< n
      | none => found
    else found) 0

/-- Take a step from a set to another one several times. -/
def repeated (step : Places → Places) : Nat → Places → Places
  | 0, starts => starts
  | n + 1, starts => if starts = 0 then 0 else repeated step n (step starts)

/-- The places that are reached by at most so many steps. -/
def closure (step : Places → Places) : Nat → Places → Places
  | 0, found => found
  | n + 1, found =>
    let next := found ||| step found
    if next = found then found else closure step n next

/-- The places behind the matches of a pattern that start at the places of a set.  Behind as many
repetitions as there are places, no further one finds a new place. -/
def ends (text : List Place) (p : LinearPattern) (starts : Places) : Places :=
  match p with
  | .empty => starts
  | .among set => reached text (fun p =>
      match p.here with
      | some (code, n) => if set.has code then some (p.position + n) else none
      | none => none) starts
  | .byte => reached text (fun p => p.after.map fun _ => p.position + 1) starts
  | .border b => reached text (fun p => if holdsAt p b then some p.position else none) starts
  | .seq a b => b.ends text (a.ends text starts)
  | .alt a b => a.ends text starts ||| b.ends text starts
  | .many p least most =>
    closure (p.ends text) ((most.map (· - least)).getD text.length)
      (repeated (p.ends text) least starts)

theorem ends_alt (text : List Place) (a b : LinearPattern) (starts : Places) :
    (alt a b).ends text starts = a.ends text starts ||| b.ends text starts := rfl

theorem ends_seq (text : List Place) (a b : LinearPattern) (starts : Places) :
    (seq a b).ends text starts = b.ends text (a.ends text starts) := rfl

/-- Whether a pattern matches somewhere in bytes. -/
def occursIn (p : LinearPattern) (bytes : List UInt8) : Bool :=
  let text := places bytes
  p.ends text (1 <<< text.length - 1) != 0

/-- How often what stands in a pattern may still be repeated, of `limit` times in all. -/
def allowance (p : LinearPattern) (limit : Nat) : Nat :=
  match p with
  | .many p least most =>
    let count := most.getD least
    p.allowance (if count = 0 then limit else limit / count)
  | .seq a b | .alt a b => min (a.allowance limit) (b.allowance limit)
  | _ => limit

end LinearPattern

end Remediation
