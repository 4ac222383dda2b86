import Remediation.Decimal.Reading
import Remediation.Fault
/-!
# Paths into JSON values

A path is a text of parts with points between them.  A part names a field, or an item by its number in
brackets, or first a field and then an item of it; an empty part leads nowhere further.
-/

set_option autoImplicit false

namespace Remediation

namespace Json

/-- A part of a path: a field if the name is not empty, and then an item. -/
structure PathPart where
  name : List Char
  /-- The digits of the number of an item. -/
  item : Option (List Char)
  deriving DecidableEq, Repr, Inhabited

/-- The digits in brackets at the end of a part, behind a name without brackets; one end of a line may
follow. -/
def PathPart.indexed? (cs : List Char) : Option PathPart :=
  let isBracket := fun c => c == '[' || c == ']'
  match cs.dropWhile (!isBracket ·) with
  | '[' :: rest =>
    let digits := rest.takeWhile Text.isDigit
    let behind := rest.dropWhile Text.isDigit
    if !digits.isEmpty && (behind = [']'] || behind = [']', '\n']) then
      some ⟨cs.takeWhile (!isBracket ·), some digits⟩
    else none
  | _ => none

/-- The part that a text spells: whatever is no item is the name of a field. -/
def PathPart.read (cs : List Char) : PathPart := (indexed? cs).getD ⟨cs, none⟩

/-- The number that digits of any script spell. -/
def itemNumber (digits : List Char) : Except Fault Nat :=
  if Decimal.digitLimit < digits.length then .error (.longDigits digits.length)
  else .ok (Decimal.natOfDigits (digits.map Decimal.asciiDigit))

/-- The field of a name; a field that is not there is null. -/
def field (name : List Char) (j : Json) : Except Fault Json :=
  if name.isEmpty then .ok j
  else
    match j with
    | .map fields => .ok ((lookupField fields (String.ofList name)).getD .null)
    | _ => .error (.notObject (String.ofList name))

/-- The item of a number. -/
def item (spelled : List Char) (n : Nat) (j : Json) : Except Fault Json :=
  match j with
  | .list items =>
    match items[n]? with
    | some v => .ok v
    | none => .error (.outOfBounds n)
  | _ => .error (.notArray (String.ofList spelled))

/-- Where a part of a path leads. -/
def step (j : Json) (spelled : List Char) : Except Fault Json :=
  let part := PathPart.read spelled
  match part.item with
  | none => field part.name j
  | some digits =>
    match itemNumber digits with
    | .error e => .error e
    | .ok n =>
      match field part.name j with
      | .error e => .error e
      | .ok v => item spelled n v

/-- Where the parts of a path lead. -/
def walk (j : Json) : List (List Char) → Except Fault Json
  | [] => .ok j
  | spelled :: rest =>
    match step j spelled with
    | .error e => .error e
    | .ok v => walk v rest

/-- Where a path leads. -/
def follow (j : Json) (path : String) : Except Fault Json :=
  walk j (Text.splitChars '.' path.toList)

end Json

end Remediation
