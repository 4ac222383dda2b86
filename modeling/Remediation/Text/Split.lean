/-!
# Cutting texts apart

Texts are cut at a separating character, or at the first place where a text occurs.  Joining the
pieces of a cut again gives the text back (`intercalate_splitChars`).
-/

set_option autoImplicit false

namespace Remediation.Text

/-- The pieces between the separators, empty ones included: one more than there are separators. -/
def splitChars (sep : Char) : List Char → List (List Char)
  | [] => [[]]
  | c :: cs =>
    if c = sep then [] :: splitChars sep cs
    else match splitChars sep cs with
      | [] => [[c]]
      | piece :: pieces => (c :: piece) :: pieces

theorem splitChars_ne_nil (sep : Char) (cs : List Char) : splitChars sep cs ≠ [] := by
  cases cs with
  | nil => simp [splitChars]
  | cons c cs =>
    simp only [splitChars]
    split
    · simp
    · split <;> simp

/-- Joining the pieces with the separator gives the text back. -/
theorem intercalate_splitChars (sep : Char) (cs : List Char) :
    [sep].intercalate (splitChars sep cs) = cs := by
  induction cs with
  | nil => simp [splitChars]
  | cons c cs ih =>
    simp only [splitChars]
    have hne := splitChars_ne_nil sep cs
    split
    next h =>
      subst h
      cases hs : splitChars c cs with
      | nil => exact absurd hs hne
      | cons p ps => rw [hs] at ih; simp [List.intercalate, ← ih]
    next h =>
      cases hs : splitChars sep cs with
      | nil => exact absurd hs hne
      | cons p ps =>
        rw [hs] at ih
        cases ps with
        | nil => simpa [List.intercalate] using ih
        | cons q qs =>
          simp only [List.intercalate, List.intersperse] at ih ⊢
          simpa using ih

/-- The pieces of a text between the separators. -/
def split (sep : Char) (s : String) : List String :=
  (splitChars sep s.toList).map String.ofList

/-- The part before the first separator and, if there is one, the part behind it. -/
def cutChars (sep : Char) : List Char → List Char × Option (List Char)
  | [] => ([], none)
  | c :: cs =>
    if c = sep then ([], some cs)
    else ((c :: (cutChars sep cs).1), (cutChars sep cs).2)

/-- The part before the first separator and, if there is one, the part behind it. -/
def cut (sep : Char) (s : String) : String × Option String :=
  let (before, behind) := cutChars sep s.toList
  (String.ofList before, behind.map String.ofList)

/-- What follows `lead`, if the text starts with it. -/
def dropLead? : List Char → List Char → Option (List Char)
  | [], cs => some cs
  | l :: ls, c :: cs => if l = c then dropLead? ls cs else none
  | _ :: _, [] => none

/-- The pieces of a text between the non-overlapping occurrences of a text `lead :: more`, found
from the left. -/
def splitAtTextAux (lead : Char) (more : List Char) (piece : List Char) :
    Nat → List Char → List (List Char)
  | 0, cs => [piece.reverse ++ cs]
  | _ + 1, [] => [piece.reverse]
  | fuel + 1, c :: cs =>
    match dropLead? (lead :: more) (c :: cs) with
    | some rest => piece.reverse :: splitAtTextAux lead more [] fuel rest
    | none => splitAtTextAux lead more (c :: piece) fuel cs

/-- The pieces of a text between the non-overlapping occurrences of a separator that is not empty;
an empty separator cuts nowhere, so it is refused. -/
def splitAtText? (sep s : String) : Option (List String) :=
  match sep.toList with
  | [] => none
  | lead :: more =>
    some ((splitAtTextAux lead more [] (s.toList.length + 1) s.toList).map String.ofList)

/-- Whether `part` occurs in a text, or in bytes. -/
def occurs {α : Type} [BEq α] (part : List α) : List α → Bool
  | [] => part.isEmpty
  | c :: cs => part.isPrefixOf (c :: cs) || occurs part cs

/-- Texts joined by a separator. -/
def join (sep : String) (pieces : List String) : String := sep.intercalate pieces

/-- Characters that end a line wherever they stand, a carriage return with its line feed counted
as one. -/
def isLineEnd (c : Char) : Bool :=
  let n := c.toNat
  (0x0a ≤ n && n ≤ 0x0d) || (0x1c ≤ n && n ≤ 0x1e) || n == 0x85 || n == 0x2028 || n == 0x2029

/-- The lines of a text without their ends; a last line that is empty is no line. -/
def linesAux (line : List Char) : List Char → List (List Char)
  | [] => if line.isEmpty then [] else [line.reverse]
  | '\r' :: '\n' :: cs => line.reverse :: linesAux [] cs
  | c :: cs => if isLineEnd c then line.reverse :: linesAux [] cs else linesAux (c :: line) cs

/-- The lines of a text without their ends. -/
def lines (s : String) : List String := (linesAux [] s.toList).map String.ofList

end Remediation.Text
