import Remediation.Value
import Remediation.Text.Blank
import Remediation.Text.Split
/-!
# Templates

A template is a text with placeholders: two opening braces and a point, a name without closing
braces, and two closing braces.  The name counts without the blanks around it.

`Template.parse` cuts a text into its pieces and `Template.write` puts them together again
(`write_parse`), so nothing of the text is lost.
-/

set_option autoImplicit false

namespace Remediation

namespace Template

/-- A piece of a template: one character of plain text, or a placeholder with the name as it is
spelled. -/
inductive Piece where
  | char (c : Char)
  | placeholder (spelling : List Char)
  deriving DecidableEq, Repr, Inhabited

/-- What opens a placeholder. -/
def opening : List Char := ['\x7b', '\x7b', '.']

/-- What closes a placeholder. -/
def closing : List Char := ['\x7d', '\x7d']

/-- The characters of a piece. -/
def Piece.write : Piece → List Char
  | .char c => [c]
  | .placeholder spelling => opening ++ spelling ++ closing

/-- The text of a list of pieces. -/
def write (pieces : List Piece) : List Char := pieces.flatMap Piece.write

/-- A placeholder at the front: the spelling of its name and the rest. -/
def readPlaceholder? (cs : List Char) : Option (List Char × List Char) :=
  match Text.dropLead? opening cs with
  | none => none
  | some body =>
    match body.takeWhile (· ≠ '\x7d'), body.dropWhile (· ≠ '\x7d') with
    | c :: more, '\x7d' :: '\x7d' :: rest => some (c :: more, rest)
    | _, _ => none

end Template

theorem Text.eq_append_of_dropLead? {lead cs rest : List Char}
    (h : Text.dropLead? lead cs = some rest) : cs = lead ++ rest := by
  induction lead generalizing cs with
  | nil => simpa [Text.dropLead?] using h
  | cons l ls ih =>
    cases cs with
    | nil => simp [Text.dropLead?] at h
    | cons c cs =>
      simp only [Text.dropLead?] at h
      split at h
      · next hlc => subst hlc; rw [ih h]; rfl
      · exact absurd h (by simp)

namespace Template

/-- A placeholder that is read stands at the front as it is written. -/
theorem eq_append_of_readPlaceholder? {cs spelling rest : List Char}
    (h : readPlaceholder? cs = some (spelling, rest)) :
    cs = opening ++ spelling ++ closing ++ rest := by
  unfold readPlaceholder? at h
  split at h
  · exact absurd h (by simp)
  next body hb =>
    have hcs := Text.eq_append_of_dropLead? hb
    have hbody := List.takeWhile_append_dropWhile (p := (· ≠ '\x7d')) (l := body)
    split at h
    next c more rest' hs hd =>
      simp only [Option.some.injEq, Prod.mk.injEq] at h
      obtain ⟨rfl, rfl⟩ := h
      rw [hs, hd] at hbody
      rw [hcs, ← hbody, closing]
      simp
    · exact absurd h (by simp)

/-- A placeholder that is read takes characters away. -/
theorem length_lt_of_readPlaceholder? {cs spelling rest : List Char}
    (h : readPlaceholder? cs = some (spelling, rest)) : rest.length < cs.length := by
  rw [eq_append_of_readPlaceholder? h]
  simp [opening, closing]
  omega

/-- The pieces of a text, from the left. -/
def parse (cs : List Char) : List Piece :=
  match cs with
  | [] => []
  | c :: behind =>
    match _h : readPlaceholder? (c :: behind) with
    | some (spelling, rest) => .placeholder spelling :: parse rest
    | none => .char c :: parse behind
termination_by cs.length
decreasing_by
  · exact length_lt_of_readPlaceholder? _h
  · simp

/-- The pieces of a text spell the text. -/
theorem write_parse (cs : List Char) : write (parse cs) = cs := by
  fun_induction parse cs with
  | case1 => rfl
  | case2 c behind spelling rest h ih =>
    have := eq_append_of_readPlaceholder? h
    simp only [write, List.flatMap_cons, Piece.write] at ih ⊢
    rw [ih, this]
  | case3 c behind h ih =>
    simp only [write, List.flatMap_cons, Piece.write] at ih ⊢
    rw [ih]; rfl

/-- The name of a placeholder: its spelling without the blanks around it. -/
def nameOf (spelling : List Char) : String := String.ofList (Text.stripChars spelling)

/-- The name of a piece that is a placeholder. -/
def Piece.name? : Piece → Option String
  | .char _ => none
  | .placeholder spelling => some (nameOf spelling)

end Template

/-- Append what is not in a list yet. -/
def appendNew {α : Type} [DecidableEq α] (found : List α) (x : α) : List α :=
  if x ∈ found then found else found ++ [x]

namespace Template

/-- The names of the placeholders of a text, each once, in the order of their first places, behind
the names that were found before. -/
def namesFrom (found : List String) (s : String) : List String :=
  ((parse s.toList).filterMap Piece.name?).foldl appendNew found

end Template

mutual

/-- The names of the placeholders anywhere in a value, behind those that were found before.  The
keys of maps are no templates. -/
def Value.placeholdersFrom (found : List String) : Value → List String
  | .text s => Template.namesFrom found s
  | .scalar _ => found
  | .list items => Value.placeholdersOfItems found items
  | .map entries => Value.placeholdersOfEntries found entries
  | .set _ => found

/-- The names of the placeholders in the items of a list. -/
def Value.placeholdersOfItems (found : List String) : List Value → List String
  | [] => found
  | v :: vs => Value.placeholdersOfItems (Value.placeholdersFrom found v) vs

/-- The names of the placeholders in the values of a map. -/
def Value.placeholdersOfEntries (found : List String) : List (Scalar × Value) → List String
  | [] => found
  | (_, v) :: es => Value.placeholdersOfEntries (Value.placeholdersFrom found v) es

end

/-- The names of the placeholders anywhere in a value, each once, in order. -/
def Value.placeholders (v : Value) : List String := v.placeholdersFrom []

end Remediation
