import Remediation.Problem
import Remediation.Text.Utf8
/-!
# Checking documents

A document is checked field by field against the record that it should hold.  All of its problems are
found, in the order of the record's fields: the problems of two parts are those of the first and then
those of the second (`problems_apply`).

A field may have several spellings, of which the first that is there counts.  Problems name the field
as the document spells it.
-/

set_option autoImplicit false

namespace Remediation

/-- What checking gives: what the document holds, or what is wrong with it. -/
abbrev Checked (α : Type) := Except (List Problem) α

namespace Checked

variable {α β : Type}

/-- The problems that were found. -/
def problems : Checked α → List Problem
  | .ok _ => []
  | .error ps => ps

/-- A part that is no good for one reason. -/
def fail (kind : ProblemKind) : Checked α := .error [⟨kind, []⟩]

/-- Put two parts together, or their problems. -/
def apply (f : Checked (α → β)) (a : Checked α) : Checked β :=
  match f, a with
  | .ok f, .ok a => .ok (f a)
  | .ok _, .error qs => .error qs
  | .error ps, .ok _ => .error ps
  | .error ps, .error qs => .error (ps ++ qs)

/-- Say that a part stands at a place. -/
def inside (place : Place) : Checked α → Checked α
  | .ok a => .ok a
  | .error ps => .error (ps.map fun p => { p with path := place :: p.path })

/-- Name the record that was checked. -/
def named (record : String) : Checked α → Except Invalid α
  | .ok a => .ok a
  | .error ps => .error ⟨record, ps⟩

theorem problems_apply (f : Checked (α → β)) (a : Checked α) :
    (f.apply a).problems = f.problems ++ a.problems := by
  cases f <;> cases a <;> simp [apply, problems]

/-- The items of a list, each checked at its place; the first stands at place `n`. -/
def items (check : Value → Checked α) (n : Nat) : List Value → Checked (List α)
  | [] => .ok []
  | v :: vs =>
    apply ((check v).inside (.item n) |>.map List.cons) (items check (n + 1) vs)

/-- What a value holds as a list: a set is one too. -/
def itemsOf? : Value → Option (List Value)
  | .list vs => some vs
  | .set vs => some (vs.map .scalar)
  | _ => none

/-- A list of checked items. -/
def list (check : Value → Checked α) (v : Value) : Checked (List α) :=
  match itemsOf? v with
  | some vs => items check 0 vs
  | none => fail .notList

/-- A text; bytes count as the text that they encode. -/
def text : Value → Checked String
  | .text s => .ok s
  | .scalar (.bytes bs) =>
    match Text.decodeUtf8 bs with
    | .ok s => .ok s
    | .error _ => fail .notUnicode
  | _ => fail .notText

/-- The words for a truth value, in small letters. -/
def truthOfWord? (word : String) : Option Bool :=
  if word ∈ ["1", "on", "t", "true", "y", "yes"] then some true
  else if word ∈ ["0", "f", "false", "n", "no", "off"] then some false
  else none

/-- The truth value of a word, written in letters of any case. -/
def truthOfText (s : String) : Checked Bool :=
  match truthOfWord? (s.map Char.toLower) with
  | some b => .ok b
  | none => fail .unclearTruth

/-- The truth value of a whole number: only zero and one have one. -/
def truthOfWhole (n : Int) : Checked Bool :=
  if n = 0 then .ok false
  else if n = 1 then .ok true
  else if -0x8000000000000000 ≤ n ∧ n < 0x8000000000000000 then fail .unclearTruth
  else fail .notTruth

/-- A truth value: by itself, as a number or as a word. -/
def truth : Value → Checked Bool
  | .bool b => .ok b
  | .int n => truthOfWhole n
  | .float x =>
    match Scalar.wholeOfFloat? x with
    | some n => truthOfWhole n
    | none => fail .notTruth
  | .text s => truthOfText s
  | .scalar (.bytes bs) =>
    match Text.decodeUtf8 bs with
    | .ok s => truthOfText s
    | .error _ => fail .unclearTruth
  | _ => fail .notTruth

/-- The entries of a map, keys and values checked at their places, with the keys that are repeated
taken together. -/
def entries (check : Value → Checked α) (before : List (String × α)) :
    List (Scalar × Value) → Checked (List (String × α))
  | [] => .ok before
  | (k, v) :: es =>
    let place := Place.ofKey k
    let key := ((text (.scalar k)).inside (.field "[key]")).inside place
    match key, (check v).inside place with
    | .ok key, .ok a => entries check (setField before key a) es
    | key, a => .error (key.problems ++ a.problems ++ (entries check before es).problems)

/-- A map of checked values under text keys. -/
def table (check : Value → Checked α) : Value → Checked (List (String × α))
  | .map es => entries check [] es
  | _ => fail .notMap

/-- Any value. -/
def any (v : Value) : Checked Value := .ok v

/-- Fields of any values. -/
def fields (v : Value) : Checked Fields := table any v

/-- Nothing, or what is checked. -/
def optional (check : Value → Checked α) : Value → Checked (Option α)
  | .null => .ok none
  | v => (check v).map some

/-- The field of the first spelling that is there, as it is spelled. -/
def spelled? (es : List (Scalar × Value)) : List String → Option (String × Value)
  | [] => none
  | name :: names =>
    match entryAt? es name with
    | some v => some (name, v)
    | none => spelled? es names

/-- A field that may be left out. -/
def field (es : List (Scalar × Value)) (spellings : List String) (absent : α)
    (check : Value → Checked α) : Checked α :=
  match spelled? es spellings with
  | some (name, v) => (check v).inside (.field name)
  | none => .ok absent

/-- A field that has to be there; its absence is reported under its first spelling. -/
def required (es : List (Scalar × Value)) (spelling : String) (others : List String)
    (check : Value → Checked α) : Checked α :=
  match spelled? es (spelling :: others) with
  | some (name, v) => (check v).inside (.field name)
  | none => Checked.inside (.field spelling) (fail .missing)

end Checked

/-- What is under a key is smaller than the map. -/
theorem sizeOf_entryAt?_lt {es : List (Scalar × Value)} {key : String} {v : Value}
    (h : entryAt? es key = some v) : sizeOf v < sizeOf es := by
  induction es with
  | nil => simp [entryAt?] at h
  | cons e es ih =>
    obtain ⟨k, w⟩ := e
    have tail : ∀ {n : Nat}, n < sizeOf es → n < sizeOf ((k, w) :: es) := by
      intro n hn; simp only [List.cons.sizeOf_spec]; omega
    cases k with
    | text s =>
      simp only [entryAt?] at h
      split at h
      · cases h; simp only [List.cons.sizeOf_spec, Prod.mk.sizeOf_spec]; omega
      · exact tail (ih h)
    | _ => exact tail (ih h)

/-- A field that is found is smaller than the record. -/
theorem Checked.sizeOf_spelled?_lt {es : List (Scalar × Value)} {spellings : List String}
    {name : String} {v : Value} (h : Checked.spelled? es spellings = some (name, v)) :
    sizeOf v < sizeOf es := by
  induction spellings with
  | nil => simp [Checked.spelled?] at h
  | cons s rest ih =>
    simp only [Checked.spelled?] at h
    split at h
    next w hw => cases h; exact sizeOf_entryAt?_lt hw
    next => exact ih h

end Remediation
