import Remediation.Decimal.Floating
import Remediation.Value.Moment
/-!
# Data values

Facts, parameters and outputs are data values: scalars, lists, maps that keep the order of their
entries and have scalar keys, and sets of scalars.  `Fields` are the maps with text keys that rules
and plans carry; writing a field keeps its place if it is there and appends it otherwise.
-/

set_option autoImplicit false

namespace Remediation

/-- A value without parts. -/
inductive Scalar where
  | null
  | bool (b : Bool)
  | int (n : Int)
  | float (x : Float)
  | text (s : String)
  | moment (m : Moment)
  | bytes (bs : List UInt8)
  deriving Inhabited, BEq

/-- A data value. -/
inductive Value where
  | scalar (s : Scalar)
  | list (items : List Value)
  | map (entries : List (Scalar × Value))
  | set (items : List Scalar)
  deriving Inhabited, BEq

namespace Value

/-- No value. -/
@[match_pattern] abbrev null : Value := .scalar .null

/-- A truth value. -/
@[match_pattern] abbrev bool (b : Bool) : Value := .scalar (.bool b)

/-- An integer. -/
@[match_pattern] abbrev int (n : Int) : Value := .scalar (.int n)

/-- A floating-point number. -/
@[match_pattern] abbrev float (x : Float) : Value := .scalar (.float x)

/-- A text. -/
@[match_pattern] abbrev text (s : String) : Value := .scalar (.text s)

/-- Whether a value counts as something: null, false, zero and empty values do not. -/
def isSomething : Value → Bool
  | .null => false
  | .bool b => b
  | .int n => n != 0
  | .float x => x != 0.0
  | .text s => s != ""
  | .scalar (.moment _) => true
  | .scalar (.bytes bs) => !bs.isEmpty
  | .list items => !items.isEmpty
  | .map entries => !entries.isEmpty
  | .set items => !items.isEmpty

/-- The name of a value's type in messages. -/
def typeName : Value → String
  | .null => "NoneType"
  | .bool _ => "bool"
  | .int _ => "int"
  | .float _ => "float"
  | .text _ => "str"
  | .scalar (.moment (.date _)) => "datetime.date"
  | .scalar (.moment (.time _)) => "datetime.time"
  | .scalar (.moment (.dateTime ..)) => "datetime.datetime"
  | .scalar (.bytes _) => "bytes"
  | .list _ => "list"
  | .map _ => "dict"
  | .set _ => "set"

end Value

/-- What scalars count as among the keys of a map. -/
inductive Key where
  | null
  | whole (n : Int)
  /-- A number that is not whole. -/
  | part (x : Decimal.Floating)
  | text (s : String)
  | moment (m : Moment)
  /-- A time of a number of microseconds by universal time. -/
  | instant (number : Int)
  | bytes (bs : List UInt8)
  deriving DecidableEq, Inhabited

namespace Scalar

/-- The integer that a float is, if it is one. -/
def wholeOfFloat? (x : Float) : Option Int := (Decimal.Floating.ofBits x.toBits).whole?

/-- The whole number that a scalar equals, a truth value counting as zero or one. -/
def whole? : Scalar → Option Int
  | .bool b => some (if b then 1 else 0)
  | .int n => some n
  | .float x => wholeOfFloat? x
  | _ => none

/-- What a scalar counts as among the keys of a map: numbers count by value, and times with an offset
by universal time.  What is not a number is no key of anything. -/
def key? (a : Scalar) : Option Key :=
  match a.whole? with
  | some n => some (.whole n)
  | none =>
    match a with
    | .float x =>
      match Decimal.Floating.ofBits x.toBits with
      | .nan => none
      | part => some (.part part)
    | .text s => some (.text s)
    | .moment m =>
      match m with
      | .dateTime _ _ (some _) => some (.instant m.number)
      | _ => some (.moment m)
    | .bytes bs => some (.bytes bs)
    | _ => some .null

/-- Whether two scalars are the same key of a map. -/
def sameKey (a b : Scalar) : Bool :=
  match a.key?, b.key? with
  | some j, some k => j == k
  | _, _ => false

end Scalar

/-- Add an entry to a map: an entry of the same key keeps its place and key and takes the value. -/
def upsertEntry (entries : List (Scalar × Value)) (key : Scalar) (v : Value) :
    List (Scalar × Value) :=
  match entries with
  | [] => [(key, v)]
  | (k, old) :: rest =>
    if k.sameKey key then (k, v) :: rest else (k, old) :: upsertEntry rest key v

/-- A map from entries that may repeat keys. -/
def mapOfEntries (entries : List (Scalar × Value)) : List (Scalar × Value) :=
  entries.foldl (fun acc (k, v) => upsertEntry acc k v) []

/-- The value under a text key. -/
def entryAt? (entries : List (Scalar × Value)) (key : String) : Option Value :=
  match entries with
  | [] => none
  | (.text k, v) :: rest => if k = key then some v else entryAt? rest key
  | _ :: rest => entryAt? rest key

/-- Maps with text keys, in order. -/
abbrev Fields := List (String × Value)

/-- The entry under a key of an association list. -/
def lookupField {α : Type} (fields : List (String × α)) (key : String) : Option α :=
  match fields with
  | [] => none
  | (k, v) :: rest => if k = key then some v else lookupField rest key

/-- Write a field: a field that is there keeps its place, a new one is appended. -/
def setField {α : Type} (fields : List (String × α)) (key : String) (v : α) :
    List (String × α) :=
  match fields with
  | [] => [(key, v)]
  | (k, old) :: rest => if k = key then (k, v) :: rest else (k, old) :: setField rest key v

/-- Write all fields of `later` into `fields`. -/
def overlay {α : Type} (fields later : List (String × α)) : List (String × α) :=
  later.foldl (fun acc (k, v) => setField acc k v) fields

/-- Fields as a value. -/
def Value.ofFields (fields : Fields) : Value := .map (fields.map fun (k, v) => (.text k, v))

theorem lookupField_setField_self {α : Type} (fields : List (String × α)) (key : String) (v : α) :
    lookupField (setField fields key v) key = some v := by
  induction fields with
  | nil => simp [setField, lookupField]
  | cons e rest ih =>
    obtain ⟨k, old⟩ := e
    by_cases h : k = key <;> simp [setField, lookupField, h, ih]

theorem lookupField_setField_ne {α : Type} (fields : List (String × α)) {key other : String} (v : α)
    (h : key ≠ other) : lookupField (setField fields key v) other = lookupField fields other := by
  induction fields with
  | nil => simp [setField, lookupField, h]
  | cons e rest ih =>
    obtain ⟨k, old⟩ := e
    by_cases hk : k = key
    · subst hk; simp [setField, lookupField, h]
    · simp [setField, hk, lookupField, ih]

end Remediation
