import Remediation.Value
/-!
# JSON values

A JSON value is a data value whose scalars are null, truth values, numbers and texts and whose maps
have text keys.  `Json.toValue` is the data value of a JSON value, and `Value.toJson` is the way
back, which follows a `Convention` for what JSON has no form for.
-/

set_option autoImplicit false

namespace Remediation

/-- A JSON value. -/
inductive Json where
  | null
  | bool (b : Bool)
  | int (n : Int)
  | float (x : Float)
  | text (s : String)
  | list (items : List Json)
  | map (fields : List (String × Json))
  deriving Inhabited, BEq

/-- Why a text is no JSON value. -/
inductive JsonFault where
  /-- The text does not follow the grammar. -/
  | malformed
  /-- An integer has this many digits, which are too many to be read. -/
  | longInteger (digits : Nat)
  deriving DecidableEq, Repr, Inhabited

namespace Json

mutual

/-- The data value of a JSON value. -/
def toValue : Json → Value
  | .null => .null
  | .bool b => .bool b
  | .int n => .int n
  | .float x => .float x
  | .text s => .text s
  | .list items => .list (toValues items)
  | .map fields => .map (toEntries fields)

/-- The data values of the items of a list. -/
def toValues : List Json → List Value
  | [] => []
  | v :: vs => v.toValue :: toValues vs

/-- The data values of the fields of a map. -/
def toEntries : List (String × Json) → List (Scalar × Value)
  | [] => []
  | (k, v) :: fs => (.text k, v.toValue) :: toEntries fs

end

end Json

/-- Why a data value has no JSON form. -/
inductive JsonRefusal where
  /-- An integer has too many digits to be written. -/
  | longInteger
  /-- A key has no text form. -/
  | key (key : Scalar)
  /-- A value has no JSON form. -/
  | value (value : Value)
  deriving Inhabited, BEq

/-- What stands for the data that JSON has no form for. -/
structure Convention where
  /-- The form of a floating-point number. -/
  float : Float → Json
  /-- The text of a key that is no text. -/
  key : Scalar → Option String
  /-- The form of a value that is no JSON value. -/
  other : Value → Option Json

namespace Value

mutual

/-- The JSON form of a data value under a convention. -/
def toJson (c : Convention) : Value → Except JsonRefusal Json
  | .null => .ok .null
  | .bool b => .ok (.bool b)
  | .int n => if Decimal.isWritable n then .ok (.int n) else .error .longInteger
  | .float x => .ok (c.float x)
  | .text s => .ok (.text s)
  | .scalar (.moment m) => otherJson c (.scalar (.moment m))
  | .scalar (.bytes bs) => otherJson c (.scalar (.bytes bs))
  | .list items => (toJsonItems c items).map .list
  | .map entries => (toJsonFields c entries).map .map
  | .set items => otherJson c (.set items)

/-- The JSON forms of the items of a list. -/
def toJsonItems (c : Convention) : List Value → Except JsonRefusal (List Json)
  | [] => .ok []
  | v :: vs =>
    match v.toJson c with
    | .error e => .error e
    | .ok j => (toJsonItems c vs).map (j :: ·)

/-- The JSON forms of the entries of a map. -/
def toJsonFields (c : Convention) : List (Scalar × Value) → Except JsonRefusal (List (String × Json))
  | [] => .ok []
  | (k, v) :: es =>
    match keyText c k with
    | .error e => .error e
    | .ok key =>
      match v.toJson c with
      | .error e => .error e
      | .ok j => (toJsonFields c es).map ((key, j) :: ·)

/-- The form of a value that is no JSON value. -/
def otherJson (c : Convention) (v : Value) : Except JsonRefusal Json :=
  match c.other v with
  | some j => .ok j
  | none => .error (.value v)

/-- The text of a key. -/
def keyText (c : Convention) : Scalar → Except JsonRefusal String
  | .text s => .ok s
  | .int n => if Decimal.isWritable n then .ok (Decimal.intText n) else .error .longInteger
  | k =>
    match c.key k with
    | some s => .ok s
    | none => .error (.key k)

end

end Value

end Remediation
