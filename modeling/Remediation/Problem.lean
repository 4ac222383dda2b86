import Remediation.Value.Display
/-!
# Problems of documents

Documents are checked field by field against what they should hold.  A `Problem` says what is wrong
and where: the places lead from the outside of the document inwards.
-/

set_option autoImplicit false

namespace Remediation

/-- One step into a document. -/
inductive Place where
  /-- Into the field of this name. -/
  | field (name : String)
  /-- Into the item of this number, or the entry of this whole-number key. -/
  | item (n : Int)
  deriving DecidableEq, Repr, Inhabited

/-- What is wrong at a place. -/
inductive ProblemKind where
  | notText
  | notUnicode
  | notTruth
  | unclearTruth
  | notList
  | notMap
  | notRecord
  | missing
  | notAmongWords
  | notJson
  deriving DecidableEq, Repr, Inhabited

/-- What is wrong, and where. -/
structure Problem where
  kind : ProblemKind
  path : List Place
  deriving DecidableEq, Repr, Inhabited

/-- The problems of a document that should hold a `record`. -/
structure Invalid where
  record : String
  problems : List Problem
  deriving DecidableEq, Repr, Inhabited

namespace Invalid

/-- The headline of a list of problems. -/
def message (i : Invalid) : String :=
  let n := i.problems.length
  let noun := if n = 1 then "error" else "errors"
  s!"{Decimal.intText n} validation {noun} for {i.record}"

end Invalid

/-- The place of a map entry: a text or a whole number by itself, any other key as it is quoted. -/
def Place.ofKey (key : Scalar) : Place :=
  match key with
  | .text s => .field s
  | .int n => .item n
  | .bool b => .item (if b then 1 else 0)
  | k => .field k.quoted

end Remediation
