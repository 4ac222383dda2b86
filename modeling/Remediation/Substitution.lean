import Remediation.Template
import Remediation.Fault
import Remediation.Json.Printer
/-!
# Filling templates

A template is filled from facts: a text is put in as it is, any other value as JSON on one line, and
data that JSON has no form for as it is shown.  Names that no fact has are reported together.
-/

set_option autoImplicit false

namespace Remediation

/-- Facts by name, in order. -/
abbrev Facts := List (Scalar × Value)

/-- The convention of JSON on one line: dates, bytes and sets have no form, but the scalars of JSON
may be keys. -/
def plainConvention : Convention where
  float := .float
  key
    | .null => some "null"
    | .bool b => some (if b then "true" else "false")
    | .float x => some (Decimal.documentFloat.write x)
    | _ => none
  other := fun _ => none

/-- The form of a fact within a text. -/
def Value.inText (v : Value) : Except Fault String :=
  match v with
  | .text s => .ok s
  | v =>
    match v.toJson plainConvention with
    | .ok j => .ok (j.render Json.lineStyle)
    | .error _ => if v.isShowable then .ok v.shown else .error .longInteger

namespace Template

/-- The text that stands for a piece; a placeholder that no fact fills stands for nothing. -/
def Piece.fill (facts : Facts) : Piece → Except Fault (List Char)
  | .char c => .ok [c]
  | .placeholder spelling =>
    match entryAt? facts (nameOf spelling) with
    | none => .ok []
    | some v => v.inText.map String.toList

/-- The text that stands for all pieces. -/
def fill (facts : Facts) : List Piece → Except Fault (List Char)
  | [] => .ok []
  | p :: ps =>
    match p.fill facts with
    | .error e => .error e
    | .ok cs => (fill facts ps).map (cs ++ ·)

/-- The names that no fact has, each once, in order. -/
def missing (facts : Facts) (pieces : List Piece) : List String :=
  ((pieces.filterMap Piece.name?).filter fun name => (entryAt? facts name).isNone).foldl appendNew []

/-- The text of a template that is filled from facts. -/
def substitute (template : String) (facts : Facts) : Except Fault String :=
  let pieces := parse template.toList
  match fill facts pieces with
  | .error e => .error e
  | .ok cs =>
    match missing facts pieces with
    | [] => .ok (String.ofList cs)
    | names => .error (.missingParameters names (.template template))

end Template

end Remediation
