import Remediation.Plan
import Remediation.Json.Printer
import Remediation.Json.Reader
/-!
# Plans as documents

A plan is stored as a JSON text.  Steps leave out the outputs and the error that they do not have;
numbers that are no numbers and infinities are stored as null, moments as texts.
-/

set_option autoImplicit false

namespace Remediation

/-- A floating-point number in a document. -/
def documentNumber (x : Float) : Json := if x.isFinite then .float x else .null

/-- A scalar in a document; bytes have to encode a text. -/
def documentScalar? : Scalar → Option Json
  | .null => some .null
  | .bool b => some (.bool b)
  | .int n => some (.int n)
  | .float x => some (documentNumber x)
  | .text s => some (.text s)
  | .moment m => some (.text m.documentText)
  | .bytes bs => (Text.decodeUtf8 bs).toOption.map Json.text

/-- The convention of plan documents for data that JSON has no form for. -/
def documentConvention : Convention where
  float := documentNumber
  key
    | .null => some "None"
    | .bool b => some (if b then "true" else "false")
    | .float x => some (Decimal.plainFloat.write x)
    | .moment m => some m.documentText
    | .bytes bs => (Text.decodeUtf8 bs).toOption
    | _ => none
  other
    | .scalar s => documentScalar? s
    | .set items => (items.mapM documentScalar?).map .list
    | _ => none

/-- Texts as JSON. -/
def textsJson (texts : List String) : Json := .list (texts.map .text)

/-- Fields as JSON. -/
def fieldsJson (fields : Fields) : Except JsonRefusal Json :=
  (Value.ofFields fields).toJson documentConvention

namespace Step

/-- A step as JSON. -/
def toJson (s : Step) : Except JsonRefusal Json :=
  match fieldsJson s.params, s.outputs.mapM fieldsJson with
  | .error e, _ => .error e
  | _, .error e => .error e
  | .ok params, .ok outputs =>
    .ok (.map (
      [("id", .text s.id), ("actionName", .text s.action), ("params", params),
        ("reason", .text s.reason), ("dependsOn", textsJson s.dependsOn)] ++
      (outputs.map fun o => ("outputs", o)).toList ++
      [("outputRefs", .map (s.outputRefs.map fun (param, ref) => (param, .text ref))),
        ("status", .text s.status.word)] ++
      (s.error.map fun e => ("error", Json.text e)).toList))

end Step

namespace Plan

/-- The layout of plan documents: all characters as they are, one item a line. -/
def documentStyle (indent : Nat) : Json.Style := ⟨", ", ": ", some indent, false⟩

/-- A plan as JSON. -/
def toJson (p : Plan) : Except JsonRefusal Json :=
  (p.steps.mapM Step.toJson).map fun steps =>
    .map [("projectName", .text p.project), ("repository", .text p.repository),
      ("steps", .list steps)]

/-- A plan as the text of a document. -/
def render (p : Plan) (indent : Nat) : Except JsonRefusal String :=
  p.toJson.map (·.render (documentStyle indent))

/-- The plan that the text of a document holds. -/
def parse (s : String) : Except Invalid Plan :=
  match Json.read Json.strict s with
  | .ok j => Plan.read j.toValue
  | .error _ => .error ⟨recordName, [⟨.notJson, []⟩]⟩

end Plan

end Remediation
