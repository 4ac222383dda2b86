import Remediation.Fault
import Remediation.Json.Reader
/-!
# Coercion of texts

A filled template is a text; where the parameter is declared to be a list, a number or a truth value,
the text is read as one if it spells one, and is kept otherwise.
-/

set_option autoImplicit false

namespace Remediation

/-- What a parameter is declared to be. -/
inductive Declared where
  | array
  | integer
  | number
  | boolean
  | other
  deriving DecidableEq, Repr, Inhabited

namespace Declared

/-- The declaration of a word; unknown words declare nothing. -/
def ofWord : String → Declared
  | "array" => .array
  | "integer" => .integer
  | "number" => .number
  | "boolean" => .boolean
  | _ => .other

end Declared

namespace Coercion

/-- The list that a text in brackets spells. -/
def list? (body : String) : Option (List Json) :=
  if body.toList.head? = some '[' ∧ body.toList.getLast? = some ']' then
    match Json.read Json.lenient body with
    | .ok (.list items) => some items
    | _ => none
  else none

/-- The integer that a sign and digits spell; too many digits are a fault. -/
def integer (negative : Bool) (digits : List Char) : Except Fault Value :=
  if Decimal.digitLimit < digits.length then .error (.longDigits digits.length)
  else .ok (.int (Decimal.signedInt negative digits))

end Coercion

/-- Read a text as what it is declared to be, or keep it. -/
def coerce (declared : Declared) (s : String) : Except Fault Value :=
  let body := Text.strip s
  match declared with
  | .array =>
    match Coercion.list? body with
    | some items => .ok (.list (Json.toValues items))
    | none => .ok (.text s)
  | .integer =>
    match Decimal.readSignedDigits? body.toList with
    | some (negative, digits) => Coercion.integer negative digits
    | none => .ok (.text s)
  | .number =>
    match Decimal.readSignedDigits? body.toList with
    | some (negative, digits) => Coercion.integer negative digits
    | none =>
      match Decimal.readFloat? body with
      | some x => .ok (.float x)
      | none => .ok (.text s)
  | .boolean =>
    if body = "true" then .ok (.bool true)
    else if body = "false" then .ok (.bool false)
    else .ok (.text s)
  | .other => .ok (.text s)

end Remediation
