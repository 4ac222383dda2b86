import Remediation.Substitution
import Remediation.Coercion
/-!
# Parameters of a step

The parameters of a rule are templates at any depth.  Filling them gives the parameters of the step;
a parameter that is a text itself is then read as what the action's schema declares it to be.
-/

set_option autoImplicit false

namespace Remediation

mutual

/-- A value with all of its texts filled. -/
def Value.fill (facts : Facts) : Value → Except Fault Value
  | .text s => (Template.substitute s facts).map .text
  | .scalar s => .ok (.scalar s)
  | .list items => (Value.fillItems facts items).map .list
  | .map entries => (Value.fillEntries facts entries).map .map
  | .set items => .ok (.set items)

/-- The items of a list, filled in order. -/
def Value.fillItems (facts : Facts) : List Value → Except Fault (List Value)
  | [] => .ok []
  | v :: vs =>
    match v.fill facts with
    | .error e => .error e
    | .ok w => (Value.fillItems facts vs).map (w :: ·)

/-- The entries of a map, filled in order; keys are kept. -/
def Value.fillEntries (facts : Facts) :
    List (Scalar × Value) → Except Fault (List (Scalar × Value))
  | [] => .ok []
  | (k, v) :: es =>
    match v.fill facts with
    | .error e => .error e
    | .ok w => (Value.fillEntries facts es).map ((k, w) :: ·)

end

/-- What a schema declares a parameter to be. -/
def declaredType (schema : Fields) (name : String) : Declared :=
  match lookupField schema "properties" with
  | some (.map properties) =>
    match entryAt? properties name with
    | some (.map property) =>
      match entryAt? property "type" with
      | some (.text word) => .ofWord word
      | _ => .other
    | _ => .other
  | _ => .other

/-- Say that the names are missing in a parameter. -/
def Fault.inParameter (name : String) : Fault → Fault
  | .missingParameters names _ => .missingParameters names (.parameter name)
  | e => e

/-- Fill one parameter and read it as what it is declared to be. -/
def materializeParameter (facts : Facts) (schema : Fields) (name : String) (v : Value) :
    Except Fault Value :=
  match v with
  | .text s =>
    match Template.substitute s facts with
    | .error e => .error (e.inParameter name)
    | .ok filled => coerce (declaredType schema name) filled
  | v =>
    match v.fill facts with
    | .error e => .error (e.inParameter name)
    | .ok w => .ok w

/-- Fill all parameters, in order. -/
def materialize (facts : Facts) (schema : Fields) : Fields → Except Fault Fields
  | [] => .ok []
  | (name, v) :: rest =>
    match materializeParameter facts schema name v with
    | .error e => .error e
    | .ok w => (materialize facts schema rest).map ((name, w) :: ·)

end Remediation
