import Remediation.Checked
/-!
# Action definitions

An action is defined by a record: its type, and for command line tools the command with its
arguments, which are templates, the parameters it takes by default, and the outputs that are parsed
from what it prints.
-/

set_option autoImplicit false

namespace Remediation

namespace Action

/-- The definition of an action. -/
structure Definition where
  name : String
  type : String
  description : String
  labels : List (String × List String)
  /-- The program of a command line tool. -/
  command : String
  /-- The arguments of a command line tool. -/
  args : List String
  /-- What the parameters are declared to be. -/
  schema : Fields
  /-- The parameters that are taken where a step gives none. -/
  defaults : Fields
  /-- How outputs are parsed from what the tool prints. -/
  outputs : Option Fields
  deriving Inhabited, BEq

namespace Definition

/-- The definition that a value holds. -/
def check : Value → Checked Definition
  | .map es =>
    let text (name : String) := Checked.field es [name] "" Checked.text
    Checked.apply (.apply (.apply (.apply (.apply (.apply (.apply (.apply
      ((text "name").map Definition.mk)
      (text "type"))
      (text "description"))
      (Checked.field es ["labels"] [] (Checked.table (Checked.list Checked.text))))
      (text "command"))
      (Checked.field es ["args"] [] (Checked.list Checked.text)))
      (Checked.field es ["schema", "parameter_schema"] [] Checked.fields))
      (Checked.field es ["defaults"] [] Checked.fields))
      (Checked.field es ["outputs"] none (Checked.optional Checked.fields))
  | _ => .fail .notRecord

/-- The definition that a document holds. -/
def read (v : Value) : Except Invalid Definition := (check v).named "ActionConfig"

end Definition

end Action

end Remediation
