import Remediation.Checked
/-!
# Steps

A step is one unit of work of a plan: an action with its parameters.  A run takes it from pending
over running to success or failure.
-/

set_option autoImplicit false

namespace Remediation

/-- How far a step has come. -/
inductive Status where
  | pending
  | running
  | success
  | failure
  deriving DecidableEq, Repr, Inhabited

namespace Status

/-- The word for a status. -/
def word : Status → String
  | .pending => "pending"
  | .running => "running"
  | .success => "success"
  | .failure => "failure"

/-- The status of a word. -/
def ofWord? : String → Option Status
  | "pending" => some .pending
  | "running" => some .running
  | "success" => some .success
  | "failure" => some .failure
  | _ => none

theorem ofWord?_word (s : Status) : ofWord? s.word = some s := by cases s <;> rfl

/-- The status that a value spells. -/
def check : Value → Checked Status
  | .text s =>
    match ofWord? s with
    | some status => .ok status
    | none => .fail .notAmongWords
  | _ => .fail .notAmongWords

end Status

/-- A unit of work. -/
structure Step where
  /-- Unique within its plan. -/
  id : String
  /-- The name of the action that does the work. -/
  action : String
  params : Fields
  /-- Why the work is proposed. -/
  reason : String
  /-- The steps that come first. -/
  dependsOn : List String
  /-- What the step leaves for others: declared beforehand, or captured from its action. -/
  outputs : Option Fields
  /-- The outputs of other steps that parameters are taken from, as step, point, output. -/
  outputRefs : List (String × String)
  status : Status
  /-- Why the step failed. -/
  error : Option String
  deriving Inhabited, BEq

namespace Step

/-- The step that a value holds. -/
def check : Value → Checked Step
  | .map es =>
    Checked.apply (.apply (.apply (.apply (.apply (.apply (.apply (.apply
      ((Checked.required es "id" [] Checked.text).map Step.mk)
      (Checked.required es "actionName" ["action_name"] Checked.text))
      (Checked.field es ["params"] [] Checked.fields))
      (Checked.field es ["reason"] "" Checked.text))
      (Checked.field es ["dependsOn", "depends_on"] [] (Checked.list Checked.text)))
      (Checked.field es ["outputs"] none (Checked.optional Checked.fields)))
      (Checked.field es ["outputRefs", "output_refs"] [] (Checked.table Checked.text)))
      (Checked.field es ["status"] .pending Status.check))
      (Checked.field es ["error"] none (Checked.optional Checked.text))
  | _ => .fail .notRecord

/-- The step that a document holds. -/
def read (v : Value) : Except Invalid Step := (check v).named "RemediationStep"

end Step

end Remediation
