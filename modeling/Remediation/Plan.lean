import Remediation.Step
/-!
# Plans

A plan is a list of steps for a project in a repository.
-/

set_option autoImplicit false

namespace Remediation

/-- A plan. -/
structure Plan where
  project : String
  repository : String
  steps : List Step
  deriving Inhabited, BEq

namespace Plan

/-- The name of a project that has none. -/
def unknownProject : String := "Unknown Project"

/-- The repository of a plan that has none. -/
def unknownRepository : String := "Unknown Repository"

/-- The plan without steps. -/
def empty : Plan := ⟨unknownProject, unknownRepository, []⟩

/-- The first step of an id. -/
def step? (p : Plan) (id : String) : Option Step := p.steps.find? (·.id == id)

/-- The plan that a value holds. -/
def check : Value → Checked Plan
  | .map es =>
    Checked.apply (.apply
      ((Checked.field es ["projectName", "project_name"] unknownProject Checked.text).map Plan.mk)
      (Checked.field es ["repository"] unknownRepository Checked.text))
      (Checked.field es ["steps"] [] (Checked.list Step.check))
  | _ => .fail .notRecord

/-- How the record is named in reports of problems. -/
def recordName : String := "RemediationPlan"

/-- The plan that a document holds. -/
def read (v : Value) : Except Invalid Plan := (check v).named recordName

end Plan

end Remediation
