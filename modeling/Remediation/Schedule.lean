import Remediation.Dependency
import Remediation.Plan
import Remediation.Fault
import Remediation.Template
/-!
# Schedules

The steps of a plan are put into an order in which every step stands behind those that it depends
on.  A step also depends on the steps whose outputs it takes, so these are added to its dependencies
first.

An order is refused for the first of these reasons: an id stands twice, a step depends on one that is
not there, or the dependencies form a cycle.
-/

set_option autoImplicit false

namespace Remediation

namespace Step

/-- The step that an output reference of this step takes from: what stands before the point, unless
it is nothing or this step. -/
def source? (s : Step) (ref : String) : Option String :=
  match Text.cut '.' ref with
  | (source, some _) => if source = "" ∨ source = s.id then none else some source
  | (_, none) => none

/-- The steps whose outputs a step takes, in the order of its references. -/
def sources (s : Step) : List String := s.outputRefs.filterMap fun (_, ref) => s.source? ref

/-- A step that also depends on the steps whose outputs it takes. -/
def withSources (s : Step) : Step := { s with dependsOn := s.sources.foldl appendNew s.dependsOn }

end Step

namespace Schedule

/-- The first id that has stood before. -/
def repeatedId? (before : List String) : List String → Option String
  | [] => none
  | id :: ids => if id ∈ before then some id else repeatedId? (id :: before) ids

/-- The ids of steps. -/
def ids (steps : List Step) : List String := steps.map (·.id)

/-- Steps as vertices. -/
def web (steps : List Step) : Web := steps.map fun s => (s.id, s.dependsOn)

/-- Refuse steps of the same id. -/
def checkIds (steps : List Step) : Except Fault Unit :=
  match repeatedId? [] (ids steps) with
  | some id => .error (.duplicateStep id)
  | none => .ok ()

/-- The first dependency of a step that is none of the ids. -/
def absentDependency? (known : List String) (s : Step) : Option Fault :=
  (s.dependsOn.find? (· ∉ known)).map (.missingDependency s.id)

/-- Refuse dependencies that are not there. -/
def checkDependencies (steps : List Step) : Except Fault Unit :=
  match steps.findSome? (absentDependency? (ids steps)) with
  | some e => .error e
  | none => .ok ()

/-- Refuse cycles. -/
def checkCycles (steps : List Step) : Except Fault Unit :=
  match (web steps).cycle with
  | [] => .ok ()
  | cycle => .error (.circularDependency cycle)

/-- Steps before and after they were put in order. -/
structure Sorting where
  /-- The steps in their first order, with the dependencies that were added. -/
  settled : List Step
  /-- The steps in order. -/
  sorted : Except Fault (List Step)
  deriving Inhabited

/-- The step of an id. -/
def step? (steps : List Step) (id : String) : Option Step := steps.find? (·.id == id)

/-- Put steps in order whose ids are different. -/
def arrange (steps : List Step) : Except Fault (List Step) :=
  match checkDependencies steps with
  | .error e => .error e
  | .ok _ =>
    match checkCycles steps with
    | .error e => .error e
    | .ok _ => .ok ((web steps).order.filterMap (step? steps))

/-- Add the dependencies on sources and put the steps in order. -/
def sort (steps : List Step) : Sorting :=
  match checkIds steps with
  | .error e => ⟨steps, .error e⟩
  | .ok _ =>
    let settled := steps.map Step.withSources
    ⟨settled, arrange settled⟩

end Schedule

namespace Plan

/-- Refuse a plan that could not be run as it is. -/
def validate (p : Plan) : Except Fault Unit :=
  if p.steps.isEmpty then .error .planWithoutSteps
  else if p.steps.any (·.id == "") then .error .stepWithoutId
  else
    match Schedule.checkIds p.steps with
    | .error e => .error e
    | .ok _ =>
      match p.steps.find? (·.action == "") with
      | some s => .error (.stepWithoutAction s.id)
      | none =>
        match Schedule.checkDependencies p.steps with
        | .error e => .error e
        | .ok _ => Schedule.checkCycles p.steps

end Plan

end Remediation
