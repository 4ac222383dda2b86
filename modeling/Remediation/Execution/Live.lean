import Remediation.Action
import Remediation.Execution
/-!
# Runs in a session

The backend of a run that carries out actions in a session.
-/

set_option autoImplicit false

namespace Remediation

namespace Execution

/-- Carry out an action of a session. -/
def perform (makers : Action.Makers) (name : String) (params : Fields) : StateM Session Attempt := do
  match ← (Action.resolve makers name).run with
  | .error e => return .unresolved e
  | .ok action =>
    match action.capture with
    | some capture =>
      match ← (capture params).run with
      | .ok captured => return .done (some captured)
      | .error e => return .failed e
    | none =>
      match ← (action.perform params).run with
      | .ok _ => return .done none
      | .error e => return .failed e

/-- A session as what a run acts on. -/
def live (makers : Action.Makers) : Backend Session where
  perform name params session := (perform makers name params).run session
  printLine line session := session.printLine line
  report level text session := session.report level text

/-- Run a plan: the plan with what has become of its steps, and how the run ended. -/
def runPlan (makers : Option Action.Makers) (o : RunOptions) (p : Plan) :
    StateM Session (Plan × Except Fault Summary) := do
  match makers with
  | none => return (p, .error (.noResolver "execute"))
  | some makers =>
    let outcome := run (live makers) o p.steps [] (← get)
    set outcome.state
    return ({ p with steps := outcome.steps }, outcome.result)

end Execution

end Remediation
