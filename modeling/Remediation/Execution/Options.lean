import Remediation.Checked
/-!
# Options of a run
-/

set_option autoImplicit false

namespace Remediation

/-- How a plan is run. -/
structure RunOptions where
  /-- Say what would be done instead of doing it. -/
  dryRun : Bool
  /-- Report more. -/
  verbose : Bool
  /-- Go on behind a step that failed. -/
  continueOnError : Bool
  /-- Where the actions run. -/
  workingDir : String
  deriving DecidableEq, Repr, Inhabited

namespace RunOptions

/-- A real run that stops at the first failure. -/
def default : RunOptions := ⟨false, false, false, ""⟩

/-- The options that a value holds. -/
def check : Value → Checked RunOptions
  | .map es =>
    let flag (names : List String) := Checked.field es names false Checked.truth
    Checked.apply (.apply (.apply
      ((flag ["dryRun", "dry_run"]).map RunOptions.mk)
      (flag ["verboseLogging", "verbose_logging"]))
      (flag ["continueOnError", "continue_on_error"]))
      (Checked.field es ["workingDir", "working_dir"] "" Checked.text)
  | _ => .fail .notRecord

/-- The options that a document holds. -/
def read (v : Value) : Except Invalid RunOptions := (check v).named "ExecutionOptions"

end RunOptions

end Remediation
