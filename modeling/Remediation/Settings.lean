import Remediation.Text.Case
import Remediation.Workspace
/-!
# Settings

Where rules, actions and defaults are, and how much is reported, as the variables of the environment
say.
-/

set_option autoImplicit false

namespace Remediation

/-- Settings of the program. -/
structure Settings where
  ruleDirectory : String
  actionDirectories : List String
  defaultsPath : String
  logLevel : String
  /-- Where actions run; in the current directory if empty. -/
  workingDir : String
  deriving DecidableEq, Repr, Inhabited

namespace Settings

/-- The variables that settings come from. -/
def variableNames : List String :=
  ["RULE2PLAN_ACTIONS_DIRS", "RULE2PLAN_MAPPINGS_DIR", "RULE2PLAN_DEFAULTS_FILE",
    "RULE2PLAN_LOG_LEVEL", "RULE2PLAN_WORKING_DIR"]

/-- The settings of an environment. -/
def ofEnvironment (environment : List (String × String)) : Settings :=
  let get (name absent : String) : String := (lookupField environment name).getD absent
  let actions := get "RULE2PLAN_ACTIONS_DIRS" "library/actions"
  { ruleDirectory := get "RULE2PLAN_MAPPINGS_DIR" "library/mappings"
    actionDirectories := (Text.split ':' actions).filter (· ≠ "")
    defaultsPath := get "RULE2PLAN_DEFAULTS_FILE" ""
    logLevel := Text.upper (get "RULE2PLAN_LOG_LEVEL" "INFO")
    workingDir := get "RULE2PLAN_WORKING_DIR" "" }

/-- Where relative paths of actions start, if nothing else is said. -/
def base (s : Settings) (w : Workspace) : Path :=
  if s.workingDir = "" then w.current else Path.parse s.workingDir

/-- The paths of the actions. -/
def actionPaths (s : Settings) (w : Workspace) (base : Path) : Except Fault (List Path) :=
  s.actionDirectories.mapM fun entry => (w.expand (Path.parse entry)).map (base ++ ·)

end Settings

end Remediation
