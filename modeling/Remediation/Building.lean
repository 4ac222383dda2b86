import Remediation.Building.Facts
import Remediation.Expansion
import Remediation.RuleFile
import Remediation.Schedule
/-!
# Building plans

A plan is built from a rule file and a report: facts are gathered, what the rules need and nobody has
told is asked for, the rules are expanded, and their steps are put in order.
-/

set_option autoImplicit false

namespace Remediation

namespace Building

/-- The text of a fact; `absent` if there is none or it is nothing. -/
def factText (facts : Facts) (name absent : String) : Except Fault String :=
  let v := (entryAt? facts name).getD .null
  if !v.isSomething then .ok absent
  else if v.isShowable then .ok v.shown
  else .error .longInteger

/-- The rules of a file, which has to have some. -/
def rulesIn (w : Workspace) (path : String) : Except Fault (List Rule) :=
  match RuleFile.load w (Path.parse path) with
  | .error e => .error e
  | .ok [] => .error (.ruleFileEmpty path)
  | .ok rules => .ok rules

/-- Where rule files are that are referred to. -/
def ruleDirectory (path : String) (o : BuildOptions) : Path :=
  if o.ruleDirectory = "" then (Path.parse path).parent else Path.parse o.ruleDirectory

/-- What rules are expanded against. -/
def setting (w : Workspace) (c : Action.Catalogue) (directory : Path) (rules : List Rule)
    (facts : Facts) : Expansion.Setting where
  facts := facts
  definition := c.definition w
  library := some (RuleFile.library w (some directory) rules)

/-- The plan that rules give. -/
def compile (s : Expansion.Setting) (rules : List Rule) : Except Fault Plan := do
  let steps ← Expansion.run s rules
  let steps ← (Schedule.sort steps).sorted
  let project ← factText s.facts "project_name" Plan.unknownProject
  let repository ← factText s.facts "project_repo" Plan.unknownRepository
  return ⟨project, repository, steps⟩

/-- The facts for some rules, those that are asked for included. -/
def factsFor (rules : List Rule) (report : Facts) (o : BuildOptions) : Work Facts := do
  let facts ← Gathering.gather report o
  if o.silent then return facts
  let (facts, answered) ← Gathering.complete facts (RuleFile.required rules)
  match answered with
  | .ok _ => return facts
  | .error e => throw e

/-- Build the plan of a rule file for a report, with actions from a catalogue. -/
def build (catalogue : Option Action.Catalogue) (path : String) (report : Facts)
    (o : BuildOptions) : Work Plan := do
  let some c := catalogue | throw (.noResolver "generate")
  let w ← Work.workspace
  let rules ← rulesIn w path
  let facts ← factsFor rules report o
  compile (setting w c (ruleDirectory path o) rules facts) rules

end Building

end Remediation
