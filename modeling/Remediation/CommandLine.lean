import Remediation.Building
import Remediation.Building.Input
import Remediation.CommandLine.Command
import Remediation.CommandLine.Help
import Remediation.Execution.Live
import Remediation.Plan.Storage
import Remediation.Settings
import Remediation.Value.Order
/-!
# The command line

Carrying out what the program is told.  Faults of plans and of their execution are reported on a line
and end the program with status one; a command line that is refused ends it with status two, and an
interrupt with status 130.
-/

set_option autoImplicit false

namespace Remediation

namespace CommandLine

/-- How a run of the program ends. -/
inductive Exit where
  | status (n : Nat)
  /-- A fault that is not reported. -/
  | fault (e : Fault)
  deriving Inhabited

/-- What a run of the program leaves besides what it has done. -/
structure Finish where
  exit : Exit
  /-- What it says about faults. -/
  errors : String
  deriving Inhabited

namespace Finish

/-- The end of a command. -/
def ofResult : Except Fault Unit → Finish
  | .ok _ => ⟨.status 0, ""⟩
  | .error e =>
    if e.kind.isPlan || e.kind.isExecution then ⟨.status 1, s!"Error: {e.message}\n"⟩
    else if e.kind = .interrupt then ⟨.status 130, "\nInterrupted.\n"⟩
    else ⟨.fault e, ""⟩

/-- The end of a run whose command line was not read to its end. -/
def ofStop : Stop → Finish
  | .help _ => ⟨.status 0, ""⟩
  | .fault g f => ⟨.status 2, g.usage ++ s!"{g.program}: error: {f.message}\n"⟩

end Finish

/-- The first of two texts, or the second one if the first is empty. -/
def orElse (s t : String) : String := if s = "" then t else s

/-- Make the actions known that the settings name: how they are made. -/
def prepare (s : Settings) (workingDir : String) (verbose : Bool) : Work Action.Makers := do
  let w ← Work.workspace
  let paths ← s.actionPaths w (s.base w)
  modify fun session => { session with catalogue := ⟨paths, []⟩ }
  let directory := orElse (orElse workingDir s.workingDir) w.current.text
  return Action.defaultMakers ⟨directory, verbose⟩

/-- The options for building a plan. -/
def buildOptions (s : Settings) (verbose : Bool) (a : GenerateArguments) (parameters : Facts) :
    Except Fault BuildOptions :=
  let checked : Checked Fields := (Checked.fields (.map parameters)).inside (.field "extra_params")
  match checked.named BuildOptions.recordName with
  | .error i => .error (.invalid i)
  | .ok fields => .ok {
      defaultsPath := orElse a.defaults s.defaultsPath
      repository := a.repository
      ruleDirectory := orElse a.ruleDirectory s.ruleDirectory
      parameters := BuildOptions.factsOf fields
      skipDefaults := a.skipDefaults, skipRepository := a.skipRepository
      silent := a.silent, verbose := verbose }

/-- Build a plan, and save it or print it. -/
def generate (s : Settings) (verbose : Bool) (a : GenerateArguments) : Work Unit := do
  let w ← Work.workspace
  let report ← Input.report w a.report
  let stored ← Input.parameters w a.parameterFile a.parameterText
  let options ← buildOptions s verbose a
    (mergeEntries stored (BuildOptions.factsOf a.parameters))
  discard <| prepare s "" verbose
  let catalogue := (← get).catalogue
  let plan ← Building.build (some catalogue) a.rules report options
  if a.output = "" then
    plan.validate
    let text ← plan.fileText
    modify (·.print text)
  else
    plan.save a.output
    Work.printLine s!"Remediation plan saved to {a.output} ({plan.steps.length} steps)"

/-- Say whether a plan could be run. -/
def validate (path : String) : Work Unit := do
  let plan ← Plan.load (← Work.workspace) path
  plan.validate
  Work.printLine
    s!"Plan is valid: {plan.steps.length} steps for {plan.project} ({plan.repository})"

/-- Run a plan, and write what has become of it, however the run ends. -/
def execute (s : Settings) (verbose : Bool) (a : ExecuteArguments) : Work Unit := do
  let plan ← Plan.load (← Work.workspace) a.plan
  plan.validate
  let workingDir := orElse a.workingDir s.workingDir
  let makers ← prepare s workingDir verbose
  if a.dryRun then
    Work.printLine s!"Dry run of plan for {plan.project} ({plan.steps.length} steps)"
  let (plan, result) ← Execution.runPlan (some makers)
    ⟨a.dryRun, verbose, a.continueOnError, workingDir⟩ plan
  if a.statusFile ≠ "" then plan.write a.statusFile
  discard result

/-- Summarise the graph of a plan, and draw it. -/
def graph (path html : String) : Work Unit := do
  let g := (← Plan.load (← Work.workspace) path).graph
  g.printSummary
  if html ≠ "" then g.draw html

/-- Print facts, in the order of their names. -/
def printFacts (facts : Facts) : List Scalar → Work Unit
  | [] => return
  | name :: names => do
    let v := ((facts.find? fun (k, _) => k.sameKey name).map Prod.snd).getD .null
    if !v.isShowable || !name.isShowable then throw .longInteger
    Work.printLine s!"  {name.shown}: {v.shown}"
    printFacts facts names

/-- Print the names that a rule file needs, and those that no fact has. -/
def printRequired (facts : Facts) (path : String) : Work Unit := do
  let rules ← RuleFile.load (← Work.workspace) (Path.parse path)
  let required := RuleFile.required rules
  let missing := required.filter fun name => !Gathering.knows facts name
  let text := if required.isEmpty then "(none)" else Text.join ", " required
  Work.printLine ""
  Work.printLine s!"Parameters used by {path}: {text}"
  if !missing.isEmpty then Work.printLine ("Missing: " ++ Text.join ", " missing)

/-- Show the facts that rules can use. -/
def params (s : Settings) (repository defaults rules : String) : Work Unit := do
  let options := { BuildOptions.default with
    defaultsPath := orElse defaults s.defaultsPath, repository := repository }
  let facts ← Gathering.gather [] options
  Work.printLine "Known parameters:"
  printFacts facts (← Scalar.sort (facts.map Prod.fst))
  if rules ≠ "" then printRequired facts rules

/-- Show what a repository tells. -/
def infer (repository : String) : Work Unit := do
  let directory := if repository = "" then none else some (Path.parse repository)
  let told ← Repository.explore directory
  Work.printLine (← Execution.screenText told)

/-- A text with blanks behind it, up to a length. -/
def padded (width : Nat) (s : String) : String :=
  s ++ String.ofList (List.replicate (width - s.length) ' ')

/-- The lines for some actions. -/
def actionLines (found : List (String × Action.Definition)) : List String :=
  let width := (found.map fun (name, _) => name.length).foldl max 0
  (found.mergeSort fun a b => a.1 ≤ b.1).map fun (name, d) =>
    s!"  {padded width name}  [{d.type}]  {d.description}"

/-- List the available actions. -/
def actions (s : Settings) : Work Unit := do
  discard <| prepare s "" false
  let catalogue := (← get).catalogue
  let listing ← catalogue.listing (← Work.workspace)
  listing.warnings.forM Work.warn
  if listing.found.isEmpty then
    Work.printLine ("No actions found in: " ++ Text.join ", " (catalogue.paths.map Path.text))
  else (actionLines listing.found).forM Work.printLine

/-- Carry out a command. -/
def perform (s : Settings) (verbose : Bool) : Command → Work Unit
  | .generate a => generate s verbose a
  | .execute a => execute s verbose a
  | .validate path => validate path
  | .graph path html => graph path html
  | .params repository defaults rules => params s repository defaults rules
  | .infer repository => infer repository
  | .actions => actions s

/-- Run the program with the words of a command line, in an environment. -/
def run (environment : List (String × String)) (words : List String) : StateM Session Finish := do
  match readWords words with
  | .error (.help g) =>
    modify (·.print g.help)
    return .ofStop (.help g)
  | .error stop => return .ofStop stop
  | .ok (verbose, command) =>
    return .ofResult (← (perform (.ofEnvironment environment) verbose command).run)

end CommandLine

end Remediation
