import Remediation.CommandLine.Grammar
import Remediation.Json.Reader
import Remediation.Text.Case
/-!
# Commands

What the program can be told to do, and how it is told.  A word that no switch or argument takes is a
fault of the whole command line.
-/

set_option autoImplicit false

namespace Remediation

/-- What to build a plan from, as the command line says; what it does not say is empty. -/
structure GenerateArguments where
  report : String
  rules : String
  ruleDirectory : String
  output : String
  /-- Parameters that count before all others. -/
  parameters : List (String × Value)
  parameterFile : String
  /-- Parameters in JSON. -/
  parameterText : String
  repository : String
  defaults : String
  skipDefaults : Bool
  skipRepository : Bool
  silent : Bool
  deriving Inhabited

/-- How to run a plan, as the command line says; what it does not say is empty. -/
structure ExecuteArguments where
  plan : String
  dryRun : Bool
  continueOnError : Bool
  workingDir : String
  /-- Where the plan is written after the run. -/
  statusFile : String
  deriving DecidableEq, Repr, Inhabited

/-- What the program can be told to do. -/
inductive Command where
  | generate (arguments : GenerateArguments)
  | execute (arguments : ExecuteArguments)
  | validate (plan : String)
  | graph (plan html : String)
  | params (repository defaults rules : String)
  | infer (repository : String)
  | actions
  deriving Inhabited

namespace Command

/-- The files and directories that a command names; what it does not name is empty. -/
def paths : Command → List String
  | generate a =>
    [a.report, a.rules, a.ruleDirectory, a.output, a.parameterFile, a.repository, a.defaults]
  | execute a => [a.plan, a.workingDir, a.statusFile]
  | validate plan => [plan]
  | graph plan html => [plan, html]
  | params repository defaults rules => [repository, defaults, rules]
  | infer repository => [repository]
  | actions => []

end Command

namespace CommandLine

/-- A switch that takes no value. -/
def flag (names : List String) (about : String) : Switch := ⟨names, .flag, false, "", about⟩

/-- What stands for the value of a switch, from its name. -/
def sampleOf (name : String) : String :=
  Text.upper (Text.join "_" ((Text.split '-' name).filter (· != "")))

/-- A switch that takes a value. -/
def option (names : List String) (about : String) : Switch :=
  ⟨names, .text, false, sampleOf (names.headD ""), about⟩

/-- The name of the program. -/
def programName : String := "rule2plan"

/-- The words that say what to do, with what they mean. -/
def commandNames : List (String × String) :=
  [("generate", "Generate a remediation plan from a report."),
    ("execute", "Execute a remediation plan."),
    ("validate", "Validate a remediation plan."),
    ("graph", "Summarise a plan's dependency graph."),
    ("params", "Show the parameters available to rules."),
    ("infer", "Print parameters inferred from a repository as JSON."),
    ("actions", "List available actions.")]

/-- The grammar of what is in front of the command. -/
def mainGrammar : Grammar :=
  ⟨programName, "Compile findings reports into remediation plans and execute them.",
    [.help, flag ["--verbose", "-v"] "Enable verbose output."],
    some ⟨"command", .command commandNames, ""⟩⟩

/-- The argument for a plan. -/
def planArgument : Positional := ⟨"plan", .one, "Plan JSON file."⟩

/-- The switch for a repository. -/
def repositorySwitch : Switch :=
  option ["--repo", "-r"] "Repository to infer parameters from."

/-- The switch for default parameters. -/
def defaultsSwitch : Switch := option ["--defaults"] "Default parameters file."

/-- The switches for building a plan. -/
def generateSwitches : List Switch :=
  [{ option ["--mappings", "-m"] "Rule file to evaluate." with required := true },
    option ["--mappings-dir", "-d"]
      "Directory for resolving rule references (default: RULE2PLAN_MAPPINGS_DIR).",
    option ["--output", "-o"] "Write the plan here instead of stdout.",
    ⟨["--param"], .pair, false, "KEY=VALUE",
      "Extra parameter; overrides every other source. May be repeated."⟩,
    option ["--params-file", "-p"] "JSON or YAML file with extra parameters.",
    option ["--params-json"] "JSON object with extra parameters.",
    repositorySwitch, defaultsSwitch,
    flag ["--skip-defaults"] "Do not load default parameters.",
    flag ["--skip-inference"] "Do not infer parameters from the repository.",
    flag ["--non-interactive", "-n"] "Do not prompt for missing parameters."]

/-- The switches for running a plan. -/
def executeSwitches : List Switch :=
  [flag ["--dry-run"] "Print what would run without running it.",
    flag ["--continue-on-error"] "Keep going after a step fails.",
    option ["--working-dir", "-w"] "Directory actions run in.",
    ⟨["--save-status"], .text, false, "FILE",
      "Write the plan with per-step status here after the run."⟩]

/-- The switches and the positional argument of a command. -/
def commandForms : String → List Switch × Option Positional
  | "generate" => (generateSwitches, some ⟨"report", .one, "Findings report (JSON or YAML)."⟩)
  | "execute" => (executeSwitches, some planArgument)
  | "validate" => ([], some planArgument)
  | "graph" =>
    ([option ["--html"] "Also export an interactive HTML graph."], some planArgument)
  | "params" =>
    ([repositorySwitch, defaultsSwitch,
      option ["--mappings", "-m"] "Also list the parameters this rule file uses."], none)
  | "infer" => ([], some ⟨"repo", .optional, "Repository path (default: current dir)."⟩)
  | _ => ([], none)

/-- The grammar of what is behind the name of a command. -/
def commandGrammar (name : String) : Grammar :=
  let (switches, positional) := commandForms name
  ⟨programName ++ " " ++ name, "", .help :: switches, positional⟩

/-- The parameter that a text with an equals sign gives: its value is JSON if it can be read as
that. -/
def parameterOf (s : String) : String × Value :=
  let (key, value) := Text.cut '=' s
  let value := value.getD ""
  match Json.read Json.lenient value with
  | .ok j => (key, j.toValue)
  | .error _ => (key, .text value)

/-- The command that a reading says. -/
def commandOf (name : String) (r : Reading) : Command :=
  match name with
  | "generate" => .generate {
      report := r.argument, rules := r.last "--mappings", ruleDirectory := r.last "--mappings-dir"
      output := r.last "--output", parameters := (r.all "--param").map parameterOf
      parameterFile := r.last "--params-file", parameterText := r.last "--params-json"
      repository := r.last "--repo", defaults := r.last "--defaults"
      skipDefaults := r.has "--skip-defaults", skipRepository := r.has "--skip-inference"
      silent := r.has "--non-interactive" }
  | "execute" => .execute {
      plan := r.argument, dryRun := r.has "--dry-run"
      continueOnError := r.has "--continue-on-error", workingDir := r.last "--working-dir"
      statusFile := r.last "--save-status" }
  | "validate" => .validate r.argument
  | "graph" => .graph r.argument (r.last "--html")
  | "params" => .params (r.last "--repo") (r.last "--defaults") (r.last "--mappings")
  | "infer" => .infer r.argument
  | _ => .actions

/-- What the words of a command line say: whether to report more, and the command. -/
def readWords (words : List String) : Except Stop (Bool × Command) := do
  let outer ← mainGrammar.read words
  let name := outer.argument
  let inner ← (commandGrammar name).read (outer.positional.drop 1)
  match outer.left ++ inner.left with
  | [] => return (outer.has "--verbose", commandOf name inner)
  | left => mainGrammar.refuse (.unrecognized left)

end CommandLine

end Remediation
