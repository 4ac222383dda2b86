import Remediation.Checked
import Remediation.Repository
import Remediation.Substitution
import Remediation.Value.Display
import Remediation.Value.Pairs
import Remediation.Workspace
import Remediation.Yaml
/-!
# Gathering facts

The facts of a plan come from four sources: defaults, the repository, the report, and parameters that
are given.  Of two facts of one name that of the later source counts.  A source that cannot be read is
left out with a warning.

The defaults, which are facts for all reports, stand in a file of their own, which is looked for in
three places if it is not named.  What is still missing is asked for.  Options say where the sources
are and which of them are left out.
-/

set_option autoImplicit false

namespace Remediation

/-! ## Defaults -/

namespace Defaults

/-- Where the file is looked for. -/
def candidates : List Path :=
  ["params.yaml", ".rule2plan/params.yaml", "~/.rule2plan/params.yaml"].map Path.parse

/-- The first file that is there. -/
def findAmong (w : Workspace) : List Path → Except Fault (Option Path)
  | [] => .ok none
  | p :: ps =>
    match w.expand p with
    | .error e => .error e
    | .ok p =>
      match w.isFile p with
      | .error e => .error e
      | .ok true => .ok (some p)
      | .ok false => findAmong w ps

/-- The file, if it is in one of its places. -/
def find (w : Workspace) : Except Fault (Option Path) := findAmong w candidates

/-- The facts that the value of a file holds. -/
def factsOf (p : Path) (v : Value) : Except Fault (List (Scalar × Value)) :=
  if !v.isSomething then .ok []
  else
    match v with
    | .map es =>
      let given := (entryAt? es "default_parameters").getD .null
      if given.isSomething then given.toEntries.mapError .pairs else .ok []
    | _ => .error (.defaultsShape p.text)

/-- The facts of a file. -/
def read (w : Workspace) (p : Path) : Except Fault (List (Scalar × Value)) :=
  match (w.readText p).bind Yaml.read with
  | .error e =>
    .error (if e.kind.isFile || e.kind = .yaml then .defaultsUnread p.text e else e)
  | .ok v => factsOf p v

/-- The facts of the file of a name, or of the one that is found; no file holds none. -/
def load (w : Workspace) (path : String) : Except Fault (List (Scalar × Value)) := do
  if path = "" then
    match ← find w with
    | some p => read w p
    | none => return []
  else read w (← w.expand (Path.parse path))

end Defaults

/-! ## Options -/

/-- How facts are gathered and rule files found. -/
structure BuildOptions where
  /-- The file of the defaults; the first of the usual ones if empty. -/
  defaultsPath : String
  /-- The directory of the repository; the current one if empty. -/
  repository : String
  /-- Where rule files are; beside the first one if empty. -/
  ruleDirectory : String
  /-- Facts that count before all others. -/
  parameters : Facts
  skipDefaults : Bool
  skipRepository : Bool
  /-- Whether nobody is asked for what is missing. -/
  silent : Bool
  /-- Whether what the repository tells is printed. -/
  verbose : Bool
  deriving Inhabited

namespace BuildOptions

/-- All sources count, and what is missing is asked for. -/
def default : BuildOptions := ⟨"", "", "", [], false, false, false, false⟩

/-- Fields as facts. -/
def factsOf (fields : Fields) : Facts := fields.map fun (k, v) => (.text k, v)

/-- The options that a value holds. -/
def check : Value → Checked BuildOptions
  | .map es =>
    let text (name : String) := Checked.field es [name] "" Checked.text
    let flag (name : String) := Checked.field es [name] false Checked.truth
    Checked.apply (.apply (.apply (.apply (.apply (.apply (.apply
      ((text "defaults_path").map BuildOptions.mk)
      (text "repo_path"))
      (text "mappings_dir"))
      ((Checked.field es ["extra_params"] [] Checked.fields).map factsOf))
      (flag "skip_defaults"))
      (flag "skip_repo_inference"))
      (flag "non_interactive"))
      (flag "verbose")
  | _ => .fail .notRecord

/-- How the record is named in reports of problems. -/
def recordName : String := "GenerateOptions"

/-- The options that a document holds. -/
def read (v : Value) : Except Invalid BuildOptions := (check v).named recordName

end BuildOptions

/-! ## Gathering -/

namespace Gathering

/-- The defaults, unless they are skipped or cannot be read. -/
def defaults (o : BuildOptions) : Work Facts := do
  if o.skipDefaults then return []
  match Defaults.load (← Work.workspace) o.defaultsPath with
  | .ok facts => return facts
  | .error e =>
    if e.kind.isPlan then
      Work.warn s!"Failed to load default parameters: {e.message}"
      return []
    else throw e

/-- Print what the repository tells. -/
def printExplored (told : Fields) : Work Unit := do
  Work.printLine "Inferred parameters from repository:"
  for (name, v) in told do
    Work.printLine s!"  {name}: {v.shown}"

/-- What the repository tells, unless it is skipped or not there. -/
def repository (o : BuildOptions) : Work Facts := do
  if o.skipRepository then return []
  let directory := if o.repository = "" then none else some (Path.parse o.repository)
  let told : Option Fields ← tryCatch (some <$> Repository.explore directory) fun e =>
    if e.kind.isFile then do
      Work.warn s!"Failed to infer parameters from repository: {e.message}"
      return none
    else throw e
  let told := told.getD []
  if o.verbose && !told.isEmpty then printExplored told
  return BuildOptions.factsOf told

/-- Facts from four sources, of which the later ones count before the earlier ones. -/
def combine (defaults repository report parameters : Facts) : Facts :=
  mergeEntries (mergeEntries (mergeEntries defaults repository) report) parameters

/-- The facts of a report and of the other sources. -/
def gather (report : Facts) (o : BuildOptions) : Work Facts := do
  let defaults ← defaults o
  let repository ← repository o
  return combine defaults repository report o.parameters

/-- Whether there is a fact of a name. -/
def knows (facts : Facts) (name : String) : Bool := (entryAt? facts name).isSome

/-- The question for a fact. -/
def question (name : String) : String :=
  s!"Required parameter '{name}' is missing. Please enter a value: "

/-- Ask for the facts of some names that are missing, one after the other. -/
def complete (facts : Facts) : List String → StateM Session (Facts × Except Fault Unit)
  | [] => return (facts, .ok ())
  | name :: names => do
    if knows facts name then complete facts names
    else
      match ← modifyGet (·.ask (question name)) with
      | .given s => complete (upsertEntry facts (.text name) (.text s)) names
      | .interrupt => return (facts, .error .interrupted)
      | .closed => return (facts, .error (.answerMissing name))

end Gathering

end Remediation
