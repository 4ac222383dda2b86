import Remediation.Action.Output
import Remediation.Session
import Remediation.Substitution
/-!
# Command line tools

An action may run a command.  The command and its arguments are templates, filled from the parameters
and, where a step gives none, from the defaults: each template gives one argument.  A command that
ends with a status other than zero has failed.

What a command prints is parsed into outputs; an output that cannot be parsed is left out with a
warning.
-/

set_option autoImplicit false

namespace Remediation

namespace Action

/-- A command line tool and where it runs. -/
structure Tool where
  definition : Definition
  /-- Where it runs; in the current directory if empty. -/
  directory : String
  /-- Whether what it prints is shown. -/
  verbose : Bool
  deriving Inhabited

namespace Tool

/-- How a tool is described that has no description. -/
def defaultDescription : String := "Execute a command line tool"

/-- The description of a tool. -/
def description (t : Tool) : String :=
  if t.definition.description = "" then defaultDescription else t.definition.description

/-- The values that templates are filled from. -/
def values (t : Tool) (params : Fields) : Facts :=
  (overlay t.definition.defaults params).map fun (k, v) => (.text k, v)

/-- Say that names are missing in the templates of a tool. -/
def missingIn (name : String) (e : Fault) : Fault :=
  if e.kind = .missingParameter then .commandTemplate name e else e

/-- The command with its arguments. -/
def command (t : Tool) (params : Fields) : Except Fault (List String) :=
  ((t.definition.command :: t.definition.args).mapM fun template =>
    Template.substitute template (t.values params)).mapError (missingIn t.definition.name)

/-- The first of two texts that is not blank, without the blanks around it. -/
def detail (errors output : String) : String :=
  let e := Text.strip errors
  if e = "" then Text.strip output else e

/-- Run the tool: what it prints. -/
def run (t : Tool) (params : Fields) : Work String := do
  let argv ← t.command params
  let directory := if t.directory = "" then none else some t.directory
  match ← Work.launch argv directory with
  | .failure reason => throw (.command (.launch reason))
  | .exit status output errors =>
    if t.verbose then modify (·.print output)
    if status ≠ 0 then
      throw (.command (.exit (argv.head?.getD "") status (detail errors output)))
    return output

/-- Parse outputs one by one, leaving out those that cannot be parsed. -/
def parseOutputs (name : String) (printed : String) :
    List (String × OutputParser) → Fields → Work Fields
  | [], found => return found
  | (output, p) :: rest, found => do
    match p.parse printed with
    | .ok v => parseOutputs name printed rest (setField found output v)
    | .error e =>
      if e.kind.isValue then
        Work.warn s!"Failed to parse output {output} of action {name}: {e.message}"
        parseOutputs name printed rest found
      else throw e

/-- Run the tool: its outputs. -/
def capture (t : Tool) (params : Fields) : Work Fields := do
  let printed ← t.run params
  parseOutputs t.definition.name printed (outputParsers (t.definition.outputs.getD [])) []

end Tool

end Action

end Remediation
