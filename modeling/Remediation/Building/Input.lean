import Remediation.Json.Reader
import Remediation.Value.Pairs
import Remediation.Workspace
import Remediation.Yaml
/-!
# Inputs

The reports and parameters that a plan is built from, in files and on the command line.  A file holds
JSON or, if it does not, YAML.
-/

set_option autoImplicit false

namespace Remediation

namespace Input

/-- The value of a text, in JSON or else in YAML. -/
def parse (s : String) : Except Fault Value :=
  match Json.read Json.lenient s with
  | .ok j => .ok j.toValue
  | .error _ => Yaml.read s

/-- The value of a file; `what` names the file in messages. -/
def readFile (w : Workspace) (what path : String) : Except Fault Value :=
  let p := Path.parse path
  match w.readText p with
  | .error e => .error (if e.kind.isFile then .inputUnread what p.text e else e)
  | .ok s =>
    (parse s).mapError fun e => if e.kind = .yaml then .inputUnparsed what p.text e else e

/-- The entries of a value; no value has none. -/
def entriesOr (shape : Fault) : Value → Except Fault (List (Scalar × Value))
  | .null => .ok []
  | .map es => .ok es
  | _ => .error shape

/-- The findings that a file reports. -/
def report (w : Workspace) (path : String) : Except Fault (List (Scalar × Value)) :=
  (readFile w "report" path).bind (entriesOr (.reportShape path))

/-- The parameters that a file holds. -/
def parametersIn (w : Workspace) (path : String) : Except Fault (List (Scalar × Value)) :=
  (readFile w "parameters" path).bind (entriesOr (.parametersShape path))

/-- The parameters that a text of JSON holds. -/
def parametersOf (s : String) : Except Fault (List (Scalar × Value)) :=
  match Json.read Json.lenient s with
  | .error e => .error (.inlineUnparsed (.json e))
  | .ok (.map fields) => .ok (fields.map fun (k, v) => (.text k, v.toValue))
  | .ok _ => .error .inlineShape

/-- The parameters of a file and of a text, those of the text counting before those of the file;
nothing stands in a file or text whose name or text is empty. -/
def parameters (w : Workspace) (path s : String) : Except Fault (List (Scalar × Value)) := do
  let stored ← if path = "" then .ok [] else parametersIn w path
  let given ← if s = "" then .ok [] else parametersOf s
  return mergeEntries stored given

end Input

end Remediation
