import Remediation.Json.Reader
import Remediation.Rule
import Remediation.Template
import Remediation.Workspace
import Remediation.Yaml
/-!
# Rule files

A rule file is a document with a list of rules, in JSON if its name says so and in YAML otherwise.
Rules refer to other rule files by paths, which start at a directory if they do not start at a root.
-/

set_option autoImplicit false

namespace Remediation

namespace RuleFile

/-- The value of a document, in the format that its name says. -/
def parse (p : Path) (s : String) : Except Fault Value :=
  if p.suffix.map Char.toLower = ".json" then
    match Json.read Json.lenient s with
    | .ok j => .ok j.toValue
    | .error e => .error (.json e)
  else Yaml.read s

/-- The rules that the value of a document holds; no value holds no rules. -/
def rulesOf (p : Path) (v : Value) : Except Fault (List Rule) :=
  match v with
  | .null => .ok []
  | .map es => (read (.map es)).mapError (.ruleFileInvalid p.text)
  | _ => .error (.ruleFileShape p.text)

/-- The rules of a file. -/
def load (w : Workspace) (p : Path) : Except Fault (List Rule) :=
  match w.readText p with
  | .error e => .error (if e.kind.isFile then .ruleFileUnread p.text e else e)
  | .ok s =>
    match parse p s with
    | .error e =>
      .error (if e.kind.isValue || e.kind = .yaml then .ruleFileUnparsed p.text e else e)
    | .ok v => rulesOf p v

/-- The path that a reference means. -/
def locate (w : Workspace) (directory : Option Path) (ref : String) : Except Fault Path :=
  (w.expand (Path.parse ref)).map fun p =>
    match directory with
    | some d => d ++ p
    | none => p

/-- The rules of the file that a reference means. -/
def follow (w : Workspace) (directory : Option Path) (ref : String) : Except Fault (List Rule) :=
  match locate w directory ref with
  | .error e => .error e
  | .ok p => load w p

end RuleFile

mutual

/-- The references of a rule and of the rules below it. -/
def Rule.references : Rule → List String
  | ⟨_, _, ref, _, _, _, _, _, _, steps, _, _⟩ =>
    (if ref = "" then [] else [ref]) ++ Rule.referencesOf steps

/-- The references of rules and of the rules below them. -/
def Rule.referencesOf : List Rule → List String
  | [] => []
  | r :: rs => r.references ++ Rule.referencesOf rs

end

mutual

/-- The names of the placeholders in the parameters of a rule and of the rules below it, behind those
that were found before. -/
def Rule.placeholdersFrom (found : List String) : Rule → List String
  | ⟨_, _, _, _, _, _, parameters, _, _, steps, _, _⟩ =>
    Rule.placeholdersOf ((Value.ofFields parameters).placeholdersFrom found) steps

/-- The names of the placeholders in the parameters of rules. -/
def Rule.placeholdersOf (found : List String) : List Rule → List String
  | [] => found
  | r :: rs => Rule.placeholdersOf (r.placeholdersFrom found) rs

end

namespace RuleFile

/-- The names that the parameters of rules need, in order. -/
def required (rules : List Rule) : List String :=
  (Rule.placeholdersOf [] rules).mergeSort fun a b => a ≤ b

/-- The references of the rules of all files of a workspace. -/
def allReferences (w : Workspace) : List String :=
  w.tree.files.flatMap fun (names, bytes) =>
    match (Workspace.textOf bytes).bind (parse ⟨"/", names⟩) with
    | .ok v =>
      match rulesOf ⟨"/", names⟩ v with
      | .ok rules => Rule.referencesOf rules
      | .error _ => []
    | .error _ => []

/-- The rule files that can be reached from rules. -/
def library (w : Workspace) (directory : Option Path) (rules : List Rule) :
    List (String × Except Fault (List Rule)) :=
  ((Rule.referencesOf rules ++ allReferences w).foldl appendNew []).map fun ref =>
    (ref, follow w directory ref)

end RuleFile

end Remediation
