import Remediation.Json.Path
import Remediation.Json.Reader
import Remediation.Pattern.Reader
/-!
# Outputs of commands

What a command prints is parsed into outputs.  An output is declared by a map: its format is JSON,
possibly with a path into it, or text, possibly with a pattern whose first group, or whole match, is
the output.
-/

set_option autoImplicit false

namespace Remediation

namespace Action

/-- How an output is parsed. -/
inductive OutputParser where
  /-- A JSON value, or what a path leads to in it. -/
  | json (path : Value)
  /-- A text without the blanks around it, or what a pattern finds in it. -/
  | text (pattern : Value)
  deriving Inhabited, BEq

/-- What the declaration of an output says. -/
inductive Declaration where
  | parser (p : OutputParser)
  /-- It has no format that is known. -/
  | unsupported (format : Value)
  /-- It is no declaration. -/
  | nothing
  deriving Inhabited, BEq

namespace Declaration

/-- What a value declares. -/
def ofValue : Value → Declaration
  | .map es =>
    let get (name : String) : Value := (entryAt? es name).getD .null
    match get "format" with
    | .text "json" => .parser (.json (get "path"))
    | .text "text" => .parser (.text (get "pattern"))
    | format => .unsupported format
  | _ => .nothing

end Declaration

/-- The parsers of declared outputs, by name. -/
def outputParsers (outputs : Fields) : List (String × OutputParser) :=
  outputs.filterMap fun (name, v) =>
    match Declaration.ofValue v with
    | .parser p => some (name, p)
    | _ => none

/-- What is said about outputs whose formats are not known. -/
def outputWarnings (outputs : Fields) : List String :=
  outputs.filterMap fun (name, v) =>
    match Declaration.ofValue v with
    | .unsupported format => some s!"Output {name} has unsupported format {format.quoted}; ignoring"
    | _ => none

/-- What a pattern finds in a text: its first group, if it has one, or the whole match. -/
def findText (pattern s : String) : Except Fault Value :=
  match Pattern.read pattern with
  | .error e => .error (.pattern e pattern)
  | .ok p =>
    match p.search s with
    | none => .error (.patternAbsent pattern)
    | some found =>
      if p.hasGroup then
        match found.groups.lookup 1 with
        | some cs => .ok (.text (String.ofList cs))
        | none => .ok .null
      else .ok (.text (String.ofList found.whole))

namespace OutputParser

/-- The JSON value of a text, or what a path leads to in it. -/
def parseJson (path : Value) (s : String) : Except Fault Value :=
  match Json.read Json.lenient s with
  | .error e => .error (.json e)
  | .ok j =>
    if !path.isSomething then .ok j.toValue
    else
      match path with
      | .text path => (j.follow path).map Json.toValue
      | v => .error (.noMatch v.typeName "split")

/-- What a pattern finds in a text; without a pattern, the text itself. -/
def parseText (pattern : Value) (s : String) : Except Fault Value :=
  if !pattern.isSomething then .ok (.text (Text.strip s))
  else
    match pattern with
    | .text pattern => findText pattern s
    | .scalar (.bytes _) => .error (.wrongPattern "cannot use a bytes pattern on a string-like object")
    | .scalar _ => .error (.wrongPattern "first argument must be string or compiled pattern")
    | v => .error (.wrongPattern s!"unhashable type: '{v.typeName}'")

/-- The output that a text holds. -/
def parse (p : OutputParser) (s : String) : Except Fault Value :=
  match p with
  | .json path => parseJson path s
  | .text pattern => parseText pattern s

end OutputParser

end Action

end Remediation
