import Remediation.Action.Definition
import Remediation.Workspace
import Remediation.Yaml
/-!
# Catalogues of actions

The definition of an action stands in a file of its name, in the first of some directories that has
one.  What has been read once is kept.

The available actions are those of all files in the directories, under the names that the files give
them; of several files for one name the first counts.
-/

set_option autoImplicit false

namespace Remediation

namespace Action

/-- What the name of a definition's file ends in. -/
def fileEnding : String := ".yaml"

/-- The definition that a file holds; a definition without a name is named for its file. -/
def Definition.load (w : Workspace) (p : Path) : Except Fault Definition :=
  match (w.readText p).bind Yaml.read with
  | .error e =>
    .error (if e.kind.isFile || e.kind = .yaml then .actionUnread p.text e else e)
  | .ok v =>
    let v := if v.isSomething then v else .map []
    match v with
    | .map _ =>
      match Definition.read v with
      | .error i => .error (.actionInvalid p.text i)
      | .ok d => .ok (if d.name = "" then { d with name := p.stem } else d)
    | _ => .error (.actionShape p.text)

/-- Where definitions are found. -/
structure Catalogue where
  /-- The directories, the first of which counts most. -/
  paths : List Path
  /-- The definitions that have been read. -/
  known : List (String × Definition)
  deriving Inhabited

namespace Catalogue

/-- The file of the first directory that has one of a name. -/
def file? (w : Workspace) (name : String) : List Path → Except Fault (Option Path)
  | [] => .ok none
  | p :: paths =>
    let candidate := p.child (name ++ fileEnding)
    match w.isFile candidate with
    | .error e => .error e
    | .ok true => .ok (some candidate)
    | .ok false => file? w name paths

/-- The directories in a message. -/
def searched (c : Catalogue) : String :=
  if c.paths.isEmpty then "(no action paths)" else Text.join ", " (c.paths.map Path.text)

/-- The definition of an action. -/
def definition (c : Catalogue) (w : Workspace) (name : String) : Except Fault Definition :=
  match lookupField c.known name with
  | some d => .ok d
  | none =>
    match file? w name c.paths with
    | .error e => .error e
    | .ok none => .error (.actionUnknown name c.searched)
    | .ok (some p) => Definition.load w p

/-- The definition of an action, which is known afterwards. -/
def learn (c : Catalogue) (w : Workspace) (name : String) : Except Fault Definition × Catalogue :=
  match c.definition w name with
  | .ok d => (.ok d, { c with known := setField c.known name d })
  | .error e => (.error e, c)

/-- Add a definition under its name, unless the name is taken. -/
def addNew (found : List (String × Definition)) (d : Definition) : List (String × Definition) :=
  if (lookupField found d.name).isSome then found else found ++ [(d.name, d)]

/-- Definitions by name, and what is said about files that hold none. -/
structure Listing where
  found : List (String × Definition)
  warnings : List String
  deriving Inhabited

/-- Add the definition of a file to a listing. -/
def listFile (w : Workspace) (l : Listing) (p : Path) : Except Fault Listing :=
  match Definition.load w p with
  | .ok d => .ok { l with found := addNew l.found d }
  | .error e =>
    if e.kind = .actionResolution then
      .ok { l with warnings := l.warnings ++ ["Skipping invalid action config: " ++ e.message] }
    else .error e

/-- Add the definitions of a directory to a listing. -/
def listDirectory (w : Workspace) (l : Listing) (p : Path) : Except Fault Listing :=
  match w.isDirectory p with
  | .error e => .error e
  | .ok false => .ok l
  | .ok true => (w.entriesEnding p fileEnding).foldlM (listFile w) l

/-- The actions of all directories; what is known already does not count. -/
def listing (c : Catalogue) (w : Workspace) : Except Fault Listing :=
  c.paths.foldlM (listDirectory w) ⟨[], []⟩

end Catalogue

end Action

end Remediation
