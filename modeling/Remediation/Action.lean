import Remediation.Action.Tool
/-!
# Actions

An action can be carried out with parameters, and may capture outputs.  Actions are made from their
definitions by the maker of their type; command line tools are the type that is always there.
-/

set_option autoImplicit false

namespace Remediation

/-- Something that a step can do. -/
structure Action where
  description : String
  /-- Carry it out. -/
  perform : Fields → Work Unit
  /-- Carry it out and capture its outputs, if it has any. -/
  capture : Option (Fields → Work Fields)

namespace Action

/-- How actions of each type are made. -/
abbrev Makers := List (String × (Definition → Work Action))

/-- Where actions run, and whether what they print is shown. -/
structure Context where
  directory : String
  verbose : Bool
  deriving DecidableEq, Repr, Inhabited

/-- A command line tool as an action. -/
def ofTool (t : Tool) (captures : Bool) : Action where
  description := t.description
  perform params := do discard <| t.run params
  capture := if captures then some t.capture else none

/-- Make a command line tool, which needs a command. -/
def makeTool (c : Context) (d : Definition) : Work Action := do
  if d.command = "" then throw (.actionWithoutCommand d.name)
  let outputs := d.outputs.getD []
  (outputWarnings outputs).forM Work.warn
  return ofTool ⟨d, c.directory, c.verbose⟩ (!outputs.isEmpty)

/-- The name of the type of command line tools. -/
def toolType : String := "cli"

/-- The types of actions that are always there. -/
def defaultMakers (c : Context) : Makers := [(toolType, makeTool c)]

/-- Make an action from its definition. -/
def make (makers : Makers) (d : Definition) : Work Action :=
  match makers.lookup d.type with
  | some maker => maker d
  | none => throw (.actionType d.type)

/-- Say for which action a definition is no good. -/
def unresolved (name : String) (e : Fault) : Fault :=
  if e.kind = .actionResolution then .actionUnresolved name e else e

/-- The action of a name. -/
def resolve (makers : Makers) (name : String) : Work Action := do
  let d ← Work.definition name
  tryCatch (make makers d) fun e => throw (unresolved name e)

end Action

end Remediation
