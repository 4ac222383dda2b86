import Remediation.Plan.Document
import Remediation.Schedule
import Remediation.Session
/-!
# Stored plans

Plans are kept in files, and their graphs are drawn into files.  A plan that could not be run is not
saved.
-/

set_option autoImplicit false

namespace Remediation

namespace Plan

/-- Refuse to save a plan that could not be run. -/
def checkSavable (p : Plan) : Except Fault Unit :=
  p.validate.mapError fun e => if e.kind.isPlan then .planRefused e else e

/-- A plan as the text of a file. -/
def fileText (p : Plan) : Except Fault String :=
  match p.render 2 with
  | .ok s => .ok (s ++ "\n")
  | .error r => .error (.unwritable r)

/-- Write a plan into a file as it is. -/
def write (p : Plan) (path : String) : Work Unit := do
  let s ← p.fileText
  let w ← (← Work.workspace).writeText (Path.parse path) s
  modify fun session => { session with workspace := w }

/-- Save a plan that could be run. -/
def save (p : Plan) (path : String) : Work Unit := do
  p.checkSavable
  p.write path

/-- The plan of a file. -/
def load (w : Workspace) (path : String) : Except Fault Plan :=
  let p := Path.parse path
  match w.readText p with
  | .error e => .error (if e.kind.isFile then .planUnread p.text e else e)
  | .ok s =>
    match Plan.parse s with
    | .error i => .error (.planInvalid p.text i)
    | .ok plan => .ok plan

end Plan

namespace PlanGraph

/-- Print the summary of a graph. -/
def printSummary (g : PlanGraph) : Work Unit := g.summary.forM Work.printLine

/-- Draw a graph into a file, and say so. -/
def draw (g : PlanGraph) (path : String) : Work Unit := do
  modify (·.draw path g.picture)
  Work.printLine s!"Plan graph  → {path}"

end PlanGraph

end Remediation
