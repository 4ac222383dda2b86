import Remediation.Plan.Graph
/-!
# Pictures of plans

How the graph of a plan is shown: a summary in lines of text, and a picture with coloured nodes and
edges.

A picture can be made a page for a browser: a table of the steps in the colours of the picture, and a
table of what depends on what.
-/

set_option autoImplicit false

namespace Remediation

namespace PlanGraph

/-- The colour of a status that a step has once it has been started. -/
def statusColour? : Status → Option String
  | .pending => none
  | .running => some "#FFB74D"
  | .success => some "#81C784"
  | .failure => some "#E53935"

/-- The colour of a node: that of its status, or else that of its place. -/
def colour (g : PlanGraph) (id : String) : String :=
  match (g.note? id).bind fun n => statusColour? n.status with
  | some c => c
  | none =>
    if g.isRoot id then "#4CAF50" else if g.isLeaf id then "#4FC3F7" else "#B0BEC5"

/-- A line of a title. -/
def titleLine (name text : String) : String := s!"<b>{name}:</b> {text}<br>"

/-- What is said about a node. -/
def title (g : PlanGraph) (id : String) : String :=
  let note := g.note? id
  let error := (note.map (·.error)).getD ""
  s!"<b>{id}</b><br>" ++ titleLine "Action" ((note.map (·.action)).getD "N/A") ++
    titleLine "Reason" ((note.map (·.reason)).getD "") ++
    titleLine "Status" ((note.map fun n => n.status.word).getD "") ++
    (if error = "" then "" else titleLine "Error" error)

/-- The action of a node. -/
def actionOf (g : PlanGraph) (id : String) : String := ((g.note? id).map (·.action)).getD ""

/-- The ids of a kind of nodes, in order. -/
def sortedIds (g : PlanGraph) (kind : String → Bool) : List String :=
  (g.ids.filter kind).mergeSort fun a b => a ≤ b

/-- The lines for some nodes. -/
def nodeLines (g : PlanGraph) (heading : String) (ids : List String) : List String :=
  s!"  {heading}: {ids.length}" :: ids.map fun id => s!"    {id} – {g.actionOf id}"

/-- The lines for the layers, numbered from one. -/
def layerLines (layers : List (List String)) : List String :=
  (layers.zip (List.range layers.length)).map fun (layer, n) =>
    s!"    {n + 1}: " ++ Text.join ", " layer

/-- The lines for the critical path. -/
def pathLines (path : List String) : List String :=
  if path.isEmpty then []
  else ["", s!"  Critical path ({path.length} steps): " ++ Text.join "  →  " path]

/-- The lines about the order of the nodes, if they have one. -/
def orderLines (g : PlanGraph) : List String :=
  match g.layers, g.criticalPath with
  | .ok layers, .ok path => ["", "  Execution layers:"] ++ layerLines layers ++ pathLines path
  | _, _ => []

/-- A line across the page. -/
def rule : String := String.ofList (List.replicate 70 '=')

/-- The summary of a graph. -/
def summary (g : PlanGraph) : List String :=
  [rule, "PLAN GRAPH SUMMARY", s!"  Steps        : {g.nodes.length}",
    s!"  Dependencies : {g.edges.length}", ""] ++
  g.nodeLines "Root steps (no dependencies)" (g.sortedIds g.isRoot) ++ [""] ++
  g.nodeLines "Leaf steps (nothing depends on them)" (g.sortedIds g.isLeaf) ++
  g.orderLines ++ [rule]

end PlanGraph

/-- A node in a picture. -/
structure PictureNode where
  id : String
  label : String
  title : String
  colour : String
  shape : String
  size : Nat
  deriving DecidableEq, Repr, Inhabited

/-- An edge in a picture. -/
structure PictureEdge where
  source : String
  target : String
  label : String
  colour : String
  width : Float
  deriving Inhabited, BEq

/-- A picture of a graph. -/
structure Picture where
  nodes : List PictureNode
  edges : List PictureEdge
  deriving Inhabited, BEq

namespace PlanGraph

/-- A node in the picture: those that depend on nothing stand out. -/
def pictureNode (g : PlanGraph) (id : String) : PictureNode where
  id := id
  label := id ++ "\n" ++ g.actionOf id
  title := g.title id
  colour := g.colour id
  shape := if g.isRoot id then "diamond" else "box"
  size := if g.isRoot id then 30 else 20

/-- An edge in the picture: those that stand for a reference stand out. -/
def pictureEdge (e : PlanEdge) : PictureEdge where
  source := e.source
  target := e.target
  label := e.reference
  colour := if e.reference = "" then "#888888" else "#FFD600"
  width := if e.reference = "" then 1.5 else 3.5

/-- The picture of a graph. -/
def picture (g : PlanGraph) : Picture where
  nodes := g.ids.map g.pictureNode
  edges := g.orderedEdges.map pictureEdge

end PlanGraph

/-! ## Pages -/

namespace Page

/-- A character as a browser shows it. -/
def escapeChar : Char → String
  | '<' => "&lt;"
  | '>' => "&gt;"
  | '&' => "&amp;"
  | '"' => "&quot;"
  | '\n' => "<br>"
  | c => c.toString

/-- A text as a browser shows it. -/
def escape (s : String) : String := Text.join "" (s.toList.map escapeChar)

/-- A part of a page between two marks. -/
def tagged (mark body : String) : String := s!"<{mark}>" ++ body ++ s!"</{mark}>"

/-- A row of a table in a colour, with a title. -/
def row (colour title : String) (cells : List String) : String :=
  let front := "<tr style=\"background: " ++ escape colour ++ "\" title=\"" ++ escape title ++ "\">"
  front ++ Text.join "" (cells.map fun cell => tagged "td" (escape cell)) ++ "</tr>\n"

/-- A table. -/
def table (headings : List String) (rows : List String) : String :=
  let head := tagged "tr" (Text.join "" (headings.map (tagged "th"))) ++ "\n"
  tagged "table" ("\n" ++ head ++ Text.join "" rows) ++ "\n"

end Page

namespace Picture

/-- The page that shows a picture. -/
def page (p : Picture) : String :=
  let nodes := p.nodes.map fun n => Page.row n.colour n.title [n.label]
  let edges := p.edges.map fun e => Page.row e.colour e.label [e.source, e.target, e.label]
  let head := Page.tagged "head" ("<meta charset=\"utf-8\">" ++ Page.tagged "title" "Plan graph")
  let body := Page.tagged "body" ("\n" ++ Page.table ["Step"] nodes ++
    Page.table ["From", "To", "Reference"] edges)
  "<!DOCTYPE html>\n" ++ Page.tagged "html" ("\n" ++ head ++ "\n" ++ body ++ "\n") ++ "\n"

end Picture

end Remediation
