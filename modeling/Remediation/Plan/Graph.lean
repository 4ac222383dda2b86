import Remediation.Fault
import Remediation.Plan
import Remediation.Text.Split
/-!
# Graphs of plans

The graph of a plan has a node for each id, and an edge to each step from what it depends on.  What is
no step of the plan but depended on is a node as well, about which nothing is known.

Nodes and edges stand in the order in which they are met, steps before all else; a step whose id has
stood before takes the place of the earlier one.

The nodes of a graph without cycles fall into layers: the first holds those that depend on nothing,
and each further one those that depend on nothing but earlier layers.  Within a layer a node stands
where the last node that it depends on lets it go.

The critical path is the longest chain of dependencies; of several it is the one that ends first in
the order of the layers, and that comes by the dependencies that were named first.
-/

set_option autoImplicit false

namespace Remediation

/-- What is known about a node. -/
structure NodeNote where
  action : String
  reason : String
  status : Status
  /-- The error of the step; empty if it has none. -/
  error : String
  deriving DecidableEq, Repr, Inhabited

namespace NodeNote

/-- What a step tells. -/
def ofStep (s : Step) : NodeNote := ⟨s.action, s.reason, s.status, s.error.getD ""⟩

end NodeNote

/-- An edge to a step from what it depends on. -/
structure PlanEdge where
  source : String
  target : String
  /-- The output reference that the edge stands for; empty if it stands for none. -/
  reference : String
  deriving DecidableEq, Repr, Inhabited

/-- A graph of steps. -/
structure PlanGraph where
  nodes : List (String × Option NodeNote)
  edges : List PlanEdge
  deriving DecidableEq, Repr, Inhabited

namespace PlanGraph

/-- The graph without nodes. -/
def empty : PlanGraph := ⟨[], []⟩

/-- The ids of the nodes. -/
def ids (g : PlanGraph) : List String := g.nodes.map Prod.fst

/-- What is known about a node. -/
def note? (g : PlanGraph) (id : String) : Option NodeNote := (lookupField g.nodes id).join

/-- Add a node for a step. -/
def addStep (g : PlanGraph) (s : Step) : PlanGraph :=
  { g with nodes := setField g.nodes s.id (some (.ofStep s)) }

/-- Nodes with one for an id, about which nothing is known if it is new. -/
def withId (nodes : List (String × Option NodeNote)) (id : String) :
    List (String × Option NodeNote) :=
  if (lookupField nodes id).isSome then nodes else nodes ++ [(id, none)]

/-- Edges with one more; an edge between the same nodes takes its reference. -/
def withEdge (e : PlanEdge) : List PlanEdge → List PlanEdge
  | [] => [e]
  | f :: fs =>
    if f.source = e.source ∧ f.target = e.target then e :: fs else f :: withEdge e fs

/-- Add an edge, and its ends. -/
def addEdge (g : PlanGraph) (e : PlanEdge) : PlanGraph where
  nodes := withId (withId g.nodes e.source) e.target
  edges := withEdge e g.edges

/-- The last output reference of each step that a step takes outputs from. -/
def referencesOf (s : Step) : List (String × String) :=
  s.outputRefs.foldl (fun found (_, ref) => setField found (Text.cut '.' ref).1 ref) []

/-- Add the edges to a step. -/
def addEdges (g : PlanGraph) (s : Step) : PlanGraph :=
  let references := referencesOf s
  s.dependsOn.foldl
    (fun g id => g.addEdge ⟨id, s.id, (lookupField references id).getD ""⟩) g

/-- The nodes that an edge leads to from a node. -/
def successors (g : PlanGraph) (id : String) : List String :=
  (g.edges.filter (·.source == id)).map (·.target)

/-- The nodes that an edge leads from to a node. -/
def predecessors (g : PlanGraph) (id : String) : List String :=
  (g.edges.filter (·.target == id)).map (·.source)

/-- The edges, ordered by the nodes that they lead from. -/
def orderedEdges (g : PlanGraph) : List PlanEdge :=
  g.ids.flatMap fun id => g.edges.filter (·.source == id)

/-- Whether a node depends on nothing. -/
def isRoot (g : PlanGraph) (id : String) : Bool := (g.predecessors id).isEmpty

/-- Whether nothing depends on a node. -/
def isLeaf (g : PlanGraph) (id : String) : Bool := (g.successors id).isEmpty

/-! ## Layers and chains -/

/-- The nodes that can come as soon as a node is finished, where `finished` has it already. -/
def released (g : PlanGraph) (finished : List String) (id : String) : List String :=
  (g.successors id).filter fun next => (g.predecessors next).all (· ∈ finished)

/-- Finish the nodes of a layer, one after the other: what is finished then, and the next layer. -/
def advance (g : PlanGraph) (finished : List String) : List String → List String × List String
  | [] => (finished, [])
  | id :: ids =>
    let here := finished ++ [id]
    let (after, later) := advance g here ids
    (after, released g here id ++ later)

/-- The layers from one on; the first number bounds how many there are. -/
def layersFrom (g : PlanGraph) : Nat → List String → List String → List (List String)
  | 0, _, _ => []
  | _ + 1, _, [] => []
  | fuel + 1, finished, id :: ids =>
    let (after, next) := g.advance finished (id :: ids)
    (id :: ids) :: layersFrom g fuel after next

/-- The layers of the nodes that can be finished at all: there are no more of them than nodes. -/
def reachable (g : PlanGraph) : List (List String) :=
  g.layersFrom g.nodes.length [] (g.ids.filter g.isRoot)

/-- Whether all nodes can be finished. -/
def isAcyclic (g : PlanGraph) : Bool := g.reachable.flatten.length == g.nodes.length

/-- All nodes, each behind those that it depends on. -/
def order (g : PlanGraph) : Except Fault (List String) :=
  if g.isAcyclic then .ok g.reachable.flatten else .error .cyclicGraph

/-- The layers, each in the order of the ids. -/
def layers (g : PlanGraph) : Except Fault (List (List String)) :=
  if g.isAcyclic then .ok (g.reachable.map fun layer => layer.mergeSort fun a b => a ≤ b)
  else .error .cyclicGraph

/-- The first longest of some lists; the empty list if there is none. -/
def longest (lists : List (List String)) : List String :=
  lists.foldl (fun best l => if best.length < l.length then l else best) []

/-- Chains to nodes, from their ends; `known` has the chains to the nodes before. -/
def chains (g : PlanGraph) (known : List (String × List String)) :
    List String → List (String × List String)
  | [] => known
  | id :: ids =>
    let before := (g.predecessors id).map fun p => (lookupField known p).getD []
    chains g (known ++ [(id, id :: longest before)]) ids

/-- The longest chain of dependencies. -/
def criticalPath (g : PlanGraph) : Except Fault (List String) :=
  g.order.map fun order => (longest ((g.chains [] order).map Prod.snd)).reverse

end PlanGraph

namespace Plan

/-- The graph of a plan. -/
def graph (p : Plan) : PlanGraph :=
  p.steps.foldl PlanGraph.addEdges (p.steps.foldl PlanGraph.addStep .empty)

end Plan

end Remediation
