import Remediation.Plan.Graph
import Remediation.Proofs.Fields
import Remediation.Proofs.Schedule.Sort
/-!
# Nodes and edges of plan graphs

However a graph is built, each id is that of one node, each pair of nodes has at most one edge, and
both ends of an edge are nodes (`Simple`).  The graph of a plan whose dependencies are steps has a node
for each step and nothing else, and a node needs exactly what a step of its id names.
-/

set_option autoImplicit false

namespace Remediation

namespace PlanGraph

variable {g : PlanGraph}

/-- The ends of the edges. -/
def pairs (g : PlanGraph) : List (String × String) := g.edges.map fun e => (e.source, e.target)

/-- A node depends on another one. -/
def Needs (g : PlanGraph) (a b : String) : Prop := (b, a) ∈ g.pairs

/-- A graph of different nodes, with at most one edge from a node to another one. -/
structure Simple (g : PlanGraph) : Prop where
  ids : g.ids.Nodup
  pairs : g.pairs.Nodup
  ends : ∀ e ∈ g.pairs, e.1 ∈ g.ids ∧ e.2 ∈ g.ids

/-! ## Adding nodes and edges -/

theorem map_fst_withId (nodes : List (String × Option NodeNote)) (id : String) :
    (withId nodes id).map Prod.fst = appendNew (nodes.map Prod.fst) id := by
  unfold withId appendNew
  cases hlookup : lookupField nodes id with
  | none =>
    have hnew := lookupField_eq_none_iff.1 hlookup
    simp [hnew]
  | some note =>
    have hthere := List.mem_map_of_mem (f := Prod.fst) (mem_of_lookupField hlookup)
    rw [if_pos Option.isSome_some, if_pos hthere]

theorem map_ends_withEdge (e : PlanEdge) (edges : List PlanEdge) :
    (withEdge e edges).map (fun e => (e.source, e.target)) =
      appendNew (edges.map fun e => (e.source, e.target)) (e.source, e.target) := by
  induction edges with
  | nil => rfl
  | cons first rest ih =>
    rw [withEdge]
    split
    next hsame => simp [appendNew, hsame]
    next hother =>
      have hne : (e.source, e.target) ≠ (first.source, first.target) := by
        intro heq
        obtain ⟨hsource, htarget⟩ := Prod.mk.inj heq
        exact hother ⟨hsource.symm, htarget.symm⟩
      rw [List.map_cons, ih, List.map_cons]
      unfold appendNew
      split
      next hthere => rw [if_pos (List.mem_cons_of_mem _ hthere)]
      next hnew => rw [if_neg fun hmem => hnew ((List.mem_cons.1 hmem).resolve_left hne),
        List.cons_append]

theorem ids_addStep (g : PlanGraph) (s : Step) : (g.addStep s).ids = appendNew g.ids s.id :=
  map_fst_setField g.nodes s.id _

theorem ids_addEdge (g : PlanGraph) (e : PlanEdge) :
    (g.addEdge e).ids = appendNew (appendNew g.ids e.source) e.target := by
  show (withId (withId g.nodes e.source) e.target).map Prod.fst = _
  rw [map_fst_withId, map_fst_withId]
  rfl

theorem pairs_addEdge (g : PlanGraph) (e : PlanEdge) :
    (g.addEdge e).pairs = appendNew g.pairs (e.source, e.target) :=
  map_ends_withEdge e g.edges

namespace Simple

theorem empty : Simple .empty := ⟨List.nodup_nil, List.nodup_nil, nofun⟩

theorem addStep (h : g.Simple) (s : Step) : (g.addStep s).Simple where
  ids := ids_addStep g s ▸ nodup_appendNew h.ids s.id
  pairs := h.pairs
  ends := by
    intro e he
    obtain ⟨hsource, htarget⟩ := h.ends e he
    rw [ids_addStep, mem_appendNew, mem_appendNew]
    exact ⟨Or.inl hsource, Or.inl htarget⟩

theorem addEdge (h : g.Simple) (e : PlanEdge) : (g.addEdge e).Simple where
  ids := ids_addEdge g e ▸ nodup_appendNew (nodup_appendNew h.ids _) _
  pairs := pairs_addEdge g e ▸ nodup_appendNew h.pairs _
  ends := by
    intro ends hends
    rw [pairs_addEdge, mem_appendNew] at hends
    simp only [ids_addEdge, mem_appendNew]
    rcases hends with hold | rfl
    · obtain ⟨hsource, htarget⟩ := h.ends ends hold
      exact ⟨Or.inl (Or.inl hsource), Or.inl (Or.inl htarget)⟩
    · exact ⟨Or.inl (Or.inr rfl), Or.inr rfl⟩

theorem addEdges (h : g.Simple) (s : Step) : (g.addEdges s).Simple := by
  unfold PlanGraph.addEdges
  generalize s.dependsOn = needed
  induction needed generalizing g with
  | nil => exact h
  | cons d rest ih => exact ih (h.addEdge _)

end Simple

/-! ## What nodes need -/

theorem mem_predecessors_iff {a b : String} : b ∈ g.predecessors a ↔ g.Needs a b := by
  simp only [predecessors, Needs, pairs, List.mem_map, List.mem_filter, beq_iff_eq, Prod.mk.injEq]
  grind

theorem mem_successors_iff {a b : String} : a ∈ g.successors b ↔ g.Needs a b := by
  simp only [successors, Needs, pairs, List.mem_map, List.mem_filter, beq_iff_eq, Prod.mk.injEq]
  grind

theorem Simple.nodup_successors (h : g.Simple) (id : String) : (g.successors id).Nodup := by
  have hpairs := h.pairs
  unfold successors
  unfold PlanGraph.pairs at hpairs
  refine List.Nodup.map_on ?_ (List.Nodup.filter _ hpairs.of_map)
  intro e he f hf htarget
  have hsource : e.source = f.source := by
    simp only [List.mem_filter, beq_iff_eq] at he hf
    rw [he.2, hf.2]
  exact List.inj_on_of_nodup_map hpairs (List.mem_of_mem_filter he) (List.mem_of_mem_filter hf)
    (Prod.ext hsource htarget)

/-! ## Adding the edges to a step -/

theorem mem_pairs_addEdges {s : Step} {e : String × String} :
    e ∈ (g.addEdges s).pairs ↔ e ∈ g.pairs ∨ e.1 ∈ s.dependsOn ∧ e.2 = s.id := by
  unfold addEdges
  generalize s.dependsOn = needed
  induction needed generalizing g with
  | nil => simp
  | cons d rest ih =>
    rw [List.foldl_cons, ih, pairs_addEdge, mem_appendNew, List.mem_cons, Prod.ext_iff]
    tauto

theorem mem_ids_addEdges_of_mem {s : Step} {id : String} (h : id ∈ g.ids) :
    id ∈ (g.addEdges s).ids := by
  unfold addEdges
  generalize s.dependsOn = needed
  induction needed generalizing g with
  | nil => exact h
  | cons d rest ih =>
    apply ih
    rw [ids_addEdge, mem_appendNew, mem_appendNew]
    exact Or.inl (Or.inl h)

/-- No other nodes come with the edges to a step than the step and what it depends on. -/
theorem mem_of_mem_ids_addEdges {s : Step} {id : String} (h : id ∈ (g.addEdges s).ids) :
    id ∈ g.ids ∨ id = s.id ∨ id ∈ s.dependsOn := by
  unfold addEdges at h
  generalize s.dependsOn = needed at h ⊢
  induction needed generalizing g with
  | nil => exact Or.inl h
  | cons d rest ih =>
    rcases ih h with hbefore | hid | hrest
    · rw [ids_addEdge, mem_appendNew, mem_appendNew] at hbefore
      rcases hbefore with (hold | rfl) | rfl
      · exact Or.inl hold
      · exact Or.inr (Or.inr List.mem_cons_self)
      · exact Or.inr (Or.inl rfl)
    · exact Or.inr (Or.inl hid)
    · exact Or.inr (Or.inr (List.mem_cons_of_mem d hrest))

end PlanGraph

/-! ## Graphs of plans -/

namespace Plan

open PlanGraph Schedule

theorem mem_ids_steps {steps : List Step} {g : PlanGraph} {id : String} :
    id ∈ (steps.foldl addStep g).ids ↔ id ∈ g.ids ∨ id ∈ Schedule.ids steps := by
  induction steps generalizing g with
  | nil => simp [Schedule.ids]
  | cons s rest ih =>
    have hids : Schedule.ids (s :: rest) = s.id :: Schedule.ids rest := rfl
    rw [List.foldl_cons, ih, ids_addStep, mem_appendNew, hids, List.mem_cons, or_assoc]

theorem pairs_steps (steps : List Step) (g : PlanGraph) :
    (steps.foldl addStep g).pairs = g.pairs := by
  induction steps generalizing g with
  | nil => rfl
  | cons s rest ih => exact ih _

theorem simple_graph (p : Plan) : p.graph.Simple := by
  have hsteps : (p.steps.foldl addStep .empty).Simple :=
    List.foldlRecOn p.steps addStep .empty fun g hg s _ => hg.addStep s
  exact List.foldlRecOn p.steps addEdges hsteps fun g hg s _ => hg.addEdges s

/-- A node needs what a step of its id names. -/
theorem needs_graph_iff {p : Plan} {a b : String} : p.graph.Needs a b ↔ Names p.steps a b := by
  have hedges : ∀ (steps : List Step) (g : PlanGraph),
      (steps.foldl addEdges g).Needs a b ↔ g.Needs a b ∨ Names steps a b := by
    intro steps
    induction steps with
    | nil => simp [Names]
    | cons s rest ih =>
      intro g
      rw [List.foldl_cons, ih]
      simp only [Needs, mem_pairs_addEdges, Names, List.exists_mem_cons_iff]
      tauto
  have hnone : ¬ (p.steps.foldl addStep .empty).Needs a b := by
    rw [Needs, pairs_steps]
    exact List.not_mem_nil
  exact (hedges p.steps _).trans (or_iff_right hnone)

/-- The nodes are the steps, if all that steps name are steps. -/
theorem mem_ids_graph {p : Plan} (hclosed : Closed p.steps) {id : String} :
    id ∈ p.graph.ids ↔ id ∈ Schedule.ids p.steps := by
  constructor
  · have hnodes : ∀ id ∈ p.graph.ids, id ∈ Schedule.ids p.steps := by
      refine List.foldlRecOn (motive := fun g => ∀ id ∈ g.ids, id ∈ Schedule.ids p.steps)
        p.steps addEdges ?_ ?_
      · intro id hid
        exact (mem_ids_steps.1 hid).resolve_left List.not_mem_nil
      · intro g hg s hs id hid
        rcases mem_of_mem_ids_addEdges hid with hold | rfl | hneeded
        · exact hg id hold
        · exact List.mem_map_of_mem hs
        · exact hclosed s hs id hneeded
    exact hnodes id
  · intro hid
    have hstep : id ∈ (p.steps.foldl addStep .empty).ids := mem_ids_steps.2 (Or.inr hid)
    exact List.foldlRecOn (motive := fun g => id ∈ g.ids) p.steps addEdges hstep
      fun g hg s _ => mem_ids_addEdges_of_mem hg

end Plan

end Remediation
