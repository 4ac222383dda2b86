import Remediation.Proofs.Distinct
import Remediation.Proofs.Web.Search
/-!
# Cycles of a web

The search through a web decides whether it has a cycle: it finishes all vertices exactly if the edges
are acyclic, and otherwise what it reports is a cycle (`cycle_cases`).
-/

set_option autoImplicit false

namespace Remediation.Web

open Relation

variable {web : Web}

/-- The search from all vertices finishes them, or it reports a cycle. -/
theorem cycle_cases (web : Web) :
    (web.cycle = [] ∧ ∃ finished, web.search [] web.vertices = .ok finished ∧
      web.Settled finished ∧ ∀ v, v ∈ finished ↔ v ∈ web.vertices) ∨
    web.IsCycle web.cycle := by
  have houtcome := search_outcome (settled_nil web) fun _ hr => hr
  unfold cycle
  cases hsearch : web.search [] web.vertices with
  | ok finished =>
    rw [hsearch] at houtcome
    obtain ⟨hsettled, hall⟩ := houtcome
    exact Or.inl ⟨rfl, finished, rfl, hsettled, fun v => ⟨hsettled.vertex v, fun hv => hall v hv⟩⟩
  | error c =>
    rw [hsearch] at houtcome
    exact Or.inr houtcome

theorem IsCycle.ne_nil {cycle : List String} (h : web.IsCycle cycle) : cycle ≠ [] := by
  obtain ⟨v, vs, rfl, -, -⟩ := h
  simp

/-- What a settled vertex needs stands at an earlier place. -/
theorem Settled.idxOf_lt {finished : List String} {v d : String} (h : web.Settled finished)
    (hv : v ∈ finished) (hedge : web.Edge v d) : finished.idxOf d < finished.idxOf v := by
  obtain ⟨before, behind, rfl⟩ := List.append_of_mem hv
  exact idxOf_lt_idxOf_of_mem_before h.nodup (h.mem_before hedge)

/-- A web whose vertices can be settled has no cycle. -/
theorem Settled.acyclic {finished : List String} (h : web.Settled finished)
    (hall : ∀ v, v ∈ finished ↔ v ∈ web.vertices) : Acyclic web.Edge := by
  refine acyclic_of_rank finished.idxOf ?_
  intro v d hedge
  exact h.idxOf_lt ((hall v).2 hedge.1) hedge

/-- A cycle is a chain of edges back to where it starts. -/
theorem IsCycle.not_acyclic {cycle : List String} (h : web.IsCycle cycle) :
    ¬ Acyclic web.Edge := by
  obtain ⟨v, vs, rfl, -, hwalk⟩ := h
  intro hacyclic
  exact hacyclic v (transGen_of_isChain hwalk)

/-- The cycle that is found is empty exactly if the edges are acyclic.  Otherwise it leads from a
vertex back to it, by different vertices, each of which needs the next one; names that are no vertices
count for nothing. -/
theorem cycle_eq_nil_iff_acyclic_else_isCycle (web : Web) :
    (web.cycle = [] ↔ Acyclic web.Edge) ∧ (web.cycle ≠ [] → web.IsCycle web.cycle) := by
  rcases cycle_cases web with ⟨hnil, finished, -, hsettled, hall⟩ | hcycle
  · exact ⟨iff_of_true hnil (hsettled.acyclic hall), fun hne => absurd hnil hne⟩
  · exact ⟨iff_of_false hcycle.ne_nil hcycle.not_acyclic, fun _ => hcycle⟩

/-- Two vertices that need each other, and names that are no vertices. -/
example : cycle [("a", ["x", "b"]), ("b", ["b'", "a"]), ("c", ["a"])] = ["a", "b", "a"] := by cbv

end Remediation.Web
