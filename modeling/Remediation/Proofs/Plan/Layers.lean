import Remediation.Plan.Graph
import Remediation.Proofs.Acyclic
import Remediation.Proofs.Plan.Graph
/-!
# Layers of a graph

A layer holds the nodes that are not finished and need nothing but finished nodes (`Stage`).  Finishing
it leads to the next one, so that of a graph without cycles no node is left over (`Layering`), and a
node stands in the layer of its height: what it needs stands in earlier layers, and something in the one
before (`Layering.height_iff`).
-/

set_option autoImplicit false

namespace Remediation

namespace PlanGraph

variable {g : PlanGraph} {finished layer : List String} {layers : List (List String)}

/-! ## Finishing a layer -/

theorem mem_released_iff {id v : String} :
    v ∈ g.released finished id ↔ g.Needs v id ∧ ∀ d, g.Needs v d → d ∈ finished := by
  simp only [released, List.mem_filter, mem_successors_iff, List.all_eq_true,
    mem_predecessors_iff, decide_eq_true_eq]

theorem fst_advance (g : PlanGraph) (finished layer : List String) :
    (g.advance finished layer).1 = finished ++ layer := by
  induction layer generalizing finished with
  | nil => simp [advance]
  | cons id rest ih => simp [advance, ih]

/-- The next layer holds what needs something of this one, and nothing that is not finished with
it. -/
theorem mem_snd_advance_iff {v : String} :
    v ∈ (g.advance finished layer).2 ↔
      (∃ d ∈ layer, g.Needs v d) ∧ ∀ d, g.Needs v d → d ∈ finished ++ layer := by
  induction layer generalizing finished with
  | nil => simp [advance]
  | cons id rest ih =>
    rw [advance, List.mem_append, mem_released_iff, ih, List.append_assoc, List.singleton_append]
    constructor
    · rintro (⟨hneeds, hall⟩ | ⟨⟨d, hd, hneeds⟩, hall⟩)
      · refine ⟨⟨id, List.mem_cons_self, hneeds⟩, fun d hd => ?_⟩
        have hfinished := hall d hd
        simp only [List.mem_append, List.mem_singleton] at hfinished
        simp only [List.mem_append, List.mem_cons]
        tauto
      · exact ⟨⟨d, List.mem_cons_of_mem id hd, hneeds⟩, hall⟩
    · rintro ⟨⟨d, hd, hneeds⟩, hall⟩
      by_cases hlater : ∃ d ∈ rest, g.Needs v d
      · exact Or.inr ⟨hlater, hall⟩
      · have hnot : ∀ d, g.Needs v d → d ∉ rest := fun d hd hmem => hlater ⟨d, hmem, hd⟩
        obtain rfl : d = id := (List.mem_cons.1 hd).resolve_right (hnot d hneeds)
        refine Or.inl ⟨hneeds, fun e he => ?_⟩
        have hfinished := hall e he
        simp only [List.mem_append, List.mem_cons] at hfinished
        simp only [List.mem_append, List.mem_singleton]
        have := hnot e he
        tauto

/-- A node is let go once, by the last of those that it needs. -/
theorem Simple.nodup_snd_advance (h : g.Simple) (hnodup : (finished ++ layer).Nodup) :
    (g.advance finished layer).2.Nodup := by
  induction layer generalizing finished with
  | nil => exact List.nodup_nil
  | cons id rest ih =>
    have hsplit : (finished ++ [id] ++ rest).Nodup := by
      rwa [List.append_assoc, List.singleton_append]
    refine List.Nodup.append ((h.nodup_successors id).filter _) (ih hsplit) ?_
    intro v hnow hlater
    obtain ⟨d, hd, hneeds⟩ := (mem_snd_advance_iff.1 hlater).1
    have hbefore : d ∈ finished ++ [id] := (mem_released_iff.1 hnow).2 d hneeds
    exact List.disjoint_of_nodup_append hsplit hbefore hd

theorem layersFrom_succ_cons (g : PlanGraph) (fuel : Nat) (finished : List String) (id : String)
    (rest : List String) : g.layersFrom (fuel + 1) finished (id :: rest) =
      (id :: rest) :: g.layersFrom fuel (finished ++ id :: rest)
        (g.advance finished (id :: rest)).2 := by
  rw [← fst_advance]
  rfl

/-! ## Stages -/

/-- Different nodes are finished or in a layer, namely those that need nothing but finished nodes. -/
structure Stage (g : PlanGraph) (finished layer : List String) : Prop where
  nodup : (finished ++ layer).Nodup
  mem_iff : ∀ v, v ∈ finished ++ layer ↔ v ∈ g.ids ∧ ∀ d, g.Needs v d → d ∈ finished

namespace Stage

theorem start (h : g.Simple) : g.Stage [] (g.ids.filter g.isRoot) where
  nodup := h.ids.filter _
  mem_iff := by
    intro v
    simp [isRoot, List.eq_nil_iff_forall_not_mem, mem_predecessors_iff]

theorem needs_finished (h : g.Stage finished layer) {v d : String} (hv : v ∈ layer)
    (hd : g.Needs v d) : d ∈ finished :=
  ((h.mem_iff v).1 (List.mem_append_right _ hv)).2 d hd

theorem next (h : g.Stage finished layer) (hsimple : g.Simple) :
    g.Stage (finished ++ layer) (g.advance finished layer).2 where
  nodup := by
    refine List.Nodup.append h.nodup (hsimple.nodup_snd_advance h.nodup) ?_
    intro v hv hnext
    obtain ⟨d, hd, hneeds⟩ := (mem_snd_advance_iff.1 hnext).1
    have hfinished := ((h.mem_iff v).1 hv).2 d hneeds
    exact List.disjoint_of_nodup_append h.nodup hfinished hd
  mem_iff := by
    intro v
    rw [List.mem_append, mem_snd_advance_iff]
    constructor
    · rintro (hv | ⟨⟨d, -, hneeds⟩, hall⟩)
      · obtain ⟨hid, hall⟩ := (h.mem_iff v).1 hv
        exact ⟨hid, fun d hd => List.mem_append_left _ (hall d hd)⟩
      · exact ⟨(hsimple.ends _ hneeds).2, hall⟩
    · rintro ⟨hid, hall⟩
      by_cases hlayer : ∃ d ∈ layer, g.Needs v d
      · exact Or.inr ⟨hlayer, hall⟩
      · refine Or.inl ((h.mem_iff v).2 ⟨hid, fun d hd => ?_⟩)
        exact (List.mem_append.1 (hall d hd)).resolve_right fun hmem => hlayer ⟨d, hmem, hd⟩

/-- Where there are no cycles, nodes are left over only behind a layer that has some. -/
theorem complete (h : g.Stage finished []) (hsimple : g.Simple) (hacyclic : Acyclic g.Needs) :
    ∀ v ∈ g.ids, v ∈ finished := by
  by_contra hleft
  push Not at hleft
  obtain ⟨v, hv, hfresh⟩ := hleft
  have hne : g.ids.filter (· ∉ finished) ≠ [] :=
    List.ne_nil_of_mem (List.mem_filter.2 ⟨hv, decide_eq_true hfresh⟩)
  obtain ⟨least, hleast, hnone⟩ := hacyclic.exists_least hne
  rw [List.mem_filter, decide_eq_true_eq] at hleast
  refine hleast.2 (List.append_nil finished ▸ (h.mem_iff least).2 ⟨hleast.1, fun d hd => ?_⟩)
  by_contra hnot
  exact hnone d (List.mem_filter.2 ⟨(hsimple.ends _ hd).1, decide_eq_true hnot⟩) hd

end Stage

/-! ## Layerings -/

/-- Layers that finish all nodes, each of which can be finished behind those before it. -/
inductive Layering (g : PlanGraph) : List String → List (List String) → Prop where
  | done {finished : List String} : g.Stage finished [] → (∀ v ∈ g.ids, v ∈ finished) →
      Layering g finished []
  | layer {finished layer : List String} {layers : List (List String)} : layer ≠ [] →
      g.Stage finished layer → Layering g (finished ++ layer) layers →
      Layering g finished (layer :: layers)

/-- The layers from a stage on finish all nodes, if there are no cycles.  No layer is empty, so there is
fuel enough in the number of the nodes. -/
theorem Stage.layering (h : g.Stage finished layer) (hsimple : g.Simple)
    (hacyclic : Acyclic g.Needs) {fuel : Nat} (hfuel : g.ids.length ≤ fuel + finished.length) :
    g.Layering finished (g.layersFrom fuel finished layer) := by
  -- A layer that is not empty costs one of the fuel and finishes a node, so that the bound is kept.
  induction fuel generalizing finished layer with
  | zero =>
    have hsubset : finished ++ layer ⊆ g.ids := fun v hv => ((h.mem_iff v).1 hv).1
    have hle := (h.nodup.subperm hsubset).length_le
    rw [List.length_append] at hle
    obtain rfl : layer = [] := List.length_eq_zero_iff.1 (by omega)
    exact .done h (h.complete hsimple hacyclic)
  | succ fuel ih =>
    cases layer with
    | nil => exact .done h (h.complete hsimple hacyclic)
    | cons id rest =>
      rw [layersFrom_succ_cons]
      refine .layer (List.cons_ne_nil id rest) h ?_
      apply ih (h.next hsimple)
      simp only [List.length_append, List.length_cons]
      omega

theorem layering_reachable (h : g.Simple) (hacyclic : Acyclic g.Needs) :
    g.Layering [] g.reachable := by
  refine (Stage.start h).layering h hacyclic ?_
  simp [ids]

namespace Layering

/-- Every node stands in one layer, once. -/
theorem perm (h : g.Layering finished layers) (hsimple : g.Simple) :
    (finished ++ layers.flatten).Perm g.ids := by
  induction h with
  | done hstage hall =>
    refine (List.perm_ext_iff_of_nodup hstage.nodup hsimple.ids).2 fun v => ?_
    rw [List.append_nil]
    exact ⟨fun hv => ((hstage.mem_iff v).1 (List.mem_append_left _ hv)).1, hall v⟩
  | layer _ _ _ ih => rwa [List.append_assoc] at ih

theorem ne_nil (h : g.Layering finished layers) : ∀ layer ∈ layers, layer ≠ [] := by
  induction h with
  | done => exact List.forall_mem_nil _
  | layer hne _ _ ih => exact List.forall_mem_cons.2 ⟨hne, ih⟩

/-- At each layer there is a stage, at which the layers before it are finished. -/
theorem stage (h : g.Layering finished layers) {i : Nat} (hi : layers[i]? = some layer) :
    g.Stage (finished ++ (layers.take i).flatten) layer := by
  induction h generalizing i with
  | done => cases hi
  | layer _ hstage _ ih =>
    cases i with
    | zero =>
      obtain rfl := Option.some.inj hi
      simpa using hstage
    | succ i => simpa using ih hi

/-- What a node needs stands in an earlier layer. -/
theorem exists_earlier (h : g.Layering [] layers) {i : Nat} (hi : layers[i]? = some layer)
    {v d : String} (hv : v ∈ layer) (hd : g.Needs v d) :
    ∃ j earlier, j < i ∧ layers[j]? = some earlier ∧ d ∈ earlier := by
  have hfinished := (h.stage hi).needs_finished hv hd
  rw [List.nil_append] at hfinished
  obtain ⟨earlier, hmem, hd⟩ := List.mem_flatten.1 hfinished
  obtain ⟨j, hj, rfl⟩ := List.mem_take_iff_getElem.1 hmem
  exact ⟨j, _, by omega, List.getElem?_eq_getElem (by omega), hd⟩

/-- A node of a layer behind the first one needs something of the layer before. -/
theorem exists_before (h : g.Layering [] layers) {i : Nat} {before : List String}
    (hbefore : layers[i]? = some before) (hi : layers[i + 1]? = some layer) {v : String}
    (hv : v ∈ layer) : ∃ d ∈ before, g.Needs v d := by
  have hstage := h.stage hbefore
  have hnext := h.stage hi
  have htake : (layers.take (i + 1)).flatten = (layers.take i).flatten ++ before := by
    simp [List.take_add_one, hbefore]
  rw [List.nil_append] at hstage hnext
  rw [htake] at hnext
  obtain ⟨hid, hall⟩ := (hnext.mem_iff v).1 (List.mem_append_right _ hv)
  by_contra hnone
  push Not at hnone
  have hready : v ∈ (layers.take i).flatten ++ before := by
    refine (hstage.mem_iff v).2 ⟨hid, fun d hd => ?_⟩
    exact (List.mem_append.1 (hall d hd)).resolve_right fun hmem => hnone d hmem hd
  exact List.disjoint_of_nodup_append hnext.nodup hready hv

/-- A node stands in the layer of its height. -/
theorem height (h : g.Layering [] layers) {i : Nat} (hi : layers[i]? = some layer) {v : String}
    (hv : v ∈ layer) : Height g.Needs v i := by
  constructor
  -- There is a chain through all layers below, and no chain can go down by less than a layer a step.
  · induction i generalizing layer v with
    | zero => exact ⟨[], List.isChain_singleton v, rfl⟩
    | succ i ih =>
      have hlt : i < layers.length := by
        obtain ⟨hnext, -⟩ := List.getElem?_eq_some_iff.1 hi
        omega
      obtain ⟨d, hd, hneeds⟩ := h.exists_before (List.getElem?_eq_getElem hlt) hi hv
      obtain ⟨below, hchain, hlength⟩ := ih (List.getElem?_eq_getElem hlt) hd
      exact ⟨d :: below, List.isChain_cons_cons.2 ⟨hneeds, hchain⟩, by rw [List.length_cons, hlength]⟩
  · intro below hchain
    induction below generalizing i layer v with
    | nil => exact Nat.zero_le i
    | cons d below ih =>
      obtain ⟨hneeds, hrest⟩ := List.isChain_cons_cons.1 hchain
      obtain ⟨j, earlier, hlt, hj, hd⟩ := h.exists_earlier hi hv hneeds
      have hle := ih hj hd hrest
      rw [List.length_cons]
      omega

/-- A layer holds the nodes of its height. -/
theorem height_iff (h : g.Layering [] layers) (hsimple : g.Simple) {i : Nat}
    (hi : layers[i]? = some layer) {v : String} (hv : v ∈ g.ids) :
    v ∈ layer ↔ Height g.Needs v i := by
  refine ⟨h.height hi, fun hheight => ?_⟩
  have hmem : v ∈ layers.flatten := (h.perm hsimple).mem_iff.2 hv
  obtain ⟨found, hfound, hv⟩ := List.mem_flatten.1 hmem
  obtain ⟨j, hj, rfl⟩ := List.mem_iff_getElem.1 hfound
  obtain rfl := (h.height (List.getElem?_eq_getElem hj) hv).unique hheight
  rw [List.getElem?_eq_getElem hj] at hi
  exact Option.some.inj hi ▸ hv

end Layering

end PlanGraph

end Remediation
