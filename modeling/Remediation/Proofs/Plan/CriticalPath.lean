import Remediation.Proofs.Plan.Layers
import Remediation.Proofs.Plan.Validation
/-!
# Critical paths

The chains to the nodes are found in the order of the layers, the longest one to each node from the
longest ones to those that it needs (`Charted`).  A valid plan has both: layers in which each step
stands by its height, and a path that no chain is longer than, of as many steps as there are layers
(`layers_and_criticalPath_of_validate`).
-/

set_option autoImplicit false

namespace Remediation

namespace PlanGraph

variable {g : PlanGraph} {finished : List String} {known : List (String × List String)}

/-! ## The longest list -/

theorem longest_cases (lists : List (List String)) :
    longest lists = [] ∨ longest lists ∈ lists := by
  have hfold : ∀ (lists : List (List String)) (best : List String),
      lists.foldl (fun best l => if best.length < l.length then l else best) best ∈ best :: lists := by
    intro lists
    induction lists with
    | nil => exact fun best => List.mem_cons_self
    | cons l rest ih =>
      intro best
      rw [List.foldl_cons]
      split
      · exact List.mem_cons_of_mem best (ih l)
      · rcases List.mem_cons.1 (ih best) with hbest | hrest
        · exact List.mem_cons.2 (Or.inl hbest)
        · exact List.mem_cons_of_mem best (List.mem_cons_of_mem l hrest)
  exact List.mem_cons.1 (hfold lists [])

theorem length_le_longest {lists : List (List String)} {l : List String} (h : l ∈ lists) :
    l.length ≤ (longest lists).length := by
  have hfold : ∀ (lists : List (List String)) (best : List String), ∀ l ∈ best :: lists,
      l.length ≤
        (lists.foldl (fun best l => if best.length < l.length then l else best) best).length := by
    intro lists
    induction lists with
    | nil => simp
    | cons first rest ih =>
      intro best l hl
      rw [List.foldl_cons]
      split
      next hlonger =>
        have hfirst := ih first first List.mem_cons_self
        rcases List.mem_cons.1 hl with rfl | hl
        · omega
        · exact ih first l hl
      next hshorter =>
        have hbest := ih best best List.mem_cons_self
        rcases List.mem_cons.1 hl with rfl | hl
        · exact hbest
        rcases List.mem_cons.1 hl with rfl | hl
        · omega
        · exact ih best l (List.mem_cons_of_mem best hl)
  exact hfold lists [] l (List.mem_cons_of_mem [] h)

/-! ## Charts -/

/-- The longest chain from a node down, the node itself included. -/
def Deepest (g : PlanGraph) (id : String) (chain : List String) : Prop :=
  ∃ below, chain = id :: below ∧ chain.IsChain g.Needs ∧
    ∀ other, (id :: other).IsChain g.Needs → other.length ≤ below.length

/-- The longest chains from the finished nodes are known. -/
def Charted (g : PlanGraph) (known : List (String × List String)) (finished : List String) : Prop :=
  known.map Prod.fst = finished ∧ ∀ e ∈ known, g.Deepest e.1 e.2

theorem Charted.deepest_lookup (h : g.Charted known finished) {d : String} (hd : d ∈ finished) :
    g.Deepest d ((lookupField known d).getD []) := by
  cases hlookup : lookupField known d with
  | none =>
    rw [lookupField_eq_none_iff, h.1] at hlookup
    exact absurd hd hlookup
  | some chain => exact h.2 (d, chain) (mem_of_lookupField hlookup)

/-- Above the longest of the chains from what a node needs stands the longest chain from the node. -/
theorem Charted.deepest (h : g.Charted known finished) {id : String}
    (hready : ∀ d, g.Needs id d → d ∈ finished) :
    g.Deepest id
      (id :: longest ((g.predecessors id).map fun d => (lookupField known d).getD [])) := by
  let before := (g.predecessors id).map fun d => (lookupField known d).getD []
  have hbefore : ∀ d, g.Needs id d → ∃ chain ∈ before, g.Deepest d chain := fun d hd =>
    ⟨_, List.mem_map_of_mem (mem_predecessors_iff.2 hd), h.deepest_lookup (hready d hd)⟩
  refine ⟨longest before, rfl, ?_, ?_⟩
  · rcases longest_cases before with hnil | hmem
    · show (id :: longest before).IsChain g.Needs
      rw [hnil]
      exact List.isChain_singleton id
    · obtain ⟨d, hd, hchain⟩ := List.mem_map.1 hmem
      have hneeds := mem_predecessors_iff.1 hd
      obtain ⟨below, hbelow, hdown, -⟩ := h.deepest_lookup (hready d hneeds)
      show (id :: longest before).IsChain g.Needs
      rw [← hchain, hbelow]
      rw [hbelow] at hdown
      exact List.isChain_cons_cons.2 ⟨hneeds, hdown⟩
  · intro other hother
    cases other with
    | nil => exact Nat.zero_le _
    | cons d other =>
      obtain ⟨hneeds, hrest⟩ := List.isChain_cons_cons.1 hother
      obtain ⟨chain, hmem, below, rfl, -, hmost⟩ := hbefore d hneeds
      have hle := hmost other hrest
      have hlongest := length_le_longest hmem
      rw [List.length_cons] at hlongest ⊢
      omega

/-- Nodes in an order in which each needs nothing but finished nodes and those in front of it. -/
inductive Ready (g : PlanGraph) : List String → List String → Prop where
  | nil {finished : List String} : Ready g finished []
  | cons {finished ids : List String} {id : String} : (∀ d, g.Needs id d → d ∈ finished) →
      Ready g (finished ++ [id]) ids → Ready g finished (id :: ids)

theorem Ready.append {ids later : List String} (h : g.Ready (finished ++ ids) later)
    (hids : ∀ id ∈ ids, ∀ d, g.Needs id d → d ∈ finished) : g.Ready finished (ids ++ later) := by
  induction ids generalizing finished with
  | nil => rwa [List.append_nil] at h
  | cons id rest ih =>
    obtain ⟨hid, hrest⟩ := List.forall_mem_cons.1 hids
    refine .cons hid (ih ?_ fun other hother d hd => ?_)
    · rwa [List.append_assoc, List.singleton_append]
    · exact List.mem_append_left _ (hrest other hother d hd)

theorem Layering.ready {layers : List (List String)} (h : g.Layering finished layers) :
    g.Ready finished layers.flatten := by
  induction h with
  | done => exact .nil
  | layer _ hstage _ ih => exact ih.append fun id hid d hd => hstage.needs_finished hid hd

theorem Ready.charted {ids : List String} (h : g.Ready finished ids)
    (hknown : g.Charted known finished) : g.Charted (g.chains known ids) (finished ++ ids) := by
  induction h generalizing known with
  | nil =>
    rw [List.append_nil]
    exact hknown
  | @cons finished ids id hready _ ih =>
    have hnext : g.Charted (known ++ [(id, id :: longest
        ((g.predecessors id).map fun d => (lookupField known d).getD []))]) (finished ++ [id]) := by
      refine ⟨by rw [List.map_append, hknown.1]; rfl, ?_⟩
      exact List.forall_mem_append.2 ⟨hknown.2, List.forall_mem_singleton.2 (hknown.deepest hready)⟩
    have hrest := ih hnext
    rwa [List.append_assoc, List.singleton_append] at hrest

/-- The longest of the known chains starts at a finished node, and no chain from one is longer. -/
theorem Charted.longest_known (h : g.Charted known finished) :
    (longest (known.map Prod.snd) = [] ∨
        ∃ id ∈ finished, ∃ below, longest (known.map Prod.snd) = id :: below) ∧
      (longest (known.map Prod.snd)).IsChain g.Needs ∧
      ∀ id ∈ finished, ∀ below, (id :: below).IsChain g.Needs →
        below.length < (longest (known.map Prod.snd)).length := by
  refine ⟨?_, ?_, ?_⟩
  · refine (longest_cases (known.map Prod.snd)).imp_right fun hmem => ?_
    obtain ⟨e, he, hlongest⟩ := List.mem_map.1 hmem
    obtain ⟨below, hbelow, -, -⟩ := h.2 e he
    exact ⟨e.1, h.1 ▸ List.mem_map_of_mem he, below, hlongest ▸ hbelow⟩
  · rcases longest_cases (known.map Prod.snd) with hnil | hmem
    · rw [hnil]
      exact List.isChain_nil
    · obtain ⟨e, he, hlongest⟩ := List.mem_map.1 hmem
      obtain ⟨below, hbelow, hchain, -⟩ := h.2 e he
      exact hlongest ▸ hchain
  · intro id hid below hchain
    obtain ⟨e, he, rfl⟩ := List.mem_map.1 (h.1.symm ▸ hid)
    obtain ⟨deepest, hdeepest, -, hmost⟩ := h.2 e he
    have hbelow := hmost below hchain
    have hlongest := length_le_longest (List.mem_map_of_mem (f := Prod.snd) he)
    rw [hdeepest, List.length_cons] at hlongest
    omega

/-! ## Chains and layers -/

theorem Simple.mem_ids_of_isChain (h : g.Simple) {id : String} {below : List String}
    (hid : id ∈ g.ids) (hchain : (id :: below).IsChain g.Needs) : ∀ d ∈ id :: below, d ∈ g.ids := by
  induction below generalizing id with
  | nil => exact List.forall_mem_singleton.2 hid
  | cons d below ih =>
    obtain ⟨hneeds, hrest⟩ := List.isChain_cons_cons.1 hchain
    exact List.forall_mem_cons.2 ⟨hid, ih (h.ends _ hneeds).1 hrest⟩

namespace Layering

variable {layers : List (List String)}

/-- A chain goes down by at least a layer with each of its steps. -/
theorem length_lt (h : g.Layering [] layers) (hsimple : g.Simple) {id : String}
    {below : List String} (hid : id ∈ g.ids) (hchain : (id :: below).IsChain g.Needs) :
    below.length < layers.length := by
  have hmem : id ∈ layers.flatten := (h.perm hsimple).mem_iff.2 hid
  obtain ⟨layer, hlayer, hin⟩ := List.mem_flatten.1 hmem
  obtain ⟨i, hi, rfl⟩ := List.mem_iff_getElem.1 hlayer
  have hle := (h.height (List.getElem?_eq_getElem hi) hin).2 below hchain
  omega

/-- From the last layer a chain goes down through all of them. -/
theorem exists_chain (h : g.Layering [] layers) (hsimple : g.Simple) (hne : layers ≠ []) :
    ∃ id ∈ g.ids, ∃ below, (id :: below).IsChain g.Needs ∧ below.length + 1 = layers.length := by
  have hpos : 0 < layers.length := List.length_pos_iff.2 hne
  have hlast : layers.length - 1 < layers.length := by omega
  obtain ⟨id, hid⟩ := List.exists_mem_of_ne_nil _ (h.ne_nil _ (List.getElem_mem hlast))
  obtain ⟨⟨below, hchain, hlength⟩, -⟩ := h.height (List.getElem?_eq_getElem hlast) hid
  have hflatten : id ∈ layers.flatten := List.mem_flatten_of_mem (List.getElem_mem hlast) hid
  exact ⟨id, (h.perm hsimple).mem_iff.1 hflatten, below, hchain, by omega⟩

end Layering

/-! ## Graphs without cycles -/

/-- Layers of different nodes, none of them empty; a node stands in that of its height. -/
structure Layered (ids : List String) (needs : String → String → Prop)
    (layers : List (List String)) : Prop where
  nodup : layers.flatten.Nodup
  mem_iff : ∀ id, id ∈ layers.flatten ↔ id ∈ ids
  ne_nil : ∀ layer ∈ layers, layer ≠ []
  height_iff : ∀ (i : Nat) layer, layers[i]? = some layer → ∀ id ∈ ids, id ∈ layer ↔ Height needs id i
  behind : ∀ (i : Nat) layer, layers[i]? = some layer → ∀ id ∈ layer, ∀ d, needs id d →
    ∃ (j : Nat) (earlier : List String), j < i ∧ layers[j]? = some earlier ∧ d ∈ earlier

/-- Different nodes, each needed by the next one, and no such nodes are more. -/
structure Critical (ids : List String) (needs : String → String → Prop)
    (path : List String) : Prop where
  nodup : path.Nodup
  subset : path ⊆ ids
  chain : path.IsChain fun a b => needs b a
  length_le : ∀ other ⊆ ids, (other.IsChain fun a b => needs b a) → other.length ≤ path.length

section Acyclic

variable (hsimple : g.Simple) (hacyclic : Acyclic g.Needs)

include hsimple hacyclic

theorem perm_reachable : g.reachable.flatten.Perm g.ids := by
  have hperm := (layering_reachable hsimple hacyclic).perm hsimple
  rwa [List.nil_append] at hperm

theorem isAcyclic_of_acyclic : g.isAcyclic = true := by
  rw [isAcyclic, beq_iff_eq, (perm_reachable hsimple hacyclic).length_eq, ids, List.length_map]

theorem exists_layers : ∃ layers, g.layers = .ok layers ∧ layers.length = g.reachable.length ∧
    Layered g.ids g.Needs layers := by
  have hlayering := layering_reachable hsimple hacyclic
  -- The layers are given sorted, and sorting one moves no node to another.
  let sort (layer : List String) := layer.mergeSort fun a b => a ≤ b
  have hmem : ∀ layer id, id ∈ sort layer ↔ id ∈ layer := fun layer id =>
    (List.mergeSort_perm layer _).mem_iff
  have hflatten : (g.reachable.map sort).flatten.Perm g.ids := by
    refine List.Perm.trans ?_ (perm_reachable hsimple hacyclic)
    induction g.reachable with
    | nil => exact .refl _
    | cons layer rest ih => exact (List.mergeSort_perm layer _).append ih
  have hget : ∀ {i : Nat} {layer}, (g.reachable.map sort)[i]? = some layer →
      ∃ before, g.reachable[i]? = some before ∧ sort before = layer := by
    intro i layer hi
    rwa [List.getElem?_map, Option.map_eq_some_iff] at hi
  refine ⟨g.reachable.map sort, if_pos (isAcyclic_of_acyclic hsimple hacyclic), List.length_map _,
    ?_⟩
  refine ⟨hflatten.nodup_iff.2 hsimple.ids, fun id => hflatten.mem_iff, ?_, ?_, ?_⟩
  · intro layer hlayer hnil
    obtain ⟨before, hbefore, rfl⟩ := List.mem_map.1 hlayer
    refine hlayering.ne_nil before hbefore (List.eq_nil_iff_forall_not_mem.2 fun id hid => ?_)
    exact List.eq_nil_iff_forall_not_mem.1 hnil id ((hmem before id).2 hid)
  · intro i layer hi id hid
    obtain ⟨before, hbefore, rfl⟩ := hget hi
    exact (hmem before id).trans (hlayering.height_iff hsimple hbefore hid)
  · intro i layer hi id hid d hd
    obtain ⟨before, hbefore, rfl⟩ := hget hi
    obtain ⟨j, earlier, hlt, hj, hd⟩ :=
      hlayering.exists_earlier hbefore ((hmem before id).1 hid) hd
    refine ⟨j, sort earlier, hlt, ?_, (hmem earlier d).2 hd⟩
    rw [List.getElem?_map, hj, Option.map_some]

theorem exists_criticalPath : ∃ path, g.criticalPath = .ok path ∧
    path.length = g.reachable.length ∧ Critical g.ids g.Needs path := by
  have hlayering := layering_reachable hsimple hacyclic
  have hperm := perm_reachable hsimple hacyclic
  have hcharted : g.Charted (g.chains [] g.reachable.flatten) g.reachable.flatten :=
    hlayering.ready.charted ⟨rfl, List.forall_mem_nil _⟩
  obtain ⟨hstart, hchain, hmost⟩ := hcharted.longest_known
  generalize hlongest : longest ((g.chains [] g.reachable.flatten).map Prod.snd) = down at *
  -- The chain that is found goes down; the path is that chain read from its end.
  have hpath : g.criticalPath = .ok down.reverse := by
    rw [criticalPath, order, if_pos (isAcyclic_of_acyclic hsimple hacyclic), ← hlongest]
    rfl
  have hsubset : ∀ id ∈ down, id ∈ g.ids := by
    rcases hstart with rfl | ⟨id, hid, below, rfl⟩
    · exact List.forall_mem_nil _
    · exact hsimple.mem_ids_of_isChain (hperm.mem_iff.1 hid) hchain
  have hall : ∀ other ⊆ g.ids, other.IsChain g.Needs → other.length ≤ down.length := by
    intro other hother hdown
    cases other with
    | nil => exact Nat.zero_le _
    | cons id below =>
      exact hmost id (hperm.mem_iff.2 (hother List.mem_cons_self)) below hdown
  refine ⟨down.reverse, hpath, ?_, ?_⟩
  · rw [List.length_reverse]
    apply Nat.le_antisymm
    · rcases hstart with rfl | ⟨id, hid, below, rfl⟩
      · exact Nat.zero_le _
      · exact hlayering.length_lt hsimple (hperm.mem_iff.1 hid) hchain
    · by_cases hne : g.reachable = []
      · simp [hne]
      · obtain ⟨id, hid, below, hbelow, hlength⟩ := hlayering.exists_chain hsimple hne
        have := hmost id (hperm.mem_iff.2 hid) below hbelow
        omega
  · refine ⟨?_, ?_, List.isChain_reverse.2 hchain, ?_⟩
    · exact List.nodup_reverse.2 (hacyclic.nodup_of_isChain hchain)
    · exact fun id hid => hsubset id (List.mem_reverse.1 hid)
    · intro other hother hup
      have hle := hall other.reverse (fun id hid => hother (List.mem_reverse.1 hid))
        (List.isChain_reverse.2 hup)
      rwa [List.length_reverse] at hle ⊢

end Acyclic

end PlanGraph

/-! ## Valid plans -/

namespace Plan

open PlanGraph Schedule

/-- The layers and the critical path of a valid plan. -/
theorem layers_and_criticalPath_of_validate (p : Plan) (hvalid : p.validate = .ok ()) :
    ∃ layers path, p.graph.layers = .ok layers ∧ p.graph.criticalPath = .ok path ∧
      Layered (ids p.steps) (Names p.steps) layers ∧
      Critical (ids p.steps) (Names p.steps) path ∧ path.length = layers.length := by
  obtain ⟨-, -, hids, -, hdependencies, hcycles⟩ := (validate_eq_ok_iff_checks p).1 hvalid
  have hclosed := checkDependencies_eq_ok_iff.1 hdependencies
  have hacyclic := (checkCycles_eq_ok_iff (checkIds_eq_ok_iff.1 hids) hclosed).1 hcycles
  have hneeds : p.graph.Needs = Names p.steps := by
    funext a b
    exact propext needs_graph_iff
  have hmem : ∀ {id}, id ∈ p.graph.ids ↔ id ∈ ids p.steps := mem_ids_graph hclosed
  have hgraph : Acyclic p.graph.Needs := hneeds ▸ hacyclic
  obtain ⟨layers, hlayers, hcount, hlayered⟩ := exists_layers p.simple_graph hgraph
  obtain ⟨path, hpath, hlength, hcritical⟩ := exists_criticalPath p.simple_graph hgraph
  rw [hneeds] at hlayered hcritical
  refine ⟨layers, path, hlayers, hpath, ?_, ?_, hlength.trans hcount.symm⟩
  · exact ⟨hlayered.nodup, fun id => (hlayered.mem_iff id).trans hmem, hlayered.ne_nil,
      fun i layer hi id hid => hlayered.height_iff i layer hi id (hmem.2 hid), hlayered.behind⟩
  · exact ⟨hcritical.nodup, fun id hid => hmem.1 (hcritical.subset hid), hcritical.chain,
      fun other hother => hcritical.length_le other fun id hid => hmem.2 (hother hid)⟩

/-- Two steps behind a first one, and a last one that names one of them twice. -/
def forked : Plan := ⟨"site", "repository",
  [⟨"push", "git-push", [], "", ["docs", "license", "docs"], none, [], .pending, none⟩,
    ⟨"license", "add-license", [], "", ["branch"], none, [], .pending, none⟩,
    ⟨"docs", "add-docs", [], "", ["branch"], none, [], .pending, none⟩,
    ⟨"branch", "create-branch", [], "", [], none, [], .pending, none⟩]⟩

theorem layers_and_criticalPath_of_validate_forked :
    forked.validate = .ok () ∧ ∃ layers path, forked.graph.layers = .ok layers ∧
      forked.graph.criticalPath = .ok path ∧ Layered (ids forked.steps) (Names forked.steps) layers ∧
      Critical (ids forked.steps) (Names forked.steps) path ∧ path.length = layers.length := by
  have hvalid : forked.validate = .ok () := by cbv
  exact ⟨hvalid, layers_and_criticalPath_of_validate forked hvalid⟩

example : forked.graph.criticalPath = .ok ["branch", "docs", "push"] := by cbv

end Plan

end Remediation
