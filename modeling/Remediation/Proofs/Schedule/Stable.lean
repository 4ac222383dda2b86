import Remediation.Proofs.Plan.Validation
import Remediation.Proofs.Web.Front
/-!
# Schedules that keep the order of the steps

Steps that require none of those behind them are put in order first, as if nothing stood behind them
(`exists_of_sorted_append`).  So a step that stands behind all that it requires keeps its place behind
them, and steps that are in order already are left as they stand (`sorted_of_inOrder`); a schedule is put
in order once more as it is (`sort_sorted`).
-/

set_option autoImplicit false

namespace Remediation

namespace Schedule

open Relation

variable {steps sorted xs ys : List Step}

theorem ids_append (xs ys : List Step) : ids (xs ++ ys) = ids xs ++ ids ys := List.map_append

/-! ## Steps in front -/

/-- Arranged steps stand as their vertices are listed, and all of them are. -/
theorem listed_of_arranged (h : arrange steps = .ok sorted) :
    (∀ v, v ∈ (web steps).order ↔ v ∈ ids steps) ∧
      sorted = (web steps).order.filterMap (step? steps) := by
  unfold arrange at h
  split at h
  next => cases h
  split at h
  next => cases h
  next hcycles =>
    have hnone : (web steps).cycle = [] := by
      unfold checkCycles at hcycles
      split at hcycles
      next hnil => exact hnil
      next => cases hcycles
    obtain ⟨-, hall⟩ := Web.settled_order hnone
    rw [vertices_web] at hall
    exact ⟨hall, (Except.ok.inj h).symm⟩

theorem arranged_of_sorted (h : (sort steps).sorted = .ok sorted) :
    arrange (steps.map Step.withSources) = .ok sorted := by
  rwa [sort_of_nodup (sortable_of_sorted h).1] at h

/-- Where no step in front requires one behind, no vertex in front needs one behind. -/
theorem leads_web (hnodup : (ids xs).Nodup)
    (hnone : ∀ s ∈ xs, ∀ d, s.Requires d → d ∉ ids ys) :
    Web.Leads (web (xs.map Step.withSources)) (web (ys.map Step.withSources)) := by
  intro v hv d hd
  rw [vertices_web] at hv
  obtain ⟨t, ht, rfl⟩ := List.mem_map.1 hv
  obtain ⟨s, hs, rfl⟩ := List.mem_map.1 ht
  rw [needs_web (by rwa [ids_map_withSources]) ht] at hd
  rw [vertices_web, ids_map_withSources]
  exact hnone s hs d (Step.mem_dependsOn_withSources.1 hd)

/-- Of steps that can be put in order, those in front can that require none behind them. -/
theorem exists_sorted_front (h : (sort (xs ++ ys)).sorted = .ok sorted)
    (hnone : ∀ s ∈ xs, ∀ d, s.Requires d → d ∉ ids ys) :
    (ids xs).Nodup ∧ ∃ first, (sort xs).sorted = .ok first := by
  obtain ⟨hnodup, hclosed, hacyclic⟩ := sortable_of_sorted h
  rw [ids_append] at hnodup
  have hfront : (ids xs).Nodup := (List.nodup_append.1 hnodup).1
  have hwithin : ∀ s ∈ xs, ∀ d, s.Requires d → d ∈ ids xs := by
    intro s hs d hd
    have hthere := hclosed s (List.mem_append_left ys hs) d hd
    rw [ids_append] at hthere
    exact (List.mem_append.1 hthere).resolve_right (hnone s hs d hd)
  have hdepends : ∀ a b, Depends xs a b → Depends (xs ++ ys) a b := by
    rintro a b ⟨s, hs, ha, hb⟩
    exact ⟨s, List.mem_append_left ys hs, ha, hb⟩
  exact ⟨hfront, exists_sorted hfront hwithin (hacyclic.mono hdepends)⟩

/-- In front of others, an id stands for the same step. -/
theorem step?_append_of_mem {id : String} (h : id ∈ ids xs) (ys : List Step) :
    step? (xs ++ ys) id = step? xs id := by
  obtain ⟨s, hs, rfl⟩ := List.mem_map.1 h
  have hfound : (step? xs s.id).isSome := List.find?_isSome.2 ⟨s, hs, beq_self_eq_true _⟩
  rw [step?, List.find?_append]
  exact Option.or_of_isSome hfound

/-- Where no step in front requires one behind, the steps in front are put in order first, as if nothing
stood behind them. -/
theorem exists_of_sorted_append (h : (sort (xs ++ ys)).sorted = .ok sorted)
    (hnone : ∀ s ∈ xs, ∀ d, s.Requires d → d ∉ ids ys) :
    ∃ first later, (sort xs).sorted = .ok first ∧ later.Perm (ys.map Step.withSources) ∧
      sorted = first ++ later := by
  obtain ⟨hnodup, first, hfirst⟩ := exists_sorted_front h hnone
  obtain ⟨hlisted, hfront⟩ := listed_of_arranged (arranged_of_sorted hfirst)
  obtain ⟨-, hwhole⟩ := listed_of_arranged (arranged_of_sorted h)
  obtain ⟨rest, hrest⟩ := Web.order_prefix_append (leads_web hnodup hnone)
  have hweb : web (xs.map Step.withSources ++ ys.map Step.withSources) =
      web (xs.map Step.withSources) ++ web (ys.map Step.withSources) := List.map_append
  have hsame : ∀ v ∈ (web (xs.map Step.withSources)).order,
      step? (xs.map Step.withSources ++ ys.map Step.withSources) v =
        step? (xs.map Step.withSources) v :=
    fun v hv => step?_append_of_mem ((hlisted v).1 hv) _
  rw [List.map_append, hweb, ← hrest, List.filterMap_append, List.filterMap_congr hsame,
    ← hfront] at hwhole
  have hperm := (perm_and_inOrder_of_sorted h).1
  rw [hwhole, List.map_append] at hperm
  have hfirstPerm := (perm_and_inOrder_of_sorted hfirst).1
  exact ⟨first, _, hfirst,
    (List.perm_append_left_iff _).1 ((hfirstPerm.append_right _).symm.trans hperm), hwhole⟩

/-! ## Steps in order -/

theorem inOrder_of_append (h : InOrder (xs ++ ys)) : InOrder xs := by
  rintro before s behind rfl d hd
  exact h before s (behind ++ ys) (by simp) d hd

theorem InOrder.map_withSources (h : InOrder steps) : InOrder (steps.map Step.withSources) := by
  intro before t behind hsplit d hd
  obtain ⟨early, late, rfl, rfl, hlate⟩ := List.map_eq_append_iff.1 hsplit
  obtain ⟨s, rest, rfl, rfl, rfl⟩ := List.map_eq_cons_iff.1 hlate
  rw [ids_map_withSources]
  exact h early s rest rfl d (Step.requires_withSources.1 hd)

/-- Steps that are in order can be put in order. -/
theorem exists_sorted_of_inOrder (hnodup : (ids steps).Nodup) (horder : InOrder steps) :
    ∃ sorted, (sort steps).sorted = .ok sorted := by
  have hsettled : (ids (steps.map Step.withSources)).Nodup := by rwa [ids_map_withSources]
  obtain ⟨hclosed, hacyclic⟩ :=
    (exists_ordered_iff hsettled).1 ⟨_, .refl _, horder.map_withSources.ordered⟩
  exact exists_sorted hnodup (closed_map_withSources.1 hclosed)
    (hacyclic.mono fun a b => names_map_withSources.2)

/-- Steps that are in order are left as they stand, with their sources added. -/
theorem sorted_of_inOrder (hnodup : (ids steps).Nodup) (horder : InOrder steps) :
    (sort steps).sorted = .ok (steps.map Step.withSources) := by
  induction steps using List.reverseRecOn with
  | nil => rfl
  | append_singleton xs s ih =>
    have hids : (ids xs ++ ids [s]).Nodup := ids_append xs [s] ▸ hnodup
    have hfront := ih (List.nodup_append.1 hids).1 (inOrder_of_append horder)
    have hnone : ∀ t ∈ xs, ∀ d, t.Requires d → d ∉ ids [s] := by
      intro t ht d hd hlast
      obtain ⟨before, behind, rfl⟩ := List.append_of_mem ht
      have hbefore : d ∈ ids before := horder before t (behind ++ [s]) (by simp) d hd
      refine (List.nodup_append.1 hids).2.2 d ?_ d hlast rfl
      rw [ids_append]
      exact List.mem_append_left _ hbefore
    obtain ⟨sorted, hsorted⟩ := exists_sorted_of_inOrder hnodup horder
    obtain ⟨first, later, hfirst, hlater, rfl⟩ := exists_of_sorted_append hsorted hnone
    obtain rfl := Except.ok.inj (hfirst.symm.trans hfront)
    obtain rfl := List.perm_singleton.1 hlater
    rw [hsorted, List.map_append, List.map_singleton]

/-- What has been put in order once is left as it is. -/
theorem sort_sorted (h : (sort steps).sorted = .ok sorted) :
    sort sorted = ⟨sorted, .ok sorted⟩ := by
  obtain ⟨hperm, horder⟩ := perm_and_inOrder_of_sorted h
  have hnodup := nodup_ids_of_sorted h
  have hnamed : ∀ s ∈ sorted, s.withSources = s := by
    intro s hs
    obtain ⟨t, -, rfl⟩ := List.mem_map.1 (hperm.mem_iff.1 hs)
    exact t.withSources_withSources
  have hsettled : sorted.map Step.withSources = sorted := by
    rw [List.map_congr_left hnamed, List.map_id']
  have hagain := sorted_of_inOrder hnodup horder
  rw [sort_of_nodup hnodup] at hagain ⊢
  simp only [hsettled] at hagain ⊢
  rw [hagain]

/-- Sorting keeps the order in which steps stand where it can.  Steps that require none behind them are
sorted as if nothing stood behind, and the others follow; steps that are in order are left as they stand,
and so is what has been sorted. -/
theorem sort_keeps_order :
    (∀ xs ys sorted, (sort (xs ++ ys)).sorted = .ok sorted →
      (∀ s ∈ xs, ∀ d, s.Requires d → d ∉ ids ys) →
      ∃ first later, (sort xs).sorted = .ok first ∧ later.Perm (ys.map Step.withSources) ∧
        sorted = first ++ later) ∧
    (∀ steps, (ids steps).Nodup → InOrder steps →
      (sort steps).sorted = .ok (steps.map Step.withSources)) ∧
    ∀ steps sorted, (sort steps).sorted = .ok sorted → (sort sorted).sorted = .ok sorted := by
  refine ⟨fun xs ys sorted => exists_of_sorted_append, fun steps => sorted_of_inOrder, ?_⟩
  intro steps sorted h
  rw [sort_sorted h]

/-- A step that waits for another one. -/
def deployStep : Step := ⟨"deploy", "push", [], "", ["build"], none, [], .pending, none⟩

/-- The step that is waited for. -/
def buildStep : Step := ⟨"build", "make", [], "", [], none, [], .pending, none⟩

/-- A step that tells where the deployed thing is. -/
def tellStep : Step :=
  ⟨"tell", "mail", [], "", ["lint"], none, [("at", "deploy.url")], .pending, none⟩

/-- A step that waits for nothing. -/
def lintStep : Step := ⟨"lint", "check", [], "", [], none, [], .pending, none⟩

/-- What is built and deployed does not wait for what stands behind it, and so comes first. -/
theorem sort_keeps_order_deploy :
    (sort ([deployStep, buildStep] ++ [tellStep, lintStep])).sorted =
      .ok [buildStep, deployStep, lintStep, tellStep.withSources] ∧
    (∀ s ∈ [deployStep, buildStep], ∀ d, s.Requires d → d ∉ ids [tellStep, lintStep]) ∧
    (∃ first later, (sort [deployStep, buildStep]).sorted = .ok first ∧
      later.Perm [tellStep.withSources, lintStep] ∧
      [buildStep, deployStep, lintStep, tellStep.withSources] = first ++ later) ∧
    (ids [buildStep, deployStep]).Nodup ∧ InOrder [buildStep, deployStep] ∧
    (sort [buildStep, deployStep]).sorted = .ok [buildStep, deployStep] ∧
    (sort [buildStep, deployStep, lintStep, tellStep.withSources]).sorted =
      .ok [buildStep, deployStep, lintStep, tellStep.withSources] := by
  have hwhole : (sort ([deployStep, buildStep] ++ [tellStep, lintStep])).sorted =
      .ok [buildStep, deployStep, lintStep, tellStep.withSources] := by cbv
  have hfront : (sort [deployStep, buildStep]).sorted = .ok [buildStep, deployStep] := by cbv
  have hnone : ∀ s ∈ [deployStep, buildStep], ∀ d, s.Requires d → d ∉ ids [tellStep, lintStep] := by
    refine List.forall_mem_cons.2 ⟨fun d hd => ?_, List.forall_mem_singleton.2 fun d hd => ?_⟩
    · obtain rfl := List.mem_singleton.1 ((Step.requires_iff_of_outputRefs_eq_nil rfl).1 hd)
      decide
    · cases (Step.requires_iff_of_outputRefs_eq_nil rfl).1 hd
  have hnodup : (ids [buildStep, deployStep]).Nodup := by decide
  have horder : InOrder [buildStep, deployStep] := (perm_and_inOrder_of_sorted hfront).2
  obtain ⟨hfirst, hkept, hagain⟩ := sort_keeps_order
  exact ⟨hwhole, hnone, hfirst _ _ _ hwhole hnone, hnodup, horder, hkept _ hnodup horder,
    hagain _ _ hwhole⟩

end Schedule

end Remediation
