import Remediation.Proofs.Expansion.Siblings
import Remediation.Proofs.Schedule.Sort
/-!
# The declared order of rules is kept

A plan is in order if every step stands behind the steps that it depends on.  Then all steps that a
rule has become stand behind all steps of the siblings that it needs, at every depth and however many
of the siblings in between have become nothing (`precedes_of_needs`).

The argument is about ranks: ids of steps are numbered such that dependencies fall (`Descends`), and
the places of a sorted plan are such numbers.
-/

set_option autoImplicit false

namespace Remediation.Expansion

open Relation
open Schedule (ids)

variable {w : Setting} {sc : Scope} {yields : List Yield} {y y' : Yield} {rank : String → Nat}

/-- Steps depend on steps of lower rank alone. -/
def Descends (rank : String → Nat) (steps : List Step) : Prop :=
  ∀ s ∈ steps, ∀ d ∈ s.dependsOn, d ∈ ids steps → rank d < rank s.id

/-! ## Siblings -/

theorem Descends.lt_of_settled (hdescends : Descends rank (sc.collect .start yields).finish)
    (hy : y ∈ yields) {s : Step} (hs : s ∈ y.steps) {d : String}
    (hd : d ∈ (sc.settled yields y s).dependsOn)
    (hemitted : d ∈ ids (sc.collect .start yields).finish) : rank d < rank s.id := by
  have hlt := hdescends _ (mem_finish.2 ⟨y, hy, s, hs, rfl⟩) d hd hemitted
  rwa [settled_id] at hlt

/-- What depends on steps of lower rank in a scope did so where it was made. -/
theorem Family.descends_yield (h : Family w sc yields)
    (hdescends : Descends rank (sc.collect .start yields).finish) (hy : y ∈ yields) :
    Descends rank y.steps := by
  intro s hs d hd hemitted
  exact hdescends.lt_of_settled hy hs (h.mem_settled hy hd hemitted)
    (mem_ids_finish.2 ⟨y, hy, hemitted⟩)

namespace Siblings

theorem descends_yield (h : Siblings w sc yields)
    (hdescends : Descends rank (sc.collect .start yields).finish) (hy : y ∈ yields) :
    Descends rank y.steps := h.family.descends_yield hdescends hy

/-- A step has the dependencies of its rule, or inherits them, or depends on a step that was made
below the same rule. -/
theorem dependsOn_cases (h : Siblings w sc yields) (hy : y ∈ yields) {s : Step} (hs : s ∈ y.steps) :
    s.dependsOn = y.deps ∨ y.Inherits s ∨ ∃ d ∈ s.dependsOn, d ∈ ids y.steps :=
  h.family.dependsOn_cases hy hs

/-- Where a rule depends on a name, all its steps come behind what the name stands for. -/
theorem rank_lt_of_endOf (h : Siblings w sc yields)
    (hdescends : Descends rank (sc.collect .start yields).finish) (hy : y ∈ yields) {x e : String}
    (hx : x ∈ y.deps) (hend : (sc.table yields).EndOf x e)
    (he : e ∈ ids (sc.collect .start yields).finish) {s : Step} (hs : s ∈ y.steps) :
    rank e < rank s.id := by
  -- A step with a dependency inside the rule comes behind it, and down there ranks end.
  induction hrank : rank s.id using Nat.strongRecOn generalizing s with
  | ind n ih =>
    have hsettled (hdep : x ∈ s.dependsOn ∨ y.Inherits s ∧ x ∈ y.deps) : rank e < rank s.id :=
      hdescends.lt_of_settled hy hs (mem_dependsOn_settled.2 ⟨x, hdep, hend⟩) he
    rw [← hrank]
    rcases h.dependsOn_cases hy hs with hown | hinherits | ⟨d, hd, hemitted⟩
    · exact hsettled (Or.inl (hown ▸ hx))
    · exact hsettled (Or.inr ⟨hinherits, hx⟩)
    · have hlt : rank d < rank s.id := h.descends_yield hdescends hy s hs d hd hemitted
      obtain ⟨t, ht, rfl⟩ := List.mem_map.1 hemitted
      exact (ih (rank t.id) (hrank ▸ hlt) ht rfl).trans hlt

/-- A rule that needs another one, be it by way of siblings that became nothing, depends on a name
that stands for a step of that rule, or for one that comes behind it. -/
theorem exists_endOf_of_needs (h : Siblings w sc yields)
    (hdescends : Descends rank (sc.collect .start yields).finish) (hy' : y' ∈ yields)
    (hneeds : TransGen sc.Needs y.rule y'.rule) (hy : y ∈ yields) {e : String}
    (he : e ∈ ids y'.steps) :
    ∃ x ∈ y.deps, ∃ f ∈ ids (sc.collect .start yields).finish,
      (sc.table yields).EndOf x f ∧ rank e ≤ rank f := by
  generalize hr : y.rule = r at hneeds
  induction hneeds using TransGen.head_induction_on generalizing y with
  | single hneeds =>
    refine ⟨_, h.pathId_mem_deps hy (hr ▸ hneeds), e, mem_ids_finish.2 ⟨y', hy', he⟩, ?_, le_rfl⟩
    exact h.endOf_of_emitted hy' he
  | @head _ c hneeds _ ih =>
    obtain ⟨between, hbetween, rfl⟩ := h.exists_yield hneeds.mem_right
    obtain ⟨x, hx, f, hf, hend, hle⟩ := ih hbetween rfl
    have hdep : sc.pathId between.rule ∈ y.deps := h.pathId_mem_deps hy (hr ▸ hneeds)
    cases hsteps : between.steps with
    | nil => exact ⟨_, hdep, f, hf, h.endOf_of_silent hbetween hsteps hx hend, hle⟩
    | cons s rest =>
      have hs : s ∈ between.steps := by simp [hsteps]
      have hemitted : s.id ∈ ids between.steps := List.mem_map_of_mem hs
      have hlt := h.rank_lt_of_endOf hdescends hbetween hx hend hf hs
      exact ⟨_, hdep, s.id, mem_ids_finish.2 ⟨between, hbetween, hemitted⟩,
        h.endOf_of_emitted hbetween hemitted, hle.trans hlt.le⟩

/-- The steps of a rule come behind those of the siblings that it needs. -/
theorem rank_lt_of_needs (h : Siblings w sc yields)
    (hdescends : Descends rank (sc.collect .start yields).finish) (hy' : y' ∈ yields)
    (hy : y ∈ yields) (hneeds : TransGen sc.Needs y.rule y'.rule) {e : String}
    (he : e ∈ ids y'.steps) {s : Step} (hs : s ∈ y.steps) : rank e < rank s.id := by
  obtain ⟨x, hx, f, hf, hend, hle⟩ := h.exists_endOf_of_needs hdescends hy' hneeds hy he
  exact hle.trans_lt (h.rank_lt_of_endOf hdescends hy hx hend hf hs)

/-- A step whose id is a path id of a rule is one that the rule has become. -/
theorem mem_ids_of_mem_idsFrom (h : Siblings w sc yields) (hy : y ∈ yields) {x : String}
    (hx : x ∈ ids (sc.collect .start yields).finish) (hfrom : x ∈ sc.idsFrom w y.rule) :
    x ∈ ids y.steps := h.family.mem_ids_of_mem_idsFrom hy hx hfrom

/-- What a rule with a scope below it has become is what that scope has become. -/
theorem expand_of_emitted (h : Siblings w sc yields) (hy : y ∈ yields) {c : Scope}
    (hbelow : sc.below? w y.rule = some c) {x : String} (hx : x ∈ ids y.steps) :
    ∃ planned last, c.expand w planned = (.ok y.steps, last) :=
  h.family.expand_of_emitted hy hbelow hx

end Siblings

/-! ## All depths -/

/-- Within a scope whose plan is in order, the steps of siblings are in the order that the siblings
need. -/
theorem rank_lt_of_within {top : Scope} (hwithin : Scope.Within w top sc)
    (hunique : (top.ids w).Nodup) (hnamed : top.Identified w)
    {planned last : List String} {steps : List Step}
    (hexpand : top.expand w planned = (.ok steps, last)) (hdescends : Descends rank steps)
    {r r' : Rule} (hneeds : TransGen sc.Needs r r') {x x' : String} (hx : x ∈ ids steps)
    (hx' : x' ∈ ids steps) (hfrom : x ∈ sc.idsFrom w r) (hfrom' : x' ∈ sc.idsFrom w r') :
    rank x' < rank x := by
  induction hwithin generalizing planned last steps with
  | @self sc =>
    obtain ⟨yields, hyields, rfl⟩ := Scope.expand_eq_ok_iff.1 hexpand
    have h := hyields.siblings hunique (hnamed sc .self)
    obtain ⟨y, hy, rfl⟩ := h.exists_yield (Scope.mem_left_of_needs hneeds)
    obtain ⟨y', hy', rfl⟩ := h.exists_yield (Scope.mem_right_of_needs hneeds)
    obtain ⟨s, hs, rfl⟩ := List.mem_map.1 (h.mem_ids_of_mem_idsFrom hy hx hfrom)
    exact h.rank_lt_of_needs hdescends hy' hy hneeds
      (h.mem_ids_of_mem_idsFrom hy' hx' hfrom') hs
  | @down top c sc between hbetween hbelow hinner ih =>
    obtain ⟨yields, hyields, rfl⟩ := Scope.expand_eq_ok_iff.1 hexpand
    have h := hyields.siblings hunique (hnamed top .self)
    obtain ⟨y, hy, rfl⟩ := h.exists_yield hbetween
    have hemitted {x : String} {r : Rule} (hr : r ∈ sc.rules)
        (hx : x ∈ ids (top.collect .start yields).finish) (hfrom : x ∈ sc.idsFrom w r) :
        x ∈ ids y.steps := by
      refine h.mem_ids_of_mem_idsFrom hy hx ?_
      rw [Scope.idsFrom_of_below hbelow]
      have hsub := (Scope.idsFrom_sublist_ids hr).subset hfrom
      exact List.mem_cons_of_mem _ (hinner.ids_subset hsub)
    have hinside := hemitted (Scope.mem_left_of_needs hneeds) hx hfrom
    have hinside' := hemitted (Scope.mem_right_of_needs hneeds) hx' hfrom'
    obtain ⟨planned, last, hexpand⟩ := h.expand_of_emitted hy hbelow hinside
    exact ih ((Scope.ids_sublist_of_below hbetween hbelow).nodup hunique)
      (hnamed.below hbetween hbelow) hexpand (h.descends_yield hdescends hy) hneeds hinside hinside'
      hfrom hfrom'

/-- The steps of a rule stand behind the steps of every sibling that it needs, in the sorted plan of
every rule file whose rules are named and have different path ids.  A step is one of a rule, or of a
rule below it, if its id is among the path ids of that rule. -/
theorem precedes_of_needs {rules : List Rule} {steps sorted : List Step}
    (hnamed : ∀ inner, Scope.Within w (.root rules) inner → ∀ r ∈ inner.rules, r.id ≠ "")
    (hunique : ((Scope.root rules).ids w).Nodup) (hrun : run w rules = .ok steps)
    (hsort : (Schedule.sort steps).sorted = .ok sorted)
    (hwithin : Scope.Within w (.root rules) sc) {a b : Rule} (hneeds : TransGen sc.Needs b a)
    {s t : Step} (hs : s ∈ sorted) (ht : t ∈ sorted) (hfrom : s.id ∈ sc.idsFrom w a)
    (hfrom' : t.id ∈ sc.idsFrom w b) : Schedule.Precedes sorted s t := by
  have hids := Schedule.ids_perm_of_sorted hsort
  have hemitted {u : Step} (hu : u ∈ sorted) : u.id ∈ ids steps :=
    hids.mem_iff.1 (List.mem_map_of_mem hu)
  have hdescends : Descends (Schedule.place sorted) steps := by
    intro u hu d hd _
    exact Schedule.place_lt_of_requires hsort hu (Or.inl hd)
  rw [run_eq_expand] at hrun
  have hexpand : (Scope.root rules).expand w [] = (.ok steps, _) := Prod.ext hrun rfl
  refine Schedule.precedes_of_place_lt (Schedule.nodup_ids_of_sorted hsort) hs ht ?_
  exact rank_lt_of_within hwithin hunique hnamed hexpand hdescends hneeds (hemitted ht) (hemitted hs)
    hfrom' hfrom

/-! ## A rule that became nothing in between -/

/-- Release after a check that needs the preparation, and is part of it already. -/
def releaseRules : List Rule :=
  [{ bareRule "release" "ship" with dependsOn := ["check"] },
   { bareRule "prepare" "" with steps := [bareRule "probe" "probe"] },
   { bareRule "check" "probe" with dependsOn := ["prepare"], once := true }]

/-- A step of which only the id, the action and its dependencies are given. -/
def bareStep (id action : String) (dependsOn : List String) : Step where
  id := id
  action := action
  params := []
  reason := ""
  dependsOn := dependsOn
  outputs := none
  outputRefs := []
  status := .pending
  error := none

/-- The step of the preparation. -/
def probeStep : Step := bareStep "prepare-probe" "probe" []

/-- The step of the release, which depends on what the check depends on. -/
def releaseStep : Step := bareStep "release" "ship" ["prepare-probe"]

/-- The release comes behind the step of the preparation, though the check has become nothing. -/
theorem precedes_of_needs_release :
    run bareSetting releaseRules = .ok [releaseStep, probeStep] ∧
      (Schedule.sort [releaseStep, probeStep]).sorted = .ok [probeStep, releaseStep] ∧
      Schedule.Precedes [probeStep, releaseStep] probeStep releaseStep := by
  have hids : (Scope.root releaseRules).ids bareSetting =
      ["release", "prepare", "prepare-probe", "check"] := by cbv
  have hunique : ((Scope.root releaseRules).ids bareSetting).Nodup := by
    rw [hids]
    decide
  have hnamed : ∀ inner, Scope.Within bareSetting (.root releaseRules) inner →
      ∀ r ∈ inner.rules, r.id ≠ "" := by
    intro inner hwithin r hr
    exact hwithin.id_ne_empty (by simp [hids]) hr
  have hrun : run bareSetting releaseRules = .ok [releaseStep, probeStep] := by cbv
  have hsort : (Schedule.sort [releaseStep, probeStep]).sorted = .ok [probeStep, releaseStep] := by
    cbv
  have hcheck : (Scope.root releaseRules).Needs releaseRules[0] releaseRules[2] :=
    .named (by simp [Scope.root]) (by simp [Scope.root]) (by decide)
  have hprepare : (Scope.root releaseRules).Needs releaseRules[2] releaseRules[1] :=
    .named (by simp [Scope.root]) (by simp [Scope.root]) (by decide)
  have hfrom : (Scope.root releaseRules).idsFrom bareSetting releaseRules[1] =
      ["prepare", "prepare-probe"] := by cbv
  have hprobe : probeStep.id ∈ (Scope.root releaseRules).idsFrom bareSetting releaseRules[1] := by
    rw [hfrom]
    decide
  refine ⟨hrun, hsort, ?_⟩
  exact precedes_of_needs hnamed hunique hrun hsort .self (.head hcheck (.single hprepare))
    (by simp) (by simp) hprobe (Scope.pathId_mem_idsFrom _ _)

end Remediation.Expansion
