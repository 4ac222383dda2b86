import Remediation.Proofs.Execution.Supply
/-!
# Valid plans

A plan is valid exactly if its steps have different ids, an action each, and can be put into an order
in which each stands behind its dependencies (`validate_eq_ok_iff_can_be_ordered`).  A run takes the
steps as they stand, so it starts every step behind its dependencies only if the plan has that order
already: a valid plan need not have it (`validate_misplaced`).
-/

set_option autoImplicit false

namespace Remediation

namespace Schedule

open Relation

variable {steps : List Step}

/-- Every step stands behind those that it names. -/
def Ordered (steps : List Step) : Prop :=
  ∀ before s behind, steps = before ++ s :: behind → ∀ d ∈ s.dependsOn, d ∈ ids before

/-- Steps that stand behind what they require stand behind what they name. -/
theorem InOrder.ordered (h : InOrder steps) : Ordered steps :=
  fun before s behind hsplit d hd => h before s behind hsplit d (Or.inl hd)

/-! ## When checks pass -/

theorem checkDependencies_eq_ok_iff : checkDependencies steps = .ok () ↔ Closed steps := by
  rcases checkDependencies_cases steps with ⟨hclosed, hok⟩ | ⟨s, hs, d, hd, habsent, herror⟩
  · exact iff_of_true hok hclosed
  · refine iff_of_false (by simp [herror]) fun hclosed => ?_
    exact habsent (hclosed s hs d hd)

theorem checkCycles_eq_ok_iff (hnodup : (ids steps).Nodup) (hclosed : Closed steps) :
    checkCycles steps = .ok () ↔ Acyclic (Names steps) := by
  have hedge : ∀ a b, (web steps).Edge a b ↔ Names steps a b := fun a b =>
    edge_web_iff_names hnodup hclosed
  unfold checkCycles
  rcases Web.cycle_cases (web steps) with ⟨hnone, finished, -, hsettled, hall⟩ | hcycle
  · rw [hnone]
    exact iff_of_true rfl ((hsettled.acyclic hall).mono fun a b => (hedge a b).2)
  · refine iff_of_false ?_ fun hacyclic => ?_
    · split
      next hnil => exact absurd hnil hcycle.ne_nil
      next => simp
    · exact hcycle.not_acyclic (hacyclic.mono fun a b => (hedge a b).1)

/-! ## Steps that can be ordered -/

/-- Steps can be ordered exactly if all that they name is there, and not in a circle. -/
theorem exists_ordered_iff (hnodup : (ids steps).Nodup) :
    (∃ sorted : List Step, sorted.Perm steps ∧ Ordered sorted) ↔
      Closed steps ∧ Acyclic (Names steps) := by
  constructor
  · rintro ⟨sorted, hperm, hordered⟩
    have hids : (ids sorted).Perm (ids steps) := hperm.map _
    have hbehind : ∀ s ∈ steps, ∀ d ∈ s.dependsOn, ∃ before behind,
        sorted = before ++ s :: behind ∧ d ∈ ids before := by
      intro s hs d hd
      obtain ⟨before, behind, hsplit⟩ := List.append_of_mem (hperm.mem_iff.2 hs)
      exact ⟨before, behind, hsplit, hordered before s behind hsplit d hd⟩
    constructor
    · intro s hs d hd
      obtain ⟨before, behind, rfl, hbefore⟩ := hbehind s hs d hd
      refine hids.mem_iff.1 ?_
      rw [ids, List.map_append]
      exact List.mem_append_left _ hbefore
    · refine acyclic_of_rank (place sorted) ?_
      rintro a d ⟨s, hs, rfl, hd⟩
      obtain ⟨before, behind, rfl, hbefore⟩ := hbehind s hs d hd
      have hsplit : ids (before ++ s :: behind) = ids before ++ s.id :: ids behind := by simp [ids]
      have hnodup' := hids.nodup_iff.2 hnodup
      unfold place
      rw [hsplit] at hnodup' ⊢
      exact idxOf_lt_idxOf_of_mem_before hnodup' hbefore
  · rintro ⟨hclosed, hacyclic⟩
    rcases arrange_cases hnodup with ⟨s, hs, d, hd, habsent, -⟩ | ⟨-, v, vs, -, hwalk, -⟩ |
        ⟨-, -, sorted, -, hperm, hordered⟩
    · exact absurd (hclosed s hs d hd) habsent
    · exact absurd (transGen_of_isChain hwalk) (hacyclic v)
    · exact ⟨sorted, hperm, hordered⟩

end Schedule

namespace Plan

open Schedule Execution

theorem validate_eq_ok_iff_checks (p : Plan) :
    p.validate = .ok () ↔ p.steps ≠ [] ∧ (∀ s ∈ p.steps, s.id ≠ "") ∧
      checkIds p.steps = .ok () ∧ (∀ s ∈ p.steps, s.action ≠ "") ∧
      checkDependencies p.steps = .ok () ∧ checkCycles p.steps = .ok () := by
  unfold validate
  split
  next hempty =>
    refine iff_of_false (by simp) fun h => h.1 ?_
    exact List.isEmpty_iff.1 hempty
  next hempty =>
    have hne : p.steps ≠ [] := fun he => hempty (List.isEmpty_iff.2 he)
    split
    next hid =>
      refine iff_of_false (by simp) fun h => ?_
      obtain ⟨s, hs, hblank⟩ := List.any_eq_true.1 hid
      exact h.2.1 s hs (eq_of_beq hblank)
    next hid =>
      have hids : ∀ s ∈ p.steps, s.id ≠ "" := by
        intro s hs hblank
        exact hid (List.any_eq_true.2 ⟨s, hs, beq_iff_eq.2 hblank⟩)
      split
      next e herror => exact iff_of_false (by simp) fun h => by simp [herror] at h
      next hok =>
        split
        next s hfind =>
          have hblank : s.action = "" := by simpa using List.find?_some hfind
          exact iff_of_false (by simp) fun h =>
            h.2.2.2.1 s (List.mem_of_find?_eq_some hfind) hblank
        next hfind =>
          have hactions : ∀ s ∈ p.steps, s.action ≠ "" := by
            intro s hs hblank
            exact List.find?_eq_none.1 hfind s hs (beq_iff_eq.2 hblank)
          split
          next e herror => exact iff_of_false (by simp) fun h => by simp [herror] at h
          next hclosed =>
            constructor
            · exact fun hcycles => ⟨hne, hids, hok, hactions, hclosed, hcycles⟩
            · exact fun h => h.2.2.2.2.2

/-- A plan is valid exactly if it has steps, each with an id of its own and an action, that can be
ordered.  A run of steps that are in order starts each of them behind its dependencies. -/
theorem validate_eq_ok_iff_can_be_ordered (p : Plan) :
    (p.validate = .ok () ↔ p.steps ≠ [] ∧ (∀ s ∈ p.steps, s.id ≠ "" ∧ s.action ≠ "") ∧
      (ids p.steps).Nodup ∧ ∃ sorted : List Step, sorted.Perm p.steps ∧ Ordered sorted) ∧
    (Ordered p.steps → ∀ {σ : Type} (b : Backend σ) o table state c,
      Reached b o p.steps table state c → ∀ s rest, c.waiting = s :: rest →
        ∀ d ∈ s.dependsOn, d ∈ ids c.started) := by
  constructor
  · rw [validate_eq_ok_iff_checks, checkIds_eq_ok_iff, checkDependencies_eq_ok_iff]
    constructor
    · rintro ⟨hne, hids, hnodup, hactions, hclosed, hcycles⟩
      have hacyclic := (checkCycles_eq_ok_iff hnodup hclosed).1 hcycles
      exact ⟨hne, fun s hs => ⟨hids s hs, hactions s hs⟩, hnodup,
        (exists_ordered_iff hnodup).2 ⟨hclosed, hacyclic⟩⟩
    · rintro ⟨hne, hnamed, hnodup, hexists⟩
      obtain ⟨hclosed, hacyclic⟩ := (exists_ordered_iff hnodup).1 hexists
      exact ⟨hne, fun s hs => (hnamed s hs).1, hnodup, fun s hs => (hnamed s hs).2, hclosed,
        (checkCycles_eq_ok_iff hnodup hclosed).2 hacyclic⟩
  · intro hordered σ b o table state c hreached s rest hwaiting d hd
    obtain ⟨before, hsplit, htasks⟩ := hreached.split hwaiting
    rw [← ids_eq_of_tasks_eq htasks]
    exact hordered before s rest hsplit d hd

/-- A step that stands behind the one whose output it takes. -/
def placed : Plan := ⟨"site", "repository", [draftStep, publishStep.withSources]⟩

theorem validate_eq_ok_iff_can_be_ordered_placed :
    placed.validate = .ok () ∧ Ordered placed.steps ∧
    ∀ c, Reached rendering .default placed.steps [] () c → ∀ s rest, c.waiting = s :: rest →
      ∀ d ∈ s.dependsOn, d ∈ ids c.started := by
  obtain ⟨hvalid, hruns⟩ := validate_eq_ok_iff_can_be_ordered placed
  have hordered : Ordered placed.steps :=
    (perm_and_inOrder_of_sorted sort_publishStep_draftStep).2.ordered
  refine ⟨hvalid.2 ⟨List.cons_ne_nil _ _, by decide, by decide, ?_⟩, hordered, ?_⟩
  · exact ⟨placed.steps, .refl _, hordered⟩
  · exact hruns hordered rendering .default [] ()

/-- A step that stands before the one whose output it takes. -/
def misplaced : Plan := ⟨"site", "repository", [publishStep.withSources, draftStep]⟩

/-- A valid plan that is not ordered: its run starts a step before the one that it depends on, and
fails. -/
theorem validate_misplaced :
    misplaced.validate = .ok () ∧ ¬ Ordered misplaced.steps ∧
    (run rendering .default misplaced.steps [] ()).result =
      .error (.reference (.step "draft") "publish") ∧
    (run rendering .default misplaced.steps [] ()).steps.map (·.status) = [.failure, .pending] := by
  refine ⟨by cbv, ?_, rfl, rfl⟩
  intro hordered
  cases hordered [] publishStep.withSources [draftStep] rfl "draft" (by decide)

end Plan

end Remediation
