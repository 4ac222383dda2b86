import Remediation.Proofs.Building.Missing
import Remediation.Proofs.Expansion.Handover
import Remediation.Proofs.Schedule.Stable
import Remediation.Proofs.Work
/-!
# Plans that are built

Only rules with an id and an action become steps, and the steps are put in order before they are made
a plan.  A plan that is built is therefore empty, or it is valid and in order (`build_sound`).
-/

set_option autoImplicit false

namespace Remediation

namespace Plan

open Schedule

/-- A plan is valid, its steps are told apart by their ids and have actions, and each of them stands
behind all that it requires; nothing is left to be put in order. -/
structure Sound (p : Plan) : Prop where
  valid : p.validate = .ok ()
  named : ∀ s ∈ p.steps, s.id ≠ "" ∧ s.action ≠ ""
  nodup : (ids p.steps).Nodup
  ordered : InOrder p.steps
  sorted : sort p.steps = ⟨p.steps, .ok p.steps⟩

/-- Steps with ids and actions that have been put in order are a plan that is sound. -/
theorem sound_of_sorted {p : Plan} {steps : List Step} (hsorted : (sort steps).sorted = .ok p.steps)
    (hnamed : ∀ s ∈ steps, s.id ≠ "" ∧ s.action ≠ "") (hne : p.steps ≠ []) : p.Sound := by
  obtain ⟨hperm, horder⟩ := perm_and_inOrder_of_sorted hsorted
  have hnodup : (ids p.steps).Nodup := nodup_ids_of_sorted hsorted
  have hnamed' : ∀ s ∈ p.steps, s.id ≠ "" ∧ s.action ≠ "" := by
    intro s hs
    obtain ⟨t, ht, rfl⟩ := List.mem_map.1 (hperm.mem_iff.1 hs)
    exact hnamed t ht
  obtain ⟨hclosed, hacyclic⟩ := (exists_ordered_iff hnodup).1 ⟨p.steps, .refl _, horder.ordered⟩
  refine ⟨(validate_eq_ok_iff_checks p).2 ?_, hnamed', hnodup, horder, sort_sorted hsorted⟩
  exact ⟨hne, fun s hs => (hnamed' s hs).1, checkIds_eq_ok_iff.2 hnodup,
    fun s hs => (hnamed' s hs).2, checkDependencies_eq_ok_iff.2 hclosed,
    (checkCycles_eq_ok_iff hnodup hclosed).2 hacyclic⟩

end Plan

namespace Building

open Expansion (Scope)

variable {setting : Expansion.Setting} {rules : List Rule} {plan : Plan} {s later : Session}

/-- The steps of a plan are those that the rules become, put in order. -/
theorem sorted_of_compile (h : compile setting rules = .ok plan) :
    ∃ steps, Expansion.run setting rules = .ok steps ∧
      (Schedule.sort steps).sorted = .ok plan.steps := by
  unfold compile at h
  obtain ⟨steps, hrun, h⟩ := exists_of_bind_eq_ok h
  obtain ⟨sorted, hsorted, h⟩ := exists_of_bind_eq_ok h
  obtain ⟨project, -, h⟩ := exists_of_bind_eq_ok h
  obtain ⟨repository, -, h⟩ := exists_of_bind_eq_ok h
  obtain rfl := Except.ok.inj h
  exact ⟨steps, hrun, hsorted⟩

/-- A plan that rules give is empty or sound. -/
theorem sound_of_compile (h : compile setting rules = .ok plan) :
    plan.steps = [] ∨ plan.Sound := by
  obtain ⟨steps, hrun, hsorted⟩ := sorted_of_compile h
  obtain ⟨last, hexpand⟩ := Expansion.run_eq_iff.1 hrun
  by_cases hempty : plan.steps = []
  · exact Or.inl hempty
  · exact Or.inr (Plan.sound_of_sorted hsorted
      (Expansion.named_of_expand hexpand) hempty)

/-- A plan that is built is one that rules give. -/
theorem compile_of_build {catalogue : Option Action.Catalogue} {path : String} {report : Facts}
    {o : BuildOptions} (h : (build catalogue path report o).run.run s = (.ok plan, later)) :
    ∃ setting rules, compile setting rules = .ok plan := by
  unfold build at h
  split at h
  next c =>
    obtain ⟨w, start, -, h⟩ := Work.exists_of_run_bind_eq_ok h
    obtain ⟨rules, loaded, -, h⟩ := Work.exists_of_run_bind_eq_ok h
    obtain ⟨facts, told, -, h⟩ := Work.exists_of_run_bind_eq_ok h
    exact ⟨setting w c (ruleDirectory path o) rules facts, rules, congrArg Prod.fst h⟩
  next => cases h

/-- A plan that rules give against any facts, definitions of actions and rule files is empty or sound,
and so is every plan that is built of a rule file. -/
theorem build_sound :
    (∀ setting rules plan, compile setting rules = .ok plan → plan.steps = [] ∨ plan.Sound) ∧
    ∀ catalogue path report o s plan later,
      (build catalogue path report o).run.run s = (.ok plan, later) →
        plan.steps = [] ∨ plan.Sound := by
  refine ⟨fun setting rules plan => sound_of_compile, ?_⟩
  intro catalogue path report o s plan later h
  obtain ⟨setting, rules, hcompile⟩ := compile_of_build h
  exact sound_of_compile hcompile

/-! ## A plan of two steps, and one that is built of a file -/

/-- A file that is written and then staged. -/
def stagingPlan : Plan :=
  ⟨Plan.unknownProject, Plan.unknownRepository,
    (Expansion.stagingSteps "policy").map Step.withSources⟩

theorem compile_stagingRules :
    compile Expansion.bareSetting (Expansion.stagingRules "policy") = .ok stagingPlan := by
  have hrun : Expansion.run Expansion.bareSetting (Expansion.stagingRules "policy") =
      .ok (Expansion.stagingSteps "policy") := by cbv
  have hsort : (Schedule.sort (Expansion.stagingSteps "policy")).sorted =
      .ok stagingPlan.steps := by cbv
  rw [compile, hrun]
  simp only [bind, Except.bind, hsort]
  rfl

/-- Nobody is asked. -/
def silentOptions : BuildOptions := { askingOptions with silent := true }

/-- The plan that grants a role to a team. -/
def grantPlan : Plan :=
  ⟨Plan.unknownProject, Plan.unknownRepository,
    [⟨"grant", "grant", [("as", .text "admin")], "", [], none, [], .pending, none⟩]⟩

theorem build_grantRules :
    (build (some grantCatalogue) "team.json" [(.text "role", .text "admin")] silentOptions).run.run
      teamSession = (.ok grantPlan, teamSession) := by
  have hpath : Path.parse "team.json" = ⟨"", ["team.json"]⟩ := by cbv
  have hrules : rulesIn teamSession.workspace "team.json" = .ok grantRules := by
    have hworkspace : teamSession.workspace = teamWorkspace := rfl
    rw [rulesIn, hworkspace, hpath, load_team]
    rfl
  have hfacts : (factsFor grantRules [(.text "role", .text "admin")] silentOptions).run.run
      teamSession = (.ok [(.text "role", .text "admin")], teamSession) := rfl
  have hcompile (w : Workspace) (library : Option Library) :
      compile ⟨[(.text "role", .text "admin")], grantCatalogue.definition w, library⟩ grantRules =
        .ok grantPlan := by cbv
  rw [build_run hrules hfacts]
  exact congrArg (Prod.mk · teamSession) (hcompile _ _)

theorem build_sound_staging_and_grant :
    compile Expansion.bareSetting (Expansion.stagingRules "policy") = .ok stagingPlan ∧
    stagingPlan.Sound ∧
    (build (some grantCatalogue) "team.json" [(.text "role", .text "admin")] silentOptions).run.run
      teamSession = (.ok grantPlan, teamSession) ∧
    grantPlan.Sound := by
  obtain ⟨hcompiled, hbuilt⟩ := build_sound
  refine ⟨compile_stagingRules, ?_, build_grantRules, ?_⟩
  · exact (hcompiled _ _ _ compile_stagingRules).resolve_left (List.cons_ne_nil _ _)
  · exact (hbuilt _ _ _ _ _ _ _ build_grantRules).resolve_left (List.cons_ne_nil _ _)

end Building

end Remediation
