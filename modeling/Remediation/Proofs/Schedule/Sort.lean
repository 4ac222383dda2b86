import Mathlib.Data.List.Permutation
import Remediation.Proofs.Schedule.Sources
import Remediation.Proofs.Web.Order
/-!
# Putting steps in order

Steps can be put in order exactly if no id stands twice, every required step is there, and no chain
of requirements comes back to where it starts.  The order is one of the steps themselves, each behind
all that it requires; a refusal names the first of these reasons that applies (`Refusal`).

Before steps are put in order, the steps whose outputs a step takes are added to its dependencies.
Nothing else becomes of the steps, whether they can be put in order or not; steps of which two have the
same id are not touched at all (`sort_adds_sources`).

A step that another one requires has an earlier place in every schedule (`place_lt_of_requires`), and
a step of an earlier place stands before one of a later place (`precedes_of_place_lt`).
-/

set_option autoImplicit false

namespace Remediation.Schedule

open Relation

variable {steps : List Step}

/-- A step of the list requires another one. -/
def Depends (steps : List Step) (a b : String) : Prop := ∃ s ∈ steps, s.id = a ∧ s.Requires b

/-- A step of the list names another one as its dependency. -/
def Names (steps : List Step) (a b : String) : Prop := ∃ s ∈ steps, s.id = a ∧ b ∈ s.dependsOn

/-- Every step stands behind all that it requires. -/
def InOrder (steps : List Step) : Prop :=
  ∀ before s behind, steps = before ++ s :: behind → ∀ d, s.Requires d → d ∈ ids before

/-- Why steps cannot be put in order.  An id that stands twice is refused before a required step that
is absent, and that before a cycle of steps that require each other. -/
inductive Refusal (steps : List Step) : Fault → Prop where
  | repeated {id : String} : 2 ≤ (ids steps).count id → Refusal steps (.duplicateStep id)
  | absent {s : Step} {d : String} : (ids steps).Nodup → s ∈ steps → s.Requires d →
      d ∉ ids steps → Refusal steps (.missingDependency s.id d)
  | circular {v : String} {vs : List String} : (ids steps).Nodup →
      (∀ s ∈ steps, ∀ d, s.Requires d → d ∈ ids steps) → (v :: vs).Nodup →
      (v :: vs ++ [v]).IsChain (Depends steps) →
      Refusal steps (.circularDependency (v :: vs ++ [v]))

/-! ## Ids that stand twice -/

theorem repeatedId?_eq_none_iff {before found : List String} :
    repeatedId? before found = none ↔ found.Nodup ∧ ∀ id ∈ found, id ∉ before := by
  induction found generalizing before with
  | nil => simp [repeatedId?]
  | cons id rest ih =>
    unfold repeatedId?
    split
    next hid => simp [hid]
    next hid =>
      rw [ih, List.nodup_cons]
      grind

/-- An id that is found to stand twice stands twice. -/
theorem two_le_count_of_repeatedId? {before found : List String} {id : String}
    (h : repeatedId? before found = some id) : 1 ≤ found.count id ∧
      2 ≤ before.count id + found.count id := by
  induction found generalizing before with
  | nil => simp [repeatedId?] at h
  | cons first rest ih =>
    unfold repeatedId? at h
    split at h
    next hfirst =>
      obtain rfl : first = id := by simpa using h
      have hbefore : 0 < before.count first := List.count_pos_iff.2 hfirst
      rw [List.count_cons_self]
      omega
    next =>
      obtain ⟨hone, htwo⟩ := ih h
      rw [List.count_cons] at htwo ⊢
      omega

theorem checkIds_eq_ok_iff : checkIds steps = .ok () ↔ (ids steps).Nodup := by
  unfold checkIds
  cases hrepeated : repeatedId? [] (ids steps) with
  | none => exact iff_of_true rfl (repeatedId?_eq_none_iff.1 hrepeated).1
  | some id =>
    have htwice := (two_le_count_of_repeatedId? hrepeated).2
    refine iff_of_false (by simp) fun hnodup => ?_
    have hone := List.nodup_iff_count_le_one.1 hnodup id
    rw [List.count_nil] at htwice
    omega

/-- Of different ids the first one is not that of a later step. -/
theorem id_ne_of_mem_tail {first s : Step} {rest : List Step}
    (h : (ids (first :: rest)).Nodup) (hs : s ∈ rest) : first.id ≠ s.id := by
  have hfirst : first.id ∉ ids rest := (List.nodup_cons.1 h).1
  intro he
  exact hfirst (he ▸ List.mem_map_of_mem hs)

/-! ## Steps as vertices of a web -/

@[simp] theorem vertices_web (steps : List Step) : (web steps).vertices = ids steps := by
  simp [web, Web.vertices, ids]

theorem lookupField_web (h : (ids steps).Nodup) {s : Step} (hs : s ∈ steps) :
    lookupField (web steps) s.id = some s.dependsOn := by
  induction steps with
  | nil => simp at hs
  | cons first rest ih =>
    have hrest : (ids rest).Nodup := (List.nodup_cons.1 h).2
    rcases List.mem_cons.1 hs with rfl | hs
    · simp [web, lookupField]
    · have hne : first.id ≠ s.id := id_ne_of_mem_tail h hs
      simpa [web, lookupField, hne] using ih hrest hs

/-- What a vertex needs is what its step names. -/
theorem needs_web (h : (ids steps).Nodup) {s : Step} (hs : s ∈ steps) :
    (web steps).needs s.id = s.dependsOn := by
  rw [Web.needs, lookupField_web h hs, Option.getD_some]

theorem edge_web_iff (h : (ids steps).Nodup) {a b : String} :
    (web steps).Edge a b ↔ Names steps a b ∧ b ∈ ids steps := by
  unfold Web.Edge Names
  rw [vertices_web]
  constructor
  · rintro ⟨ha, hb, hneeds⟩
    obtain ⟨s, hs, rfl⟩ := List.mem_map.1 ha
    exact ⟨⟨s, hs, rfl, needs_web h hs ▸ hneeds⟩, hb⟩
  · rintro ⟨⟨s, hs, rfl, hnamed⟩, hb⟩
    exact ⟨List.mem_map_of_mem hs, hb, (needs_web h hs).symm ▸ hnamed⟩

/-! ## Steps by their ids -/

theorem step?_eq_some (h : (ids steps).Nodup) {s : Step} (hs : s ∈ steps) :
    step? steps s.id = some s := by
  induction steps with
  | nil => simp at hs
  | cons first rest ih =>
    have hrest : (ids rest).Nodup := (List.nodup_cons.1 h).2
    unfold step?
    rcases List.mem_cons.1 hs with rfl | hs
    · simp
    · have hne : first.id ≠ s.id := id_ne_of_mem_tail h hs
      rw [List.find?_cons_of_neg (by simpa using hne)]
      exact ih hrest hs

/-- The steps of ids have these ids. -/
theorem ids_filterMap_step? (h : (ids steps).Nodup) {order : List String}
    (hsub : order ⊆ ids steps) : ids (order.filterMap (step? steps)) = order := by
  induction order with
  | nil => rfl
  | cons id rest ih =>
    obtain ⟨s, hs, rfl⟩ := List.mem_map.1 (hsub List.mem_cons_self)
    have hrest := ih fun x hx => hsub (List.mem_cons_of_mem _ hx)
    rw [List.filterMap_cons_some (step?_eq_some h hs)]
    exact congrArg (s.id :: ·) hrest

theorem filterMap_step?_ids (h : (ids steps).Nodup) :
    (ids steps).filterMap (step? steps) = steps := by
  have heq : (ids steps).filterMap (step? steps) = steps.filterMap some := by
    rw [ids, List.filterMap_map]
    exact List.filterMap_congr fun s hs => step?_eq_some h hs
  rw [heq, List.filterMap_some]

/-- The steps of all ids are all steps. -/
theorem filterMap_step?_perm (h : (ids steps).Nodup) {order : List String} (hnodup : order.Nodup)
    (hall : ∀ v, v ∈ order ↔ v ∈ ids steps) : (order.filterMap (step? steps)).Perm steps := by
  have hperm : order.Perm (ids steps) := (List.perm_ext_iff_of_nodup hnodup h).2 hall
  have hsteps := hperm.filterMap (step? steps)
  rwa [filterMap_step?_ids h] at hsteps

/-! ## Arranging steps whose ids are different -/

/-- Every dependency that a step names is there. -/
def Closed (steps : List Step) : Prop := ∀ s ∈ steps, ∀ d ∈ s.dependsOn, d ∈ ids steps

/-- Dependencies are let through exactly if all of them are there, and otherwise one that is absent
is named with its step. -/
theorem checkDependencies_cases (steps : List Step) :
    (Closed steps ∧ checkDependencies steps = .ok ()) ∨
    ∃ s ∈ steps, ∃ d ∈ s.dependsOn, d ∉ ids steps ∧
      checkDependencies steps = .error (.missingDependency s.id d) := by
  unfold checkDependencies
  split
  next e he =>
    obtain ⟨s, hs, habsent⟩ := List.exists_of_findSome?_eq_some he
    obtain ⟨d, hd, rfl⟩ := Option.map_eq_some_iff.1 habsent
    have hnot : d ∉ ids steps := by simpa using List.find?_some hd
    exact Or.inr ⟨s, hs, d, List.mem_of_find?_eq_some hd, hnot, rfl⟩
  next hnone =>
    refine Or.inl ⟨?_, rfl⟩
    intro s hs d hd
    have habsent := List.findSome?_eq_none_iff.1 hnone s hs
    have hfind := List.find?_eq_none.1 (Option.map_eq_none_iff.1 habsent) d hd
    simpa using hfind

/-- Where every dependency is there, steps name each other as their vertices need each other. -/
theorem edge_web_iff_names (h : (ids steps).Nodup) (hclosed : Closed steps) {a b : String} :
    (web steps).Edge a b ↔ Names steps a b := by
  rw [edge_web_iff h]
  refine and_iff_left_of_imp ?_
  rintro ⟨s, hs, -, hnamed⟩
  exact hclosed s hs b hnamed

/-- Steps in the order of their vertices stand behind those that they name. -/
theorem mem_ids_before {order : List String} {before behind : List Step} {s : Step} {d : String}
    (h : (ids steps).Nodup) (hclosed : Closed steps) (hsettled : (web steps).Settled order)
    (hids : ids (before ++ s :: behind) = order) (hs : s ∈ steps) (hd : d ∈ s.dependsOn) :
    d ∈ ids before := by
  have hsplit : ids before ++ s.id :: ids behind = order := by
    rw [← hids]
    simp [ids]
  have hedge : (web steps).Edge s.id d :=
    (edge_web_iff_names h hclosed).2 ⟨s, hs, rfl, hd⟩
  exact (hsplit ▸ hsettled).mem_before hedge

/-- Steps of different ids are arranged, a dependency is absent, or they name each other in a
cycle. -/
theorem arrange_cases (h : (ids steps).Nodup) :
    (∃ s ∈ steps, ∃ d ∈ s.dependsOn, d ∉ ids steps ∧
      arrange steps = .error (.missingDependency s.id d)) ∨
    (Closed steps ∧ ∃ v vs, (v :: vs).Nodup ∧ (v :: vs ++ [v]).IsChain (Names steps) ∧
      arrange steps = .error (.circularDependency (v :: vs ++ [v]))) ∨
    (Closed steps ∧ Acyclic (Names steps) ∧ ∃ sorted, arrange steps = .ok sorted ∧
      sorted.Perm steps ∧ ∀ before s behind, sorted = before ++ s :: behind →
        ∀ d ∈ s.dependsOn, d ∈ ids before) := by
  unfold arrange
  rcases checkDependencies_cases steps with ⟨hclosed, hcheck⟩ | ⟨s, hs, d, hd, hnot, hcheck⟩
  · have hedge : ∀ a b, (web steps).Edge a b ↔ Names steps a b := fun a b =>
      edge_web_iff_names h hclosed
    rw [hcheck]
    rcases Web.cycle_cases (web steps) with ⟨hnone, -⟩ | hcycle
    · obtain ⟨hsettled, hall⟩ := Web.settled_order hnone
      have hacyclic : Acyclic (Names steps) :=
        (hsettled.acyclic hall).mono fun a b => (hedge a b).2
      rw [checkCycles, hnone]
      rw [vertices_web] at hall
      have hperm := filterMap_step?_perm h hsettled.nodup hall
      have hids := ids_filterMap_step? h fun v hv => (hall v).1 hv
      refine Or.inr (Or.inr ⟨hclosed, hacyclic, _, rfl, hperm, ?_⟩)
      intro before s behind hsplit d hd
      have hs : s ∈ steps := hperm.subset (hsplit ▸ by simp)
      exact mem_ids_before h hclosed hsettled (hsplit ▸ hids) hs hd
    · obtain ⟨v, vs, hfound, hnodup, hwalk⟩ := hcycle
      rw [hfound] at hwalk
      rw [checkCycles, hfound]
      exact Or.inr (Or.inl ⟨hclosed, v, vs, hnodup, hwalk.imp fun a b => (hedge a b).1, rfl⟩)
  · rw [hcheck]
    exact Or.inl ⟨s, hs, d, hd, hnot, rfl⟩

/-! ## Sorting -/

@[simp] theorem ids_map_withSources (steps : List Step) :
    ids (steps.map Step.withSources) = ids steps := by
  simp [ids, Function.comp_def]

theorem names_map_withSources {a b : String} :
    Names (steps.map Step.withSources) a b ↔ Depends steps a b := by
  simp [Names, Depends, Step.mem_dependsOn_withSources]

theorem closed_map_withSources :
    Closed (steps.map Step.withSources) ↔ ∀ s ∈ steps, ∀ d, s.Requires d → d ∈ ids steps := by
  simp [Closed, Step.mem_dependsOn_withSources]

/-- Steps with their sources that stand behind what they name stand behind what they require. -/
theorem inOrder_of_map_withSources {sorted : List Step}
    (hperm : sorted.Perm (steps.map Step.withSources))
    (h : ∀ before s behind, sorted = before ++ s :: behind → ∀ d ∈ s.dependsOn, d ∈ ids before) :
    InOrder sorted := by
  intro before t behind hsplit d hd
  have ht : t ∈ steps.map Step.withSources := hperm.subset (hsplit ▸ by simp)
  obtain ⟨s, -, rfl⟩ := List.mem_map.1 ht
  refine h before _ behind hsplit d ?_
  exact Step.mem_dependsOn_withSources.2 (Step.requires_withSources.1 hd)

/-- Steps of different ids are arranged once their sources have been added. -/
theorem sort_of_nodup (h : (ids steps).Nodup) :
    sort steps = ⟨steps.map Step.withSources, arrange (steps.map Step.withSources)⟩ := by
  rw [sort, checkIds_eq_ok_iff.2 h]

/-- Steps of which two have the same id are left as they are. -/
theorem settled_of_not_nodup (h : ¬ (ids steps).Nodup) : (sort steps).settled = steps := by
  unfold sort
  split
  next => rfl
  next hids => exact absurd (checkIds_eq_ok_iff.1 hids) h

/-- Steps are refused, or they are sorted with their sources added. -/
theorem sort_cases (steps : List Step) :
    (∃ e, (sort steps).sorted = .error e ∧ Refusal steps e) ∨
    ((ids steps).Nodup ∧ (∀ s ∈ steps, ∀ d, s.Requires d → d ∈ ids steps) ∧
      Acyclic (Depends steps) ∧ ∃ sorted, (sort steps).sorted = .ok sorted ∧
        sorted.Perm (steps.map Step.withSources) ∧ InOrder sorted) := by
  unfold sort checkIds
  cases hrepeated : repeatedId? [] (ids steps) with
  | some id =>
    have hcount := (two_le_count_of_repeatedId? hrepeated).2
    exact Or.inl ⟨_, rfl, .repeated (by simpa using hcount)⟩
  | none =>
    have hnodup : (ids steps).Nodup := (repeatedId?_eq_none_iff.1 hrepeated).1
    have hsettled : (ids (steps.map Step.withSources)).Nodup := by
      rwa [ids_map_withSources]
    rcases arrange_cases hsettled with ⟨t, ht, d, hd, hnot, harrange⟩ |
        ⟨hclosed, v, vs, hcycle, hwalk, harrange⟩ |
        ⟨hclosed, hacyclic, sorted, harrange, hperm, hbefore⟩
    · obtain ⟨s, hs, rfl⟩ := List.mem_map.1 ht
      rw [ids_map_withSources] at hnot
      have hrefusal : Refusal steps (.missingDependency s.id d) :=
        Refusal.absent hnodup hs (Step.mem_dependsOn_withSources.1 hd) hnot
      exact Or.inl ⟨_, harrange, hrefusal⟩
    · exact Or.inl ⟨_, harrange, .circular hnodup (closed_map_withSources.1 hclosed) hcycle
        (hwalk.imp fun a b => names_map_withSources.1)⟩
    · exact Or.inr ⟨hnodup, closed_map_withSources.1 hclosed,
        hacyclic.mono fun a b => names_map_withSources.2, sorted, harrange, hperm,
        inOrder_of_map_withSources hperm hbefore⟩

/-- Each reason to refuse steps is one for which they cannot be put in order. -/
theorem Refusal.not_sortable {e : Fault} (h : Refusal steps e) :
    ¬ ((ids steps).Nodup ∧ (∀ s ∈ steps, ∀ d, s.Requires d → d ∈ ids steps) ∧
      Acyclic (Depends steps)) := by
  rintro ⟨hnodup, hclosed, hacyclic⟩
  cases h with
  | repeated hcount =>
    have hone := List.nodup_iff_count_le_one.1 hnodup
    exact absurd hcount (Nat.not_le_of_lt (Nat.lt_succ_of_le (hone _)))
  | absent _ hs hd hnot => exact hnot (hclosed _ hs _ hd)
  | circular _ _ _ hwalk => exact hacyclic _ (transGen_of_isChain hwalk)

/-- Steps of different ids that require only each other, and not in a circle, are sorted. -/
theorem exists_sorted (hnodup : (ids steps).Nodup)
    (hclosed : ∀ s ∈ steps, ∀ d, s.Requires d → d ∈ ids steps)
    (hacyclic : Acyclic (Depends steps)) : ∃ sorted, (sort steps).sorted = .ok sorted := by
  rcases sort_cases steps with ⟨e, -, hrefusal⟩ | ⟨-, -, -, sorted, hsorted, -, -⟩
  · exact absurd ⟨hnodup, hclosed, hacyclic⟩ hrefusal.not_sortable
  · exact ⟨sorted, hsorted⟩

/-- Steps that are sorted have different ids and require only each other, not in a circle. -/
theorem sortable_of_sorted {sorted : List Step} (h : (sort steps).sorted = .ok sorted) :
    (ids steps).Nodup ∧ (∀ s ∈ steps, ∀ d, s.Requires d → d ∈ ids steps) ∧
      Acyclic (Depends steps) := by
  rcases sort_cases steps with ⟨e, herror, -⟩ | ⟨hnodup, hclosed, hacyclic, -⟩
  · cases h.symm.trans herror
  · exact ⟨hnodup, hclosed, hacyclic⟩

/-- What is sorted is all steps with their sources, each behind what it requires. -/
theorem perm_and_inOrder_of_sorted {sorted : List Step} (h : (sort steps).sorted = .ok sorted) :
    sorted.Perm (steps.map Step.withSources) ∧ InOrder sorted := by
  rcases sort_cases steps with ⟨e, herror, -⟩ | ⟨-, -, -, found, hfound, hperm, horder⟩
  · rw [h] at herror
    cases herror
  · obtain rfl : sorted = found := by
      rw [h] at hfound
      exact Except.ok.inj hfound
    exact ⟨hperm, horder⟩

/-- Sorting succeeds exactly if the ids are different, all required steps are there and no
requirements form a cycle.  It gives all steps, with their sources added, each behind what it requires,
or it names the first reason against that. -/
theorem sorted_iff_and_perm_inOrder_or_refusal (steps : List Step) :
    ((∃ sorted, (sort steps).sorted = .ok sorted) ↔
      (ids steps).Nodup ∧ (∀ s ∈ steps, ∀ d, s.Requires d → d ∈ ids steps) ∧
        Acyclic (Depends steps)) ∧
    (∀ sorted, (sort steps).sorted = .ok sorted →
      sorted.Perm (steps.map Step.withSources) ∧ InOrder sorted) ∧
    ∀ e, (sort steps).sorted = .error e → Refusal steps e := by
  refine ⟨⟨?_, fun h => exists_sorted h.1 h.2.1 h.2.2⟩, fun sorted => perm_and_inOrder_of_sorted, ?_⟩
  · rintro ⟨sorted, hsorted⟩
    rcases sort_cases steps with ⟨e, herror, -⟩ | ⟨hnodup, hclosed, hacyclic, -⟩
    · rw [hsorted] at herror
      cases herror
    · exact ⟨hnodup, hclosed, hacyclic⟩
  · intro e he
    rcases sort_cases steps with ⟨e', herror, hrefusal⟩ | ⟨-, -, -, sorted, hsorted, -⟩
    · obtain rfl : e = e' := by
        rw [he] at herror
        exact Except.error.inj herror
      exact hrefusal
    · rw [he] at hsorted
      cases hsorted

/-! ## What sorting leaves of the steps -/

/-- Sorting adds to the dependencies of each step the steps whose outputs it takes, and touches nothing
else; so it does whether the steps can be put in order, and then it gives these steps, or not.  There is
nothing to be added a second time.  If two steps have the same id, no step is touched. -/
theorem sort_adds_sources (steps : List Step) :
    (¬ (ids steps).Nodup → (sort steps).settled = steps) ∧
    ((ids steps).Nodup →
      List.Forall₂ Step.Sourced steps (sort steps).settled ∧
      (sort steps).settled.map Step.withSources = (sort steps).settled) ∧
    ∀ sorted, (sort steps).sorted = .ok sorted → sorted.Perm (sort steps).settled := by
  refine ⟨settled_of_not_nodup, ?_, ?_⟩
  · intro hnodup
    rw [sort_of_nodup hnodup]
    refine ⟨List.forall₂_map_right_iff.2 (List.forall₂_same.2 fun s _ => s.sourced_withSources), ?_⟩
    simp
  · intro sorted hsorted
    have hperm := (perm_and_inOrder_of_sorted hsorted).1
    rwa [sort_of_nodup (sortable_of_sorted hsorted).1]

/-- A step that names one step and takes outputs of it, of two others, of itself and of no step. -/
def releaseStep : Step :=
  ⟨"release", "publish", [], "", ["lint"], none,
    [("log", "lint.report"), ("file", "build.path"), ("own", "release.page"), ("size", "build.file.size"),
      ("bare", "tag"), ("lost", ".page"), ("mark", "tag.name")], .pending, none⟩

/-- A step that depends on nothing. -/
def plainStep (id : String) : Step := ⟨id, "make", [], "", [], none, [], .pending, none⟩

/-- The two others are added, though the step that is named is missing; if all are there, they are put
in order.  A step that stands twice is left as it is. -/
theorem sort_adds_sources_release :
    (ids [releaseStep]).Nodup ∧
    (sort [releaseStep]).sorted = .error (.missingDependency "release" "lint") ∧
    List.Forall₂ Step.Sourced [releaseStep]
      [{ releaseStep with dependsOn := ["lint", "build", "tag"] }] ∧
    (sort [releaseStep]).settled.map Step.withSources = (sort [releaseStep]).settled ∧
    (sort [releaseStep, plainStep "build", plainStep "lint", plainStep "tag"]).sorted =
      .ok [plainStep "lint", plainStep "build", plainStep "tag", releaseStep.withSources] ∧
    [plainStep "lint", plainStep "build", plainStep "tag", releaseStep.withSources].Perm
      (sort [releaseStep, plainStep "build", plainStep "lint", plainStep "tag"]).settled ∧
    ¬ (ids [releaseStep, releaseStep]).Nodup ∧
    (sort [releaseStep, releaseStep]).settled = [releaseStep, releaseStep] := by
  have hnodup : (ids [releaseStep]).Nodup := by decide
  have htwice : ¬ (ids [releaseStep, releaseStep]).Nodup := by decide
  have hrefused : (sort [releaseStep]).sorted = .error (.missingDependency "release" "lint") := by cbv
  have hsettled : (sort [releaseStep]).settled =
      [{ releaseStep with dependsOn := ["lint", "build", "tag"] }] := by cbv
  have hsorted : (sort [releaseStep, plainStep "build", plainStep "lint", plainStep "tag"]).sorted =
      .ok [plainStep "lint", plainStep "build", plainStep "tag", releaseStep.withSources] := by cbv
  obtain ⟨hadded, hagain⟩ := (sort_adds_sources [releaseStep]).2.1 hnodup
  rw [hsettled] at hadded
  exact ⟨hnodup, hrefused, hadded, hagain, hsorted, (sort_adds_sources _).2.2 _ hsorted, htwice,
    (sort_adds_sources _).1 htwice⟩

/-! ## Places in a schedule -/

variable {sorted : List Step}

/-- A step stands before another one. -/
def Precedes (steps : List Step) (a b : Step) : Prop :=
  ∃ before between behind, steps = before ++ a :: between ++ b :: behind

/-- The place of a step in a schedule, by its id. -/
def place (sorted : List Step) (id : String) : Nat := (ids sorted).idxOf id

theorem ids_perm_of_sorted (h : (sort steps).sorted = .ok sorted) :
    (ids sorted).Perm (ids steps) := by
  have hmap := (perm_and_inOrder_of_sorted h).1.map (·.id)
  rwa [← ids, ← ids, ids_map_withSources] at hmap

theorem nodup_ids_of_sorted (h : (sort steps).sorted = .ok sorted) : (ids sorted).Nodup :=
  (ids_perm_of_sorted h).nodup_iff.2 (sortable_of_sorted h).1

/-- Each step is scheduled behind the steps that it requires. -/
theorem place_lt_of_requires (h : (sort steps).sorted = .ok sorted) {s : Step} (hs : s ∈ steps)
    {d : String} (hd : s.Requires d) : place sorted d < place sorted s.id := by
  obtain ⟨hperm, horder⟩ := perm_and_inOrder_of_sorted h
  have hmem : s.withSources ∈ sorted := hperm.mem_iff.2 (List.mem_map_of_mem hs)
  obtain ⟨before, behind, rfl⟩ := List.append_of_mem hmem
  have hbefore : d ∈ ids before := horder before _ behind rfl d (Step.requires_withSources.2 hd)
  have hnodup := nodup_ids_of_sorted h
  have hids : ids (before ++ s.withSources :: behind) = ids before ++ s.id :: ids behind := by
    simp [ids]
  unfold place
  rw [hids] at hnodup ⊢
  exact idxOf_lt_idxOf_of_mem_before hnodup hbefore

theorem eq_of_id_eq (h : (ids steps).Nodup) {a b : Step} (ha : a ∈ steps) (hb : b ∈ steps)
    (hid : a.id = b.id) : a = b :=
  List.inj_on_of_nodup_map h ha hb hid

theorem precedes_of_place_lt (h : (ids sorted).Nodup) {a b : Step} (ha : a ∈ sorted)
    (hb : b ∈ sorted) (hlt : place sorted a.id < place sorted b.id) : Precedes sorted a b := by
  obtain ⟨early, behind, rfl⟩ := List.append_of_mem hb
  have hids : ids (early ++ b :: behind) = ids early ++ b.id :: ids behind := by
    simp [ids]
  have hearly : a.id ∈ ids early := by
    unfold place at hlt
    have hnodup := h
    rw [hids] at hlt hnodup
    exact mem_before_of_idxOf_lt_idxOf hnodup hlt
  obtain ⟨a', ha', hid⟩ := List.mem_map.1 hearly
  obtain rfl : a' = a := eq_of_id_eq h (List.mem_append_left _ ha') ha hid
  obtain ⟨before, between, rfl⟩ := List.append_of_mem ha'
  exact ⟨before, between, behind, by simp⟩

end Remediation.Schedule
