import Remediation.Proofs.Expansion.Collect
/-!
# Siblings that are told apart

The rules of a scope are told apart where no two rules within it have the same path id; a rule without
an id has none, and such rules may be many (`Scope.Distinct`).  Then the path id of a rule stands for
just the steps of that rule (`Family.endOf_of_emitted`), or, if it has none, for what its dependencies
stand for (`Family.endOf_of_silent`).  No id of a step stands for anything else
(`Family.ends_of_emitted`), so that dependencies between steps are never lost (`Family.mem_settled`).
-/

set_option autoImplicit false

namespace Remediation.Expansion

open Relation
open Schedule (ids)

variable {w : Setting} {sc : Scope} {yields : List Yield} {y y' : Yield}

/-- What a rule has become: nothing, what the scope below it has become, or one step. -/
theorem Became.cases {deps planned next : List String} {r : Rule} {steps : List Step}
    (h : Became w sc deps r planned steps next) :
    steps = [] ∨
    (∃ c planned next, sc.below? w r = some c ∧ c.expand w planned = (.ok steps, next)) ∨
    r.isComposite = false ∧ ∃ params, steps = [leafStep sc deps r params] := by
  cases h with
  | refused => exact Or.inl rfl
  | inside _ hbelow hexpand => exact Or.inr (Or.inl ⟨_, _, _, hbelow, hexpand⟩)
  | repeated => exact Or.inl rfl
  | leaf _ hleaf => exact Or.inr (Or.inr ⟨hleaf, _, rfl⟩)

/-- What a rule has become has ids and actions, if what the scope below it becomes has. -/
theorem Became.named {deps planned next : List String} {r : Rule} {steps : List Step}
    (h : Became w sc deps r planned steps next)
    (hbelow : ∀ c, sc.below? w r = some c → ∀ planned steps next,
      c.expand w planned = (.ok steps, next) → ∀ s ∈ steps, s.id ≠ "" ∧ s.action ≠ "") :
    ∀ s ∈ steps, s.id ≠ "" ∧ s.action ≠ "" := by
  cases h with
  | refused => exact List.forall_mem_nil _
  | inside _ hscope hexpand => exact hbelow _ hscope _ _ _ hexpand
  | repeated => exact List.forall_mem_nil _
  | leaf _ _ haction _ hid =>
    intro s hs
    obtain rfl := List.mem_singleton.1 hs
    exact ⟨hid, haction⟩

/-- Every step that a scope becomes has an id and an action. -/
theorem named_of_expand {planned last : List String} {steps : List Step}
    (h : sc.expand w planned = (.ok steps, last)) : ∀ t ∈ steps, t.id ≠ "" ∧ t.action ≠ "" := by
  induction sc using Scope.induction w generalizing planned last steps with
  | _ sc ih =>
    intro t ht
    obtain ⟨yields, hyields, rfl⟩ := Scope.expand_eq_ok_iff.1 h
    obtain ⟨y, hy, s, hs, rfl⟩ := mem_finish.1 ht
    obtain ⟨before, next, -, hbecame⟩ := hyields.became hy
    rw [settled_eq_with]
    refine hbecame.named ?_ s hs
    intro c hbelow planned steps next hexpand
    exact ih y.rule (hyields.rule_mem hy) c hbelow hexpand

/-! ## What rules stand for -/

/-- What a rule stands for. -/
def Yield.stands (y : Yield) : List String := if y.steps.isEmpty then y.deps else ids y.steps

theorem mem_stands {x : String} :
    x ∈ y.stands ↔ y.steps = [] ∧ x ∈ y.deps ∨ x ∈ ids y.steps := by
  unfold Yield.stands
  cases y.steps <;> simp [ids]

theorem stands_of_emitted {x : String} (hx : x ∈ ids y.steps) : y.stands = ids y.steps := by
  unfold Yield.stands
  cases hsteps : y.steps with
  | nil => simp [hsteps, ids] at hx
  | cons s rest => rfl

theorem stands_of_silent (h : y.steps = []) : y.stands = y.deps := by
  simp [Yield.stands, h]

theorem lookupField_add_self {id : String} (hid : id ≠ "") (p : Progress) (composite : Bool)
    (deps : List String) (steps : List Step) :
    lookupField (p.add id composite deps steps).aliases id =
      some (if steps.isEmpty then deps else ids steps) := by
  have hadd : (p.add id composite deps steps).aliases =
      setField p.aliases id (if steps.isEmpty then deps else ids steps) := if_neg hid
  rw [hadd, lookupField_setField_self]

theorem lookupField_add_ne {id x : String} (hx : id ≠ x) (p : Progress) (composite : Bool)
    (deps : List String) (steps : List Step) :
    lookupField (p.add id composite deps steps).aliases x = lookupField p.aliases x := by
  unfold Progress.add
  split
  · rfl
  · exact lookupField_setField_ne _ _ hx

theorem lookupField_collect_of_ne {x : String} (p : Progress)
    (hx : ∀ y ∈ yields, sc.pathId y.rule ≠ x) :
    lookupField (sc.collect p yields).aliases x = lookupField p.aliases x := by
  induction yields generalizing p with
  | nil => rfl
  | cons y rest ih =>
    have hrest := ih (p.add (sc.pathId y.rule) y.rule.isComposite y.deps y.steps)
      fun y' hy' => hx y' (List.mem_cons_of_mem _ hy')
    exact hrest.trans (lookupField_add_ne (hx y List.mem_cons_self) _ _ _ _)

/-- A name that is the path id of no rule of a scope stands for itself alone. -/
theorem ends_table_of_ne {x : String} (hfree : ∀ y ∈ yields, sc.pathId y.rule ≠ x) :
    (sc.table yields).Ends x := by
  left
  exact lookupField_collect_of_ne .start hfree

/-- A path id that only one of the rules has stands for what that rule stands for. -/
theorem lookupField_collect_append {front behind : List Yield} (p : Progress)
    (hne : sc.pathId y.rule ≠ "") (hlast : ∀ y' ∈ behind, sc.pathId y'.rule ≠ sc.pathId y.rule) :
    lookupField (sc.collect p (front ++ y :: behind)).aliases (sc.pathId y.rule) =
      some y.stands := by
  rw [Scope.collect, List.foldl_append, List.foldl_cons]
  exact (lookupField_collect_of_ne _ hlast).trans (lookupField_add_self hne _ _ _ _)

/-! ## Rules that are told apart -/

namespace Scope

/-- No two rules within a scope that have path ids have the same one. -/
def Distinct (w : Setting) (sc : Scope) : Prop := ((sc.ids w).filter (· ≠ "")).Nodup

theorem Distinct.of_nodup (h : (sc.ids w).Nodup) : sc.Distinct w := h.filter _

theorem Distinct.below {c : Scope} {r : Rule} (h : sc.Distinct w) (hr : r ∈ sc.rules)
    (hbelow : sc.below? w r = some c) : c.Distinct w :=
  ((ids_sublist_of_below hr hbelow).filter _).nodup h

end Scope

/-- The yields of the rules of a scope whose rules are told apart. -/
structure Family (w : Setting) (sc : Scope) (yields : List Yield) : Prop where
  distinct : sc.Distinct w
  rules : yields.map Yield.rule = sc.rules
  became : ∀ y ∈ yields, ∃ planned next, Became w sc y.deps y.rule planned y.steps next

theorem Yields.family {planned last : List String}
    (h : Yields w sc "" sc.rules planned yields last) (hdistinct : sc.Distinct w) :
    Family w sc yields where
  distinct := hdistinct
  rules := h.map_rule
  became := by
    intro y hy
    obtain ⟨before, next, -, hbecame⟩ := h.became hy
    exact ⟨before, next, hbecame⟩

namespace Family

theorem rule_mem (h : Family w sc yields) (hy : y ∈ yields) : y.rule ∈ sc.rules :=
  h.rules ▸ List.mem_map_of_mem hy

theorem exists_yield (h : Family w sc yields) {r : Rule} (hr : r ∈ sc.rules) :
    ∃ y ∈ yields, y.rule = r := by
  rw [← h.rules] at hr
  exact List.mem_map.1 hr

theorem ids_subset (h : Family w sc yields) (hy : y ∈ yields) :
    ids y.steps ⊆ sc.idsFrom w y.rule := by
  obtain ⟨planned, next, hbecame⟩ := h.became y hy
  exact (hbecame.ids_sublist fun c _ _ _ _ => ids_sublist_of_expand).subset

/-- The path ids of yields, one behind the other. -/
theorem nodup_flatMap (h : Family w sc yields) :
    (yields.flatMap fun y => (sc.idsFrom w y.rule).filter (· ≠ "")).Nodup := by
  have hdistinct := h.distinct
  rwa [Scope.Distinct, Scope.ids_eq_flatMap, ← h.rules, List.flatMap_map, List.filter_flatMap]
    at hdistinct

/-- Yields of which one stands behind the other have no path id in common. -/
theorem notMem_idsFrom_behind {front behind : List Yield}
    (h : Family w sc (front ++ y :: behind)) (hy' : y' ∈ behind) {x : String} (hne : x ≠ "")
    (hx : x ∈ sc.idsFrom w y.rule) : x ∉ sc.idsFrom w y'.rule := by
  intro hx'
  have hnodup := h.nodup_flatMap
  rw [List.flatMap_append, List.flatMap_cons] at hnodup
  have hbehind := (List.nodup_append.1 (List.nodup_append.1 hnodup).2.1).2.2
  refine hbehind x (List.mem_filter.2 ⟨hx, by simpa using hne⟩) x ?_ rfl
  exact List.mem_flatMap.2 ⟨y', hy', List.mem_filter.2 ⟨hx', by simpa using hne⟩⟩

/-- Yields whose rules have a path id in common are the same. -/
theorem eq_of_mem_idsFrom (h : Family w sc yields) (hy : y ∈ yields) (hy' : y' ∈ yields)
    {x : String} (hne : x ≠ "") (hx : x ∈ sc.idsFrom w y.rule) (hx' : x ∈ sc.idsFrom w y'.rule) :
    y = y' := by
  obtain ⟨front, behind, rfl⟩ := List.append_of_mem hy
  rcases List.mem_append.1 hy' with hfront | hrest
  · obtain ⟨before, between, rfl⟩ := List.append_of_mem hfront
    rw [List.append_assoc, List.cons_append] at h
    exact absurd hx (h.notMem_idsFrom_behind (by simp) hne hx')
  · rcases List.mem_cons.1 hrest with rfl | hbehind
    · rfl
    · exact absurd hx' (h.notMem_idsFrom_behind hbehind hne hx)

/-- The ids of steps are not empty. -/
theorem ne_empty (h : Family w sc yields) (hy : y ∈ yields) {x : String} (hx : x ∈ ids y.steps) :
    x ≠ "" := by
  obtain ⟨s, hs, rfl⟩ := List.mem_map.1 hx
  obtain ⟨planned, next, hbecame⟩ := h.became y hy
  exact (hbecame.named (fun c _ _ _ _ => named_of_expand) s hs).1

/-- Yields that have the id of a step in common are the same. -/
theorem eq_of_mem_ids (h : Family w sc yields) (hy : y ∈ yields) (hy' : y' ∈ yields)
    {x : String} (hx : x ∈ ids y.steps) (hx' : x ∈ ids y'.steps) : y = y' :=
  h.eq_of_mem_idsFrom hy hy' (h.ne_empty hy hx) (h.ids_subset hy hx) (h.ids_subset hy' hx')

/-- The path id of a rule stands for what it stands for. -/
theorem lookupField_table (h : Family w sc yields) (hy : y ∈ yields)
    (hne : sc.pathId y.rule ≠ "") :
    lookupField (sc.table yields) (sc.pathId y.rule) = some y.stands := by
  obtain ⟨front, behind, rfl⟩ := List.append_of_mem hy
  refine lookupField_collect_append .start hne fun y' hy' heq => ?_
  have hown := Scope.pathId_mem_idsFrom (w := w) sc y'.rule
  exact h.notMem_idsFrom_behind hy' hne (Scope.pathId_mem_idsFrom sc y.rule) (heq ▸ hown)

/-- A step that has the path id of its rule is all that its rule has become. -/
theorem ids_eq_of_pathId_mem (h : Family w sc yields) (hy : y ∈ yields)
    (hmem : sc.pathId y.rule ∈ ids y.steps) : ids y.steps = [sc.pathId y.rule] := by
  obtain ⟨planned, next, hbecame⟩ := h.became y hy
  rcases hbecame.cases with hnil | ⟨c, _, _, hbelow, hexpand⟩ | ⟨_, params, hleaf⟩
  · simp [hnil, ids] at hmem
  · -- Below its rule the path id would stand a second time.
    have hfrom := (Scope.idsFrom_sublist_ids (w := w) (h.rule_mem hy)).filter (· ≠ "")
    rw [Scope.idsFrom_of_below hbelow, List.filter_cons_of_pos (by simpa using h.ne_empty hy hmem)]
      at hfrom
    have hinner := (ids_sublist_of_expand hexpand).subset hmem
    refine absurd (List.mem_filter.2 ⟨hinner, ?_⟩) (List.nodup_cons.1 (hfrom.nodup h.distinct)).1
    simpa using h.ne_empty hy hmem
  · rw [hleaf]
    rfl

/-- The id of a step stands for nothing else. -/
theorem ends_of_emitted (h : Family w sc yields) (hy : y ∈ yields) {x : String}
    (hx : x ∈ ids y.steps) : (sc.table yields).Ends x := by
  have hne := h.ne_empty hy hx
  by_cases hsibling : ∃ y' ∈ yields, sc.pathId y'.rule = x
  · obtain ⟨y', hy', rfl⟩ := hsibling
    obtain rfl : y = y' := h.eq_of_mem_idsFrom hy hy' hne (h.ids_subset hy hx)
      (Scope.pathId_mem_idsFrom sc _)
    right
    rw [h.lookupField_table hy hne, stands_of_emitted hx, h.ids_eq_of_pathId_mem hy hx]
  · refine ends_table_of_ne ?_
    intro y' hy' heq
    exact hsibling ⟨y', hy', heq⟩

/-- The path id of a rule stands for each of its steps. -/
theorem endOf_of_emitted (h : Family w sc yields) (hy : y ∈ yields) (hne : sc.pathId y.rule ≠ "")
    {x : String} (hx : x ∈ ids y.steps) : (sc.table yields).EndOf (sc.pathId y.rule) x := by
  have hends := h.ends_of_emitted hy hx
  by_cases hself : x = sc.pathId y.rule
  · rw [← hself]
    exact hends.endOf_iff.2 rfl
  · refine ⟨ReflTransGen.single ⟨y.stands, h.lookupField_table hy hne, ?_, ?_⟩, hends⟩
    · rw [stands_of_emitted hx]
      intro heq
      rw [heq] at hx
      exact hself (List.mem_singleton.1 hx)
    · rwa [stands_of_emitted hx]

/-- The path id of a rule without steps stands for what the rule depends on stands for. -/
theorem endOf_of_silent (h : Family w sc yields) (hy : y ∈ yields) (hne : sc.pathId y.rule ≠ "")
    (hsilent : y.steps = []) {x d : String} (hx : x ∈ y.deps)
    (hend : (sc.table yields).EndOf x d) : (sc.table yields).EndOf (sc.pathId y.rule) d := by
  by_cases hself : y.deps = [sc.pathId y.rule]
  · rw [hself] at hx
    rwa [← List.mem_singleton.1 hx]
  · refine ⟨ReflTransGen.head ⟨y.stands, h.lookupField_table hy hne, ?_, ?_⟩ hend.1, hend.2⟩
    · rwa [stands_of_silent hsilent]
    · rwa [stands_of_silent hsilent]

/-! ## Dependencies between steps -/

/-- A dependency on a step of the scope is kept when the step that has it leaves the scope. -/
theorem mem_settled (h : Family w sc yields) (hy' : y' ∈ yields) {s : Step} {d : String}
    (hd : d ∈ s.dependsOn) (hemitted : d ∈ ids y'.steps) :
    d ∈ (sc.settled yields y s).dependsOn :=
  mem_dependsOn_settled.2 ⟨d, Or.inl hd, (h.ends_of_emitted hy' hemitted).endOf_iff.2 rfl⟩

/-- A step has the dependencies of its rule, or inherits them, or depends on a step that was made
below the same rule. -/
theorem dependsOn_cases (h : Family w sc yields) (hy : y ∈ yields) {s : Step} (hs : s ∈ y.steps) :
    s.dependsOn = y.deps ∨ y.Inherits s ∨ ∃ d ∈ s.dependsOn, d ∈ ids y.steps := by
  obtain ⟨planned, next, hbecame⟩ := h.became y hy
  rcases hbecame.cases with hnil | ⟨c, _, _, hbelow, -⟩ | ⟨-, params, hleaf⟩
  · simp [hnil] at hs
  · by_cases hinner : ∃ d ∈ s.dependsOn, d ∈ ids y.steps
    · exact Or.inr (Or.inr hinner)
    · refine Or.inr (Or.inl ⟨Scope.isComposite_of_below hbelow, ?_⟩)
      intro d hd hemitted
      exact hinner ⟨d, hd, hemitted⟩
  · rw [hleaf, List.mem_singleton] at hs
    exact Or.inl (hs ▸ rfl)

/-- A step whose id is a path id of a rule is one that the rule has become. -/
theorem mem_ids_of_mem_idsFrom (h : Family w sc yields) (hy : y ∈ yields) {x : String}
    (hx : x ∈ ids (sc.collect .start yields).finish) (hfrom : x ∈ sc.idsFrom w y.rule) :
    x ∈ ids y.steps := by
  obtain ⟨y', hy', hemitted⟩ := mem_ids_finish.1 hx
  obtain rfl := h.eq_of_mem_idsFrom hy hy' (h.ne_empty hy' hemitted) hfrom
    (h.ids_subset hy' hemitted)
  exact hemitted

/-- What a rule with a scope below it has become is what that scope has become. -/
theorem expand_of_emitted (h : Family w sc yields) (hy : y ∈ yields) {c : Scope}
    (hbelow : sc.below? w y.rule = some c) {x : String} (hx : x ∈ ids y.steps) :
    ∃ planned last, c.expand w planned = (.ok y.steps, last) := by
  obtain ⟨planned, next, hbecame⟩ := h.became y hy
  rcases hbecame.cases with hnil | ⟨c', planned, last, hbelow', hexpand⟩ | ⟨hleaf, -⟩
  · simp [hnil, ids] at hx
  · obtain rfl := Option.some.inj (hbelow.symm.trans hbelow')
    exact ⟨planned, last, hexpand⟩
  · rw [Scope.isComposite_of_below hbelow] at hleaf
    cases hleaf

end Family

end Remediation.Expansion
