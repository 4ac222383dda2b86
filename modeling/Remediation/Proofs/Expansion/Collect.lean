import Mathlib.Data.List.Flatten
import Remediation.Proofs.Alias
import Remediation.Proofs.Expansion.Yield
import Remediation.Proofs.Schedule.Sources
/-!
# The steps of a scope

The steps of a scope are those that its rules have yielded, in their order and with their ids, and
only what they depend on changes: a step may inherit what its rule depends on, and all its
dependencies are resolved by what the rules of the scope stand for (`mem_dependsOn_settled`).

The ids of the steps are therefore among the path ids of the scope, in their order
(`ids_sublist_of_expand`).
-/

set_option autoImplicit false

namespace Remediation.Expansion

open Schedule (ids)

variable {w : Setting} {sc : Scope} {yields : List Yield} {y : Yield} {s : Step}

/-! ## Inheriting -/

/-- A step inherits the dependencies of its rule: it was made below that rule and depends on no other
step that was. -/
def Yield.Inherits (y : Yield) (s : Step) : Prop :=
  y.rule.isComposite = true ∧ ∀ d ∈ s.dependsOn, d ∉ ids y.steps

/-- A step as the scope of its rule sees it. -/
def Yield.adopted (y : Yield) (s : Step) : Step :=
  if y.rule.isComposite ∧ !y.deps.isEmpty then inherit y.deps (ids y.steps) s else s

theorem adopt_eq_map_adopted (y : Yield) :
    Progress.adopt y.rule.isComposite y.deps y.steps = y.steps.map y.adopted := by
  unfold Progress.adopt Yield.adopted
  split <;> simp [ids]

/-- Only what a step depends on changes when it is adopted. -/
theorem adopted_eq_with (y : Yield) (s : Step) :
    y.adopted s = { s with dependsOn := (y.adopted s).dependsOn } := by
  unfold Yield.adopted inherit
  split
  · split <;> rfl
  · rfl

@[simp] theorem mem_mergeUnique {xs ys : List String} {d : String} :
    d ∈ mergeUnique xs ys ↔ d ∈ xs ∨ d ∈ ys := by
  simp [mergeUnique]

theorem adopted_eq_self (h : ¬ y.Inherits s) : y.adopted s = s := by
  unfold Yield.adopted
  split
  next hcomposite =>
    have hinner : s.dependsOn.any (· ∈ ids y.steps) = true := by
      by_contra hnone
      exact h ⟨hcomposite.1, by simpa using hnone⟩
    rw [inherit, if_pos hinner]
  next => rfl

theorem mem_dependsOn_of_inherits (h : y.Inherits s) {d : String} :
    d ∈ (y.adopted s).dependsOn ↔ d ∈ y.deps ∨ d ∈ s.dependsOn := by
  have hnone : ¬ s.dependsOn.any (· ∈ ids y.steps) = true := by simpa using h.2
  unfold Yield.adopted
  split
  next => simp [inherit, hnone]
  next hdeps =>
    have hnil : y.deps = [] := by simpa [h.1] using hdeps
    simp [hnil]

/-- A step keeps its dependencies when it is adopted, and inherits those of its rule or none. -/
theorem mem_dependsOn_adopted {d : String} :
    d ∈ (y.adopted s).dependsOn ↔ d ∈ s.dependsOn ∨ y.Inherits s ∧ d ∈ y.deps := by
  by_cases h : y.Inherits s
  · rw [mem_dependsOn_of_inherits h, or_comm]
    simp [h]
  · rw [adopted_eq_self h]
    simp [h]

/-! ## Collecting the yields -/

namespace Scope

/-- What the rules of a scope stand for. -/
def table (sc : Scope) (yields : List Yield) : Aliases := (sc.collect .start yields).aliases

/-- A step as it leaves the scope of its rule. -/
def settled (sc : Scope) (yields : List Yield) (y : Yield) (s : Step) : Step :=
  { y.adopted s with dependsOn := (sc.table yields).resolve (y.adopted s).dependsOn }

end Scope

/-- Only what a step depends on changes when it leaves the scope of its rule. -/
theorem settled_eq_with : sc.settled yields y s =
    { s with dependsOn := (sc.settled yields y s).dependsOn } := by
  rw [Scope.settled, adopted_eq_with]

@[simp] theorem settled_id : (sc.settled yields y s).id = s.id := by
  rw [settled_eq_with]

@[simp] theorem settled_outputRefs : (sc.settled yields y s).outputRefs = s.outputRefs := by
  rw [settled_eq_with]

theorem steps_collect (p : Progress) :
    (sc.collect p yields).steps = p.steps ++ yields.flatMap fun y => y.steps.map y.adopted := by
  induction yields generalizing p with
  | nil => simp [Scope.collect]
  | cons y rest ih =>
    have hrest := ih (p.add (sc.pathId y.rule) y.rule.isComposite y.deps y.steps)
    rw [Progress.add, adopt_eq_map_adopted] at hrest
    simpa [Scope.collect, Progress.add, adopt_eq_map_adopted] using hrest

/-- The steps of a scope are the yields of its rules, settled. -/
theorem finish_collect :
    (sc.collect .start yields).finish =
      yields.flatMap fun y => y.steps.map (sc.settled yields y) := by
  rw [Progress.finish, steps_collect, Progress.start, List.nil_append, List.map_flatMap]
  refine List.flatMap_congr ?_
  intro y _
  rw [List.map_map]
  rfl

/-- What a step depends on when it leaves its scope: the ends of what it depended on before, or has
inherited. -/
theorem mem_dependsOn_settled {d : String} :
    d ∈ (sc.settled yields y s).dependsOn ↔
      ∃ x, (x ∈ s.dependsOn ∨ y.Inherits s ∧ x ∈ y.deps) ∧ (sc.table yields).EndOf x d := by
  simp only [Scope.settled, Aliases.mem_resolve_iff, mem_dependsOn_adopted]

theorem ids_finish_collect :
    ids (sc.collect .start yields).finish = yields.flatMap fun y => ids y.steps := by
  rw [finish_collect, ids, List.map_flatMap]
  refine List.flatMap_congr ?_
  intro y _
  simp [ids, Function.comp_def]

theorem mem_ids_finish {x : String} :
    x ∈ ids (sc.collect .start yields).finish ↔ ∃ y ∈ yields, x ∈ ids y.steps := by
  rw [ids_finish_collect, List.mem_flatMap]

theorem mem_finish {t : Step} :
    t ∈ (sc.collect .start yields).finish ↔
      ∃ y ∈ yields, ∃ s ∈ y.steps, sc.settled yields y s = t := by
  simp only [finish_collect, List.mem_flatMap, List.mem_map]

/-! ## Yields and rules -/

/-- The id of the last rule of a list. -/
def lastId (previous : String) (rules : List Rule) : String :=
  (rules.getLast?.map Rule.id).getD previous

theorem lastId_cons (previous : String) (r : Rule) (rest : List Rule) :
    lastId previous (r :: rest) = lastId r.id rest := by
  cases rest <;> simp [lastId, List.getLast?_cons]

theorem Yields.map_rule {previous : String} {rules : List Rule} {planned last : List String}
    (h : Yields w sc previous rules planned yields last) : yields.map Yield.rule = rules := by
  induction h with
  | nil => rfl
  | cons _ _ _ ih => rw [List.map_cons, ih]

theorem Yields.rule_mem {previous : String} {rules : List Rule} {planned last : List String}
    (h : Yields w sc previous rules planned yields last) (hy : y ∈ yields) : y.rule ∈ rules :=
  h.map_rule ▸ List.mem_map_of_mem hy

/-- Every yield is what its rule became. -/
theorem Yields.became {previous : String} {rules : List Rule} {planned last : List String}
    (h : Yields w sc previous rules planned yields last) (hy : y ∈ yields) :
    ∃ before next, Fresh sc y.rule ∧ Became w sc y.deps y.rule before y.steps next := by
  induction h with
  | nil => simp at hy
  | cons hfresh hbecame _ ih =>
    rcases List.mem_cons.1 hy with rfl | hy
    · exact ⟨_, _, hfresh, hbecame⟩
    · exact ih hy

/-- What a yield depends on is decided by the rules in front of its own. -/
theorem Yields.deps_eq {previous : String} {rules : List Rule} {planned last : List String}
    (h : Yields w sc previous rules planned yields last) (hy : y ∈ yields) :
    ∃ before behind, rules = before ++ y.rule :: behind ∧
      y.deps = sc.deps (lastId previous before) y.rule := by
  induction h with
  | nil => simp at hy
  | @cons previous r rest _ _ _ _ _ _ _ _ ih =>
    rcases List.mem_cons.1 hy with rfl | hy
    · exact ⟨[], rest, rfl, rfl⟩
    · obtain ⟨before, behind, rfl, hdeps⟩ := ih hy
      refine ⟨r :: before, behind, rfl, ?_⟩
      rw [hdeps, lastId_cons]

/-- Rules that stand in front of others yield first. -/
theorem Yields.exists_append {previous : String} {front behind : List Rule}
    {planned last : List String}
    (h : Yields w sc previous (front ++ behind) planned yields last) :
    ∃ first second between, yields = first ++ second ∧
      Yields w sc previous front planned first between ∧
      Yields w sc (lastId previous front) behind between second last := by
  induction front generalizing previous planned yields with
  | nil => exact ⟨[], yields, planned, rfl, .nil, h⟩
  | cons r rest ih =>
    cases h with
    | cons hfresh hbecame hrest =>
      obtain ⟨first, second, between, rfl, hfirst, hsecond⟩ := ih hrest
      rw [← lastId_cons previous] at hsecond
      exact ⟨_ :: first, second, between, rfl, .cons hfresh hbecame hfirst, hsecond⟩

/-! ## Ids -/

/-- The ids of what a rule has become are among its path ids, if those of the scope below it are. -/
theorem Became.ids_sublist {deps planned next : List String} {r : Rule} {steps : List Step}
    (h : Became w sc deps r planned steps next)
    (hbelow : ∀ c, sc.below? w r = some c → ∀ planned steps next,
      c.expand w planned = (.ok steps, next) → (ids steps).Sublist (c.ids w)) :
    (ids steps).Sublist (sc.idsFrom w r) := by
  cases h with
  | refused => exact List.nil_sublist _
  | inside _ hscope hexpand =>
    rw [Scope.idsFrom_of_below hscope]
    exact (hbelow _ hscope _ _ _ hexpand).trans (List.sublist_cons_self _ _)
  | repeated => exact List.nil_sublist _
  | leaf => exact List.Sublist.cons_cons _ (List.nil_sublist _)

/-- The steps of a scope have path ids of the scope, in their order. -/
theorem ids_sublist_of_expand {planned last : List String} {steps : List Step}
    (h : sc.expand w planned = (.ok steps, last)) : (ids steps).Sublist (sc.ids w) := by
  induction sc using Scope.induction w generalizing planned last steps with
  | _ sc ih =>
    obtain ⟨yields, hyields, rfl⟩ := Scope.expand_eq_ok_iff.1 h
    rw [ids_finish_collect, Scope.ids_eq_flatMap, ← hyields.map_rule, List.flatMap_map]
    refine List.Sublist.flatMap_right _ ?_
    intro y hy
    obtain ⟨before, next, -, hbecame⟩ := hyields.became hy
    refine hbecame.ids_sublist ?_
    intro c hbelow before steps next hexpand
    exact ih y.rule (hyields.rule_mem hy) c hbelow hexpand

end Remediation.Expansion
