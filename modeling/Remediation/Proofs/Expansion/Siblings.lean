import Remediation.Proofs.Expansion.Family
/-!
# Siblings whose path ids are different

Where all rules of a scope have ids and no two of them the same path id, the path id of every rule
stands for its steps or for what it depends on, and a rule depends on the path ids of the siblings that
it needs (`Siblings.pathId_mem_deps`).
-/

set_option autoImplicit false

namespace Remediation.Expansion

open Relation
open Schedule (ids)

variable {w : Setting} {sc : Scope} {yields : List Yield} {y y' : Yield}

/-- The yields of the rules of a scope whose path ids are different. -/
structure Siblings (w : Setting) (sc : Scope) (yields : List Yield) : Prop where
  unique : (sc.ids w).Nodup
  named : ∀ r ∈ sc.rules, r.id ≠ ""
  rules : yields.map Yield.rule = sc.rules
  became : ∀ y ∈ yields, ∃ planned next, Became w sc y.deps y.rule planned y.steps next
  deps : ∀ y ∈ yields, ∃ before behind, sc.rules = before ++ y.rule :: behind ∧
    y.deps = sc.deps (lastId "" before) y.rule

theorem Yields.siblings {planned last : List String}
    (h : Yields w sc "" sc.rules planned yields last) (hunique : (sc.ids w).Nodup)
    (hnamed : ∀ r ∈ sc.rules, r.id ≠ "") : Siblings w sc yields where
  unique := hunique
  named := hnamed
  rules := h.map_rule
  became := by
    intro y hy
    obtain ⟨before, next, -, hbecame⟩ := h.became hy
    exact ⟨before, next, hbecame⟩
  deps := fun y hy => h.deps_eq hy

/-- Siblings whose path ids are different are told apart. -/
theorem Siblings.family (h : Siblings w sc yields) : Family w sc yields where
  distinct := .of_nodup h.unique
  rules := h.rules
  became := h.became

namespace Siblings

/-! ## Telling siblings apart -/

theorem rule_mem (h : Siblings w sc yields) (hy : y ∈ yields) : y.rule ∈ sc.rules :=
  h.family.rule_mem hy

theorem exists_yield (h : Siblings w sc yields) {r : Rule} (hr : r ∈ sc.rules) :
    ∃ y ∈ yields, y.rule = r := h.family.exists_yield hr

theorem pathId_ne_empty (h : Siblings w sc yields) {r : Rule} (hr : r ∈ sc.rules) :
    sc.pathId r ≠ "" :=
  fun hempty => h.named r hr (Scope.pathId_eq_empty_iff.1 hempty)

theorem nodup_map_pathId (h : Siblings w sc yields) :
    (yields.map fun y => sc.pathId y.rule).Nodup := by
  have hnodup := Scope.nodup_map_pathId h.unique
  rwa [← h.rules, List.map_map] at hnodup

/-- Yields whose rules have a path id in common are the same. -/
theorem eq_of_mem_idsFrom (h : Siblings w sc yields) (hy : y ∈ yields) (hy' : y' ∈ yields)
    {x : String} (hx : x ∈ sc.idsFrom w y.rule) (hx' : x ∈ sc.idsFrom w y'.rule) : y = y' := by
  have hrule := Scope.eq_of_mem_idsFrom h.unique (h.rule_mem hy) (h.rule_mem hy') hx hx'
  exact List.inj_on_of_nodup_map h.nodup_map_pathId hy hy' (congrArg sc.pathId hrule)

theorem ids_subset (h : Siblings w sc yields) (hy : y ∈ yields) :
    ids y.steps ⊆ sc.idsFrom w y.rule := h.family.ids_subset hy

/-- Yields that have the id of a step in common are the same. -/
theorem eq_of_mem_ids (h : Siblings w sc yields) (hy : y ∈ yields) (hy' : y' ∈ yields)
    {x : String} (hx : x ∈ ids y.steps) (hx' : x ∈ ids y'.steps) : y = y' :=
  h.family.eq_of_mem_ids hy hy' hx hx'

end Siblings

/-! ## What siblings stand for -/

theorem lookupField_collect (p : Progress) (hnodup : (yields.map fun y => sc.pathId y.rule).Nodup)
    (hne : ∀ y ∈ yields, sc.pathId y.rule ≠ "") (hy : y ∈ yields) :
    lookupField (sc.collect p yields).aliases (sc.pathId y.rule) = some y.stands := by
  obtain ⟨front, behind, rfl⟩ := List.append_of_mem hy
  refine lookupField_collect_append p (hne y hy) fun y' hy' heq => ?_
  have hother := (List.nodup_cons.1 (nodup_map_middle hnodup)).1
  exact hother (List.mem_map.2 ⟨y', List.mem_append_right _ hy', heq⟩)

namespace Siblings

/-- The path id of a rule stands for what it stands for. -/
theorem lookupField_table (h : Siblings w sc yields) (hy : y ∈ yields) :
    lookupField (sc.table yields) (sc.pathId y.rule) = some y.stands :=
  h.family.lookupField_table hy (h.pathId_ne_empty (h.rule_mem hy))

/-- The id of a step stands for nothing else. -/
theorem ends_of_emitted (h : Siblings w sc yields) (hy : y ∈ yields) {x : String}
    (hx : x ∈ ids y.steps) : (sc.table yields).Ends x := h.family.ends_of_emitted hy hx

/-- The path id of a rule stands for each of its steps. -/
theorem endOf_of_emitted (h : Siblings w sc yields) (hy : y ∈ yields) {x : String}
    (hx : x ∈ ids y.steps) : (sc.table yields).EndOf (sc.pathId y.rule) x :=
  h.family.endOf_of_emitted hy (h.pathId_ne_empty (h.rule_mem hy)) hx

/-- The path id of a rule without steps stands for what the rule depends on stands for. -/
theorem endOf_of_silent (h : Siblings w sc yields) (hy : y ∈ yields) (hsilent : y.steps = [])
    {x d : String} (hx : x ∈ y.deps) (hend : (sc.table yields).EndOf x d) :
    (sc.table yields).EndOf (sc.pathId y.rule) d :=
  h.family.endOf_of_silent hy (h.pathId_ne_empty (h.rule_mem hy)) hsilent hx hend

/-! ## Dependencies between steps -/

/-- What stands in front of a rule of a scope is the same wherever the rule is found. -/
theorem before_unique (h : Siblings w sc yields) {r : Rule} {before behind before' behind' : List Rule}
    (hsplit : sc.rules = before ++ r :: behind) (hsplit' : sc.rules = before' ++ r :: behind') :
    before = before' := by
  have hnodup : sc.rules.Nodup := (Scope.nodup_map_pathId h.unique).of_map _
  rw [hsplit, List.nodup_middle] at hnodup
  have hnot : r ∉ before ++ behind := (List.nodup_cons.1 hnodup).1
  have hbefore : r ∉ before := fun hmem => hnot (List.mem_append_left _ hmem)
  have hbehind : r ∉ behind := fun hmem => hnot (List.mem_append_right _ hmem)
  have heq : before ++ r :: behind = before' ++ r :: behind' := hsplit.symm.trans hsplit'
  exact ((List.append_cons_inj_of_notMem hbefore hbehind).1 heq).1

/-- A rule depends on the path ids of the siblings that it needs. -/
theorem pathId_mem_deps (h : Siblings w sc yields) (hy : y ∈ yields) {a : Rule}
    (hneeds : sc.Needs y.rule a) : sc.pathId a ∈ y.deps := by
  obtain ⟨before, behind, hrules, hdeps⟩ := h.deps y hy
  rw [hdeps]
  cases hneeds with
  | named _ _ hmem =>
    have hne : y.rule.dependsOn ≠ [] := List.ne_nil_of_mem hmem
    have heffective : effectiveDeps sc.sequential (lastId "" before) y.rule = y.rule.dependsOn :=
      if_neg fun hdefault => hne hdefault.2.1
    rw [Scope.deps, heffective]
    exact List.mem_map_of_mem hmem
  | @behind before' behind' hsequential hnil hsplit =>
    obtain rfl : before = before' ++ [a] := h.before_unique hrules (by simpa using hsplit)
    have ha : a.id ≠ "" := h.named a (by rw [hsplit]; simp)
    have heffective : effectiveDeps sc.sequential (lastId "" (before' ++ [a])) y.rule = [a.id] := by
      simp [effectiveDeps, lastId, hsequential, hnil, ha]
    rw [Scope.deps, heffective]
    simp [Scope.pathId]

end Siblings

end Remediation.Expansion
