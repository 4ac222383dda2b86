import Remediation.Proofs.Expansion.Sortable
/-!
# Rules that name no siblings

Rules that name no siblings are expanded into steps that depend on nothing but steps in front of them:
those of the rule before, where rules run one after the other, or of the last one before that became
something (`rising_of_expand`).  "In front" is meant among the path ids of the scope, whose order is
the same at every depth.
-/

set_option autoImplicit false

namespace Remediation.Expansion

open Relation
open Schedule (ids)

variable {w : Setting} {sc : Scope} {yields front behind : List Yield} {y y' : Yield}

/-- Steps depend on each other alone, and only on those whose ids come earlier. -/
def Rising (order : List String) (steps : List Step) : Prop :=
  ∀ s ∈ steps, ∀ d ∈ s.dependsOn, d ∈ ids steps ∧ [d, s.id].Sublist order

namespace Scope

/-- The rules within a scope name no siblings. -/
def Unnamed (w : Setting) (sc : Scope) : Prop :=
  ∀ inner, Within w sc inner → ∀ r ∈ inner.rules, r.dependsOn = []

/-- Path ids of a rule and of a later sibling, or below them, are in the order of the rules. -/
theorem sublist_ids_of_split {front behind : List Rule} {a b : Rule}
    (hsplit : sc.rules = front ++ b :: behind) (ha : a ∈ front) {x x' : String}
    (hx : x ∈ sc.idsFrom w a) (hx' : x' ∈ sc.idsFrom w b) : [x, x'].Sublist (sc.ids w) := by
  have hfront : [x].Sublist (front.flatMap (sc.idsFrom w)) :=
    List.singleton_sublist.2 (List.mem_flatMap.2 ⟨a, ha, hx⟩)
  have hbehind : [x'].Sublist ((b :: behind).flatMap (sc.idsFrom w)) :=
    List.singleton_sublist.2 (List.mem_flatMap.2 ⟨b, List.mem_cons_self, hx'⟩)
  rw [ids_eq_flatMap, hsplit, List.flatMap_append]
  exact hfront.append hbehind

/-- Where no rule names siblings, a rule needs only siblings before it. -/
theorem exists_split_of_needs (hunnamed : ∀ r ∈ sc.rules, r.dependsOn = []) {a b : Rule}
    (h : sc.Needs b a) : ∃ front behind, sc.rules = front ++ b :: behind ∧ a ∈ front := by
  cases h with
  | named hb _ hd =>
    rw [hunnamed b hb] at hd
    cases hd
  | @behind before behind _ _ hsplit => exact ⟨before ++ [a], behind, by simp [hsplit], by simp⟩

/-- The place of a rule among the path ids of its scope. -/
def rank (w : Setting) (sc : Scope) (r : Rule) : Nat := (sc.ids w).idxOf (sc.pathId r)

theorem rank_lt_of_split (hunique : (sc.ids w).Nodup) {front behind : List Rule} {a b : Rule}
    (hsplit : sc.rules = front ++ b :: behind) (ha : a ∈ front) : sc.rank w a < sc.rank w b :=
  idxOf_lt_idxOf_of_sublist hunique
    (sublist_ids_of_split hsplit ha (pathId_mem_idsFrom sc a) (pathId_mem_idsFrom sc b))

theorem regular_of_unnamed (hunique : (sc.ids w).Nodup)
    (hunnamed : ∀ r ∈ sc.rules, r.dependsOn = []) : sc.Regular where
  siblings := by
    intro r hr d hd
    rw [hunnamed r hr] at hd
    cases hd
  acyclic := by
    refine acyclic_of_rank (sc.rank w) fun b a hneeds => ?_
    obtain ⟨front, behind, hsplit, ha⟩ := exists_split_of_needs hunnamed hneeds
    exact rank_lt_of_split hunique hsplit ha

end Scope

/-! ## The rule before -/

/-- What a yield depends on is decided by the yields in front of it. -/
theorem Yields.deps_append {previous : String} {rules : List Rule} {planned last : List String}
    (h : Yields w sc previous rules planned (front ++ y :: behind) last) :
    y.deps = sc.deps (lastId previous (front.map Yield.rule)) y.rule := by
  induction front generalizing previous rules planned with
  | nil =>
    cases h
    rfl
  | cons first rest ih =>
    cases h with
    | cons _ _ hrest =>
      rw [ih hrest, List.map_cons, lastId_cons]

theorem lastId_concat (previous : String) (rules : List Rule) (r : Rule) :
    lastId previous (rules ++ [r]) = r.id := by
  simp [lastId]

/-- A rule that names no siblings depends on the one before it, if they run one after the other and
that one has an id, or on nothing. -/
theorem Scope.deps_of_unnamed {r : Rule} (hr : r.dependsOn = []) (previous : String) :
    sc.deps previous r =
      if sc.sequential = true ∧ previous ≠ "" then [sc.frame.id previous] else [] := by
  simp only [deps, effectiveDeps, hr, true_and]
  split <;> rfl

/-- What a rule that names no siblings depends on is the path id of the rule before it. -/
theorem Yields.eq_pathId_of_mem_deps {planned last : List String} {x : String}
    (h : Yields w sc "" sc.rules planned (front ++ y :: behind) last) (hr : y.rule.dependsOn = [])
    (hx : x ∈ y.deps) :
    ∃ init p, front = init ++ [p] ∧ sc.pathId p.rule ≠ "" ∧ x = sc.pathId p.rule := by
  rw [h.deps_append, Scope.deps_of_unnamed hr] at hx
  split at hx
  next hprevious =>
    rcases List.eq_nil_or_concat front with rfl | ⟨init, p, rfl⟩
    · exact absurd rfl hprevious.2
    · rw [List.concat_eq_append, List.map_append, List.map_singleton, lastId_concat] at hx hprevious
      exact ⟨init, p, List.concat_eq_append, mt Scope.pathId_eq_empty_iff.1 hprevious.2,
        List.mem_singleton.1 hx⟩
  next => cases hx

/-! ## What dependencies stand for -/

namespace Family

/-- The path id of a rule stands for steps of the rule, or for what its dependencies stand for. -/
theorem mem_ids_or_exists_of_endOf (h : Family w sc yields) (hy : y ∈ yields)
    (hne : sc.pathId y.rule ≠ "") {d : String} (hend : (sc.table yields).EndOf (sc.pathId y.rule) d) :
    d ∈ ids y.steps ∨ ∃ x ∈ y.deps, (sc.table yields).EndOf x d := by
  have hlookup := h.lookupField_table hy hne
  obtain ⟨x, hx, hend⟩ : ∃ x ∈ y.stands, (sc.table yields).EndOf x d := by
    rcases ReflTransGen.cases_head hend.1 with rfl | ⟨x, ⟨targets, htargets, -, hx⟩, hreach⟩
    · rcases hend.2 with hnone | hself
      · rw [hnone] at hlookup
        cases hlookup
      · rw [Option.some.inj (hlookup.symm.trans hself)]
        exact ⟨_, List.mem_singleton_self _, hend⟩
    · rw [Option.some.inj (hlookup.symm.trans htargets)]
      exact ⟨x, hx, hreach, hend.2⟩
  rcases mem_stands.1 hx with ⟨-, hdep⟩ | hemitted
  · exact Or.inr ⟨x, hdep, hend⟩
  · rw [(h.ends_of_emitted hy hemitted).endOf_iff.1 hend]
    exact Or.inl hemitted

/-- Where rules name no siblings, a dependency stands for a step of a rule in front. -/
theorem exists_front_of_endOf {planned last : List String}
    (hyields : Yields w sc "" sc.rules planned yields last) (h : Family w sc yields)
    (hunnamed : ∀ r ∈ sc.rules, r.dependsOn = []) (hsplit : yields = front ++ y :: behind)
    {x d : String} (hx : x ∈ y.deps) (hend : (sc.table yields).EndOf x d) :
    ∃ p ∈ front, d ∈ ids p.steps := by
  induction front using List.reverseRecOn generalizing y behind x with
  | nil =>
    subst hsplit
    have hr := hunnamed y.rule (h.rule_mem (by simp))
    obtain ⟨init, p, hnil, -⟩ := hyields.eq_pathId_of_mem_deps hr hx
    simp at hnil
  | append_singleton init p ih =>
    have hyields' := hyields
    rw [hsplit] at hyields'
    obtain ⟨init', p', heq, hne, rfl⟩ := hyields'.eq_pathId_of_mem_deps
      (hunnamed y.rule (h.rule_mem (by simp [hsplit]))) hx
    obtain ⟨rfl, hp⟩ := List.append_inj' heq rfl
    obtain rfl : p = p' := by simpa using hp
    rcases h.mem_ids_or_exists_of_endOf (by simp [hsplit]) hne hend with hemitted | ⟨x', hx', hend'⟩
    · exact ⟨p, by simp, hemitted⟩
    · obtain ⟨q, hq, hd⟩ := ih (by simpa using hsplit) hx' hend'
      exact ⟨q, List.mem_append_left _ hq, hd⟩

end Family

/-- Rules that name no siblings become steps that depend on earlier steps alone. -/
theorem rising_of_expand (hunnamed : sc.Unnamed w) (hdistinct : sc.Distinct w)
    {planned last : List String} {steps : List Step}
    (hexpand : sc.expand w planned = (.ok steps, last)) : Rising (sc.ids w) steps := by
  induction sc using Scope.induction w generalizing planned last steps with
  | _ sc ih =>
    obtain ⟨yields, hyields, rfl⟩ := Scope.expand_eq_ok_iff.1 hexpand
    have h := hyields.family hdistinct
    intro t ht d hd
    obtain ⟨y, hy, s, hs, rfl⟩ := mem_finish.1 ht
    obtain ⟨x, hx, hend⟩ := mem_dependsOn_settled.1 hd
    have hdeps (hx : x ∈ y.deps) :
        d ∈ ids (sc.collect .start yields).finish ∧ [d, s.id].Sublist (sc.ids w) := by
      obtain ⟨front, behind, hsplit⟩ := List.append_of_mem hy
      obtain ⟨p, hp, hd⟩ := h.exists_front_of_endOf hyields (hunnamed sc .self) hsplit hx hend
      have hp' : p ∈ yields := by simp [hsplit, hp]
      have hrules : sc.rules = front.map Yield.rule ++ y.rule :: behind.map Yield.rule := by
        rw [← h.rules, hsplit, List.map_append, List.map_cons]
      exact ⟨mem_ids_finish.2 ⟨p, hp', hd⟩, Scope.sublist_ids_of_split hrules
        (List.mem_map_of_mem hp) (h.ids_subset hp' hd) (h.ids_subset hy (List.mem_map_of_mem hs))⟩
    rw [settled_id]
    rcases hx with hown | ⟨-, hinherited⟩
    · have hrule := h.rule_mem hy
      obtain ⟨before, next, hbecame⟩ := h.became y hy
      rcases hbecame.cases with hnil | ⟨c, _, _, hbelow, hinside⟩ | ⟨-, params, hleaf⟩
      · simp [hnil] at hs
      · have hunnamed' : c.Unnamed w := fun inner hwithin =>
          hunnamed inner (.down hrule hbelow hwithin)
        obtain ⟨hemitted, hbefore⟩ := ih y.rule hrule c hbelow hunnamed'
          (hdistinct.below hrule hbelow) hinside s hs x hown
        obtain rfl := (h.ends_of_emitted hy hemitted).endOf_iff.1 hend
        exact ⟨mem_ids_finish.2 ⟨y, hy, hemitted⟩,
          hbefore.trans (Scope.ids_sublist_of_below hrule hbelow)⟩
      · obtain rfl := List.mem_singleton.1 (hleaf ▸ hs)
        exact hdeps hown
    · exact hdeps hinherited

end Remediation.Expansion
