import Remediation.Proofs.Expansion.Siblings
import Remediation.Proofs.Expansion.WellFormed
/-!
# Past siblings that became nothing

Where rules depend on siblings alone, and none of them on itself, what a rule depends on stands for
steps of siblings that it needs.  The siblings on the way have become nothing, or the dependency would
have ended there (`Siblings.exists_needsPast_of_mem_deps`).
-/

set_option autoImplicit false

namespace Remediation.Expansion

open Relation
open Schedule (ids)

variable {w : Setting} {sc : Scope} {yields : List Yield} {y y' : Yield}

/-- A rule needs a sibling, directly or past siblings of some kind. -/
inductive Scope.NeedsPast (sc : Scope) (kind : Rule → Prop) : Rule → Rule → Prop where
  | direct {b a : Rule} : sc.Needs b a → NeedsPast sc kind b a
  | past {b between a : Rule} : sc.Needs b between → kind between → NeedsPast sc kind between a →
      NeedsPast sc kind b a

namespace Scope.NeedsPast

variable {kind kind' : Rule → Prop} {b a : Rule}

theorem transGen (h : sc.NeedsPast kind b a) : TransGen sc.Needs b a := by
  induction h with
  | direct hneeds => exact .single hneeds
  | past hneeds _ _ ih => exact .head hneeds ih

theorem imp (h : sc.NeedsPast kind b a) (hkind : ∀ r ∈ sc.rules, kind r → kind' r) :
    sc.NeedsPast kind' b a := by
  induction h with
  | direct hneeds => exact .direct hneeds
  | past hneeds hpassed _ ih => exact .past hneeds (hkind _ hneeds.mem_right hpassed) ih

end Scope.NeedsPast

/-- A rule has yielded nothing. -/
def Silent (yields : List Yield) (r : Rule) : Prop := ∃ y ∈ yields, y.rule = r ∧ y.steps = []

namespace Siblings

theorem eq_of_rule_eq (h : Siblings w sc yields) (hy : y ∈ yields) (hy' : y' ∈ yields)
    (hrule : y.rule = y'.rule) : y = y' :=
  h.eq_of_mem_idsFrom hy hy' (Scope.pathId_mem_idsFrom sc y.rule)
    (hrule ▸ Scope.pathId_mem_idsFrom sc y.rule)

/-- What a rule depends on are siblings that it needs. -/
theorem exists_of_mem_deps (h : Siblings w sc yields) (hregular : sc.Regular) (hy : y ∈ yields)
    {x : String} (hx : x ∈ y.deps) :
    ∃ y' ∈ yields, sc.pathId y'.rule = x ∧ sc.Needs y.rule y'.rule := by
  obtain ⟨before, behind, hrules, hdeps⟩ := h.deps y hy
  rw [hdeps] at hx
  obtain ⟨d, hd, rfl⟩ := List.mem_map.1 hx
  have hneeds : ∃ a, a.id = d ∧ sc.Needs y.rule a := by
    unfold effectiveDeps at hd
    split at hd
    next hdefault =>
      obtain ⟨hsequential, hnil, hprevious⟩ := hdefault
      obtain rfl := List.mem_singleton.1 hd
      rcases List.eq_nil_or_concat before with rfl | ⟨front, a, rfl⟩
      · exact absurd rfl hprevious
      · exact ⟨a, by simp [lastId], .behind hsequential hnil (by simpa using hrules)⟩
    next =>
      obtain ⟨a, ha, rfl⟩ := hregular.siblings y.rule (h.rule_mem hy) d hd
      exact ⟨a, rfl, .named (h.rule_mem hy) ha hd⟩
  obtain ⟨a, rfl, hneeds⟩ := hneeds
  obtain ⟨y', hy', rfl⟩ := h.exists_yield hneeds.mem_right
  exact ⟨y', hy', rfl, hneeds⟩

/-- The path id of a rule stands for its own steps, or for those of siblings that it needs past
siblings that became nothing, if it became nothing itself. -/
theorem exists_needsPast_of_endOf (h : Siblings w sc yields) (hregular : sc.Regular)
    (hy : y ∈ yields) {e : String} (hend : (sc.table yields).EndOf (sc.pathId y.rule) e) :
    e ∈ ids y.steps ∨ y.steps = [] ∧
      ∃ y' ∈ yields, e ∈ ids y'.steps ∧ sc.NeedsPast (Silent yields) y.rule y'.rule := by
  obtain ⟨hleads, hends⟩ := hend
  generalize hx : sc.pathId y.rule = x at hleads
  induction hleads using ReflTransGen.head_induction_on generalizing y with
  | refl =>
    subst hx
    have hstands : y.stands = [sc.pathId y.rule] := by
      rcases hends with hnone | hself
      · rw [h.lookupField_table hy] at hnone
        cases hnone
      · rw [h.lookupField_table hy] at hself
        exact Option.some.inj hself
    rcases mem_stands.1 (hstands ▸ List.mem_singleton_self _) with ⟨-, hdep⟩ | hemitted
    · obtain ⟨y', hy', hid, hneeds⟩ := h.exists_of_mem_deps hregular hy hdep
      -- A rule that became nothing and stands for itself would need itself.
      obtain rfl : y' = y := h.eq_of_mem_idsFrom hy' hy (Scope.pathId_mem_idsFrom sc _)
        (hid ▸ Scope.pathId_mem_idsFrom sc _)
      exact absurd (TransGen.single hneeds) (hregular.acyclic _)
    · exact Or.inl hemitted
  | head hstep hrest ih =>
    subst hx
    obtain ⟨targets, hlookup, -, hz⟩ := hstep
    obtain rfl := Option.some.inj ((h.lookupField_table hy).symm.trans hlookup)
    rcases mem_stands.1 hz with ⟨hsilent, hdep⟩ | hemitted
    · obtain ⟨between, hbetween, hid, hneeds⟩ := h.exists_of_mem_deps hregular hy hdep
      right
      rcases ih hbetween hid with he | ⟨hpassed, y', hy', he, hroute⟩
      · exact ⟨hsilent, between, hbetween, he, .direct hneeds⟩
      · exact ⟨hsilent, y', hy', he, .past hneeds ⟨between, hbetween, rfl, hpassed⟩ hroute⟩
    · obtain rfl := (h.ends_of_emitted hy hemitted).endOf_iff.1 ⟨hrest, hends⟩
      exact Or.inl hemitted

/-- What a rule depends on stands for steps of siblings that the rule needs, past siblings that became
nothing. -/
theorem exists_needsPast_of_mem_deps (h : Siblings w sc yields) (hregular : sc.Regular)
    (hy : y ∈ yields) {x e : String} (hx : x ∈ y.deps) (hend : (sc.table yields).EndOf x e) :
    ∃ y' ∈ yields, e ∈ ids y'.steps ∧ sc.NeedsPast (Silent yields) y.rule y'.rule := by
  obtain ⟨between, hbetween, rfl, hneeds⟩ := h.exists_of_mem_deps hregular hy hx
  rcases h.exists_needsPast_of_endOf hregular hbetween hend with he | ⟨hpassed, y', hy', he, hroute⟩
  · exact ⟨between, hbetween, he, .direct hneeds⟩
  · exact ⟨y', hy', he, .past hneeds ⟨between, hbetween, rfl, hpassed⟩ hroute⟩

theorem exists_of_mem_deps_of_endOf (h : Siblings w sc yields) (hregular : sc.Regular)
    (hy : y ∈ yields) {x e : String} (hx : x ∈ y.deps) (hend : (sc.table yields).EndOf x e) :
    ∃ y' ∈ yields, e ∈ ids y'.steps ∧ TransGen sc.Needs y.rule y'.rule := by
  obtain ⟨y', hy', he, hroute⟩ := h.exists_needsPast_of_mem_deps hregular hy hx hend
  exact ⟨y', hy', he, hroute.transGen⟩

end Siblings

end Remediation.Expansion
