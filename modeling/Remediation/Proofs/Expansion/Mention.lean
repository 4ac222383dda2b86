import Remediation.Proofs.Expansion.Siblings
/-!
# Names that steps depend on

Resolving dependencies invents no names: whatever the steps of a scope depend on is the path id of a
rule within the scope, or an id that such a rule names (`mentions_of_expand`).
-/

set_option autoImplicit false

namespace Remediation.Expansion

open Relation
open Schedule (ids)

variable {w : Setting} {sc : Scope} {yields : List Yield} {y : Yield} {d : String}

/-- A name is the path id of a rule within a scope, or such a rule depends on it. -/
def Scope.Mentions (w : Setting) (sc : Scope) (d : String) : Prop :=
  d ∈ sc.ids w ∨
    ∃ inner, Scope.Within w sc inner ∧ ∃ r ∈ inner.rules, d ∈ r.dependsOn.map inner.frame.id

theorem Scope.Mentions.below {c : Scope} {r : Rule} (hr : r ∈ sc.rules)
    (hbelow : sc.below? w r = some c) (h : c.Mentions w d) : sc.Mentions w d := by
  rcases h with hid | ⟨inner, hwithin, hnamed⟩
  · exact Or.inl ((Scope.ids_sublist_of_below hr hbelow).subset hid)
  · exact Or.inr ⟨inner, .down hr hbelow hwithin, hnamed⟩

/-- A rule depends on ids that it names, or on the rule in front of it alone. -/
theorem Scope.mem_deps_cases {previous : String} {r : Rule} (h : d ∈ sc.deps previous r) :
    d ∈ r.dependsOn.map sc.frame.id ∨
      previous ≠ "" ∧ d = sc.frame.id previous ∧ sc.deps previous r = [d] := by
  unfold Scope.deps effectiveDeps at h ⊢
  split at h
  next hdefault =>
    obtain rfl : d = sc.frame.id previous := by simpa using h
    exact Or.inr ⟨hdefault.2.2, rfl, by rw [if_pos hdefault]; rfl⟩
  next => exact Or.inl h

theorem exists_of_lastId {previous : String} {rules : List Rule}
    (h : lastId previous rules ≠ previous) : ∃ a ∈ rules, a.id = lastId previous rules := by
  unfold lastId at h ⊢
  cases hlast : rules.getLast? with
  | none => simp [hlast] at h
  | some a => exact ⟨a, List.mem_of_getLast? hlast, rfl⟩

namespace Siblings

theorem mentions_of_mem_deps (h : Siblings w sc yields) (hy : y ∈ yields) (hd : d ∈ y.deps) :
    sc.Mentions w d := by
  obtain ⟨before, behind, hrules, hdeps⟩ := h.deps y hy
  rw [hdeps] at hd
  rcases Scope.mem_deps_cases hd with hnamed | ⟨hprevious, rfl, -⟩
  · exact Or.inr ⟨sc, .self, y.rule, h.rule_mem hy, hnamed⟩
  · obtain ⟨a, ha, hid⟩ := exists_of_lastId hprevious
    have hrule : a ∈ sc.rules := by
      rw [hrules]
      exact List.mem_append_left _ ha
    have hown : sc.pathId a ∈ sc.ids w :=
      (Scope.idsFrom_sublist_ids hrule).subset (Scope.pathId_mem_idsFrom sc a)
    rw [← hid]
    exact Or.inl hown

/-- A name that stands for something is the path id of a rule. -/
theorem exists_of_lookupField (h : Siblings w sc yields) {name : String} {targets : List String}
    (hlookup : lookupField (sc.table yields) name = some targets) :
    ∃ y ∈ yields, sc.pathId y.rule = name ∧ y.stands = targets := by
  by_cases hsibling : ∃ y ∈ yields, sc.pathId y.rule = name
  · obtain ⟨y, hy, rfl⟩ := hsibling
    exact ⟨y, hy, rfl, Option.some.inj ((h.lookupField_table hy).symm.trans hlookup)⟩
  · have hfree : ∀ y ∈ yields, sc.pathId y.rule ≠ name := fun y hy heq => hsibling ⟨y, hy, heq⟩
    have hnone : lookupField (sc.table yields) name = none := lookupField_collect_of_ne .start hfree
    rw [hnone] at hlookup
    cases hlookup

theorem mentions_of_leads (h : Siblings w sc yields) {a b : String}
    (hleads : (sc.table yields).Leads a b) : sc.Mentions w b := by
  obtain ⟨targets, hlookup, -, hmem⟩ := hleads
  obtain ⟨y, hy, -, rfl⟩ := h.exists_of_lookupField hlookup
  rcases mem_stands.1 hmem with ⟨-, hdep⟩ | hemitted
  · exact h.mentions_of_mem_deps hy hdep
  · have hid := h.ids_subset hy hemitted
    exact Or.inl ((Scope.idsFrom_sublist_ids (h.rule_mem hy)).subset hid)

end Siblings

/-- The steps of a scope depend on names that the scope mentions. -/
theorem mentions_of_expand (hunique : (sc.ids w).Nodup) (hnamed : sc.Identified w)
    {planned last : List String} {steps : List Step}
    (hexpand : sc.expand w planned = (.ok steps, last)) {t : Step} (ht : t ∈ steps)
    (hd : d ∈ t.dependsOn) : sc.Mentions w d := by
  induction sc using Scope.induction w generalizing planned last steps t d with
  | _ sc ih =>
    obtain ⟨yields, hyields, rfl⟩ := Scope.expand_eq_ok_iff.1 hexpand
    have h := hyields.siblings hunique (hnamed sc .self)
    obtain ⟨y, hy, s, hs, rfl⟩ := mem_finish.1 ht
    obtain ⟨x, hx, hleads, -⟩ := mem_dependsOn_settled.1 hd
    have hmentioned : sc.Mentions w x := by
      rcases hx with hown | ⟨-, hdep⟩
      · obtain ⟨before, next, hbecame⟩ := h.became y hy
        have hrule := h.rule_mem hy
        rcases hbecame.cases with hnil | ⟨c, _, _, hbelow, hinner⟩ | ⟨-, params, hleaf⟩
        · simp [hnil] at hs
        · refine (ih y.rule hrule c hbelow ?_ ?_ hinner hs hown).below hrule hbelow
          · exact (Scope.ids_sublist_of_below hrule hbelow).nodup hunique
          · exact hnamed.below hrule hbelow
        · obtain rfl := List.mem_singleton.1 (hleaf ▸ hs)
          exact h.mentions_of_mem_deps hy hown
      · exact h.mentions_of_mem_deps hy hdep
    rcases ReflTransGen.cases_tail hleads with rfl | ⟨between, -, hlast⟩
    · exact hmentioned
    · exact h.mentions_of_leads hlast

end Remediation.Expansion
