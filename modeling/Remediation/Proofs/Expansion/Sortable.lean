import Remediation.Proofs.Expansion.Passage
import Remediation.Proofs.Schedule.Sort
/-!
# Well-formed rules are sorted

What well-formed rules become can be sorted: every dependency of a step is there, and no dependencies
form a cycle (`Sortable`).  A dependency that leaves its rule goes to a step of a sibling that the rule
needs (`Siblings.exists_of_mem_deps_of_endOf`); a dependency that stays below its rule was there
before.  A cycle would therefore be one of siblings, or one below a single rule.
-/

set_option autoImplicit false

namespace Remediation.Expansion

open Relation
open Schedule (ids Names Closed)

variable {w : Setting} {sc : Scope} {yields : List Yield} {y y' : Yield}

/-- Steps that can be sorted if their ids are different. -/
structure Sortable (steps : List Step) : Prop where
  closed : Closed steps
  acyclic : Acyclic (Names steps)
  plain : ∀ s ∈ steps, s.outputRefs = []

theorem sortable_nil : Sortable [] where
  closed := by simp [Closed]
  acyclic := by
    refine acyclic_of_rank (fun _ => 0) ?_
    rintro a b ⟨s, hs, -⟩
    simp at hs
  plain := by simp

theorem Sortable.exists_sorted {steps : List Step} (h : Sortable steps) (hnodup : (ids steps).Nodup) :
    ∃ sorted, (Schedule.sort steps).sorted = .ok sorted := by
  have hrequires {s : Step} (hs : s ∈ steps) {d : String} : s.Requires d ↔ d ∈ s.dependsOn :=
    Step.requires_iff_of_outputRefs_eq_nil (h.plain s hs)
  refine Schedule.exists_sorted hnodup ?_ (h.acyclic.mono ?_)
  · intro s hs d hd
    exact h.closed s hs d ((hrequires hs).1 hd)
  · rintro a b ⟨s, hs, hid, hd⟩
    exact ⟨s, hs, hid, (hrequires hs).1 hd⟩

/-- The steps of a rule have its dependencies, or can be sorted by themselves. -/
def Yield.Sound (y : Yield) : Prop :=
  (∀ s ∈ y.steps, s.dependsOn = y.deps ∧ s.outputRefs = []) ∨ Sortable y.steps

theorem Yield.Sound.plain (h : y.Sound) {s : Step} (hs : s ∈ y.steps) : s.outputRefs = [] := by
  rcases h with hown | hsortable
  · exact (hown s hs).2
  · exact hsortable.plain s hs

/-! ## Where dependencies go -/

namespace Siblings

/-- A dependency of a scope goes to a sibling that its rule needs, or it was there below the rule. -/
theorem edge_cases (h : Siblings w sc yields) (hwf : sc.WellFormed w)
    (hsound : ∀ y ∈ yields, y.Sound) {x d : String}
    (hnames : Names (sc.collect .start yields).finish x d) :
    ∃ y ∈ yields, x ∈ ids y.steps ∧
      ((∃ y' ∈ yields, d ∈ ids y'.steps ∧ TransGen sc.Needs y.rule y'.rule) ∨
        Sortable y.steps ∧ Names y.steps x d ∧ d ∈ ids y.steps) := by
  obtain ⟨t, ht, rfl, hd⟩ := hnames
  obtain ⟨y, hy, s, hs, rfl⟩ := mem_finish.1 ht
  rw [settled_id]
  refine ⟨y, hy, List.mem_map_of_mem hs, ?_⟩
  obtain ⟨x, hx, hend⟩ := mem_dependsOn_settled.1 hd
  rcases hx with hown | ⟨-, hdep⟩
  · rcases hsound y hy with hleaf | hsortable
    · exact Or.inl (h.exists_of_mem_deps_of_endOf hwf.regular hy ((hleaf s hs).1 ▸ hown) hend)
    · have hemitted : x ∈ ids y.steps := hsortable.closed s hs x hown
      obtain rfl := (h.ends_of_emitted hy hemitted).endOf_iff.1 hend
      exact Or.inr ⟨hsortable, ⟨s, hs, rfl, hown⟩, hemitted⟩
  · exact Or.inl (h.exists_of_mem_deps_of_endOf hwf.regular hy hdep hend)

/-! ## No cycle -/

end Siblings

/-- The rule by which, or below which, the step of an id was made. -/
def origin (yields : List Yield) (x : String) : Rule :=
  ((yields.find? fun y => x ∈ ids y.steps).map Yield.rule).getD default

namespace Siblings

theorem origin_eq (h : Siblings w sc yields) (hy : y ∈ yields) {x : String}
    (hx : x ∈ ids y.steps) : origin yields x = y.rule := by
  unfold origin
  cases hfind : yields.find? fun y => x ∈ ids y.steps with
  | none =>
    have hnone := List.find?_eq_none.1 hfind y hy
    simp [hx] at hnone
  | some y' =>
    have hx' : x ∈ ids y'.steps := by simpa using List.find?_some hfind
    obtain rfl := h.eq_of_mem_ids hy (List.mem_of_find?_eq_some hfind) hx hx'
    rfl

/-- A dependency between steps of one rule was there below the rule. -/
theorem names_of_origin_eq (h : Siblings w sc yields) (hwf : sc.WellFormed w)
    (hsound : ∀ y ∈ yields, y.Sound) {x d : String}
    (hnames : Names (sc.collect .start yields).finish x d)
    (hsame : origin yields d = origin yields x) :
    ∃ y ∈ yields, y.rule = origin yields x ∧ Sortable y.steps ∧ Names y.steps x d := by
  obtain ⟨y, hy, hx, ⟨y', hy', hd, hneeds⟩ | ⟨hsortable, hinside, -⟩⟩ :=
    h.edge_cases hwf hsound hnames
  · rw [h.origin_eq hy hx, h.origin_eq hy' hd] at hsame
    exact absurd (hsame ▸ hneeds) (hwf.acyclic y.rule)
  · exact ⟨y, hy, (h.origin_eq hy hx).symm, hsortable, hinside⟩

/-- The steps of well-formed siblings can be sorted if those below each of them can. -/
theorem sortable_finish (h : Siblings w sc yields) (hwf : sc.WellFormed w)
    (hsound : ∀ y ∈ yields, y.Sound) :
    Sortable (sc.collect .start yields).finish where
  closed := by
    intro t ht d hd
    obtain ⟨y, hy, -, ⟨y', hy', hemitted, -⟩ | ⟨-, -, hemitted⟩⟩ :=
      h.edge_cases hwf hsound ⟨t, ht, rfl, hd⟩
    · exact mem_ids_finish.2 ⟨y', hy', hemitted⟩
    · exact mem_ids_finish.2 ⟨y, hy, hemitted⟩
  acyclic := by
    refine acyclic_of_fibres (origin yields) hwf.acyclic ?_ ?_
    · intro r x hcycle
      have hstep {a b : String} (hab : Names (sc.collect .start yields).finish a b ∧
          origin yields a = r ∧ origin yields b = r) :
          ∃ y ∈ yields, y.rule = r ∧ Sortable y.steps ∧ Names y.steps a b := by
        obtain ⟨hnames, rfl, hb⟩ := hab
        exact h.names_of_origin_eq hwf hsound hnames hb
      obtain ⟨b, hfirst, -⟩ := TransGen.head'_iff.1 hcycle
      obtain ⟨y, hy, hrule, hsortable, -⟩ := hstep hfirst
      refine hsortable.acyclic.mono ?_ x hcycle
      intro a b hab
      obtain ⟨y', hy', hrule', -, hnames⟩ := hstep hab
      obtain rfl := h.eq_of_rule_eq hy hy' (hrule.trans hrule'.symm)
      exact hnames
    · intro x d hnames hother
      obtain ⟨y, hy, hx, ⟨y', hy', hd, hneeds⟩ | ⟨-, -, hd⟩⟩ := h.edge_cases hwf hsound hnames
      · rwa [h.origin_eq hy hx, h.origin_eq hy' hd]
      · exact absurd ((h.origin_eq hy hx).trans (h.origin_eq hy hd).symm) hother
  plain := by
    intro t ht
    obtain ⟨y, hy, s, hs, rfl⟩ := mem_finish.1 ht
    rw [settled_outputRefs]
    exact (hsound y hy).plain hs

end Siblings

/-! ## All depths -/

/-- What well-formed rules with different path ids become can be sorted. -/
theorem sortable_of_expand (hwf : ∀ inner, Scope.Within w sc inner → inner.WellFormed w)
    (hunique : (sc.ids w).Nodup) {planned last : List String} {steps : List Step}
    (h : sc.expand w planned = (.ok steps, last)) : Sortable steps := by
  induction sc using Scope.induction w generalizing planned last steps with
  | _ sc ih =>
    have hself : sc.WellFormed w := hwf sc .self
    obtain ⟨yields, hyields, rfl⟩ := Scope.expand_eq_ok_iff.1 h
    have hsiblings := hyields.siblings hunique hself.named
    refine hsiblings.sortable_finish hself ?_
    intro y hy
    have hrule : y.rule ∈ sc.rules := hsiblings.rule_mem hy
    obtain ⟨before, next, hbecame⟩ := hsiblings.became y hy
    rcases hbecame.cases with hnil | ⟨c, _, _, hbelow, hexpand⟩ | ⟨-, params, hleaf⟩
    · exact Or.inr (hnil ▸ sortable_nil)
    · refine Or.inr (ih y.rule hrule c hbelow ?_ ?_ hexpand)
      · intro inner hwithin
        exact hwf inner (.down hrule hbelow hwithin)
      · exact (Scope.ids_sublist_of_below hrule hbelow).nodup hunique
    · left
      simp [hleaf, leafStep, hself.plain _ hrule]

/-- Well-formed rules are expanded and sorted, whichever of them are left out. -/
theorem exists_sorted_of_wellFormed {rules : List Rule}
    (hwf : ∀ inner, Scope.Within w (.root rules) inner → inner.WellFormed w)
    (hunique : ((Scope.root rules).ids w).Nodup) :
    ∃ steps sorted, run w rules = .ok steps ∧ (Schedule.sort steps).sorted = .ok sorted := by
  obtain ⟨steps, last, hexpand⟩ := exists_expand hwf []
  have hnodup : (ids steps).Nodup := (ids_sublist_of_expand hexpand).nodup hunique
  obtain ⟨sorted, hsorted⟩ := (sortable_of_expand hwf hunique hexpand).exists_sorted hnodup
  refine ⟨steps, sorted, ?_, hsorted⟩
  rw [run_eq_expand, hexpand]

/-! ## A rule file that includes another one -/

/-- Probe, then clean. -/
def prepareRules : List Rule :=
  [bareRule "probe" "probe", { bareRule "clean" "wipe" with dependsOn := ["probe"] }]

/-- A setting with one more rule file. -/
def prepareSetting : Setting :=
  { bareSetting with library := some [("prepare.yaml", .ok prepareRules)] }

/-- Release after a check, which is left out because the included preparation has made it. -/
def shippingRules : List Rule :=
  [{ bareRule "release" "ship" with dependsOn := ["check"] },
   { bareRule "prepare" "" with reference := "prepare.yaml" },
   { bareRule "check" "probe" with dependsOn := ["prepare"], once := true }]

/-- The scope of the included rule file. -/
def prepareScope : Scope := ⟨["prepare.yaml"], ⟨"prepare", []⟩, false, prepareRules⟩

theorem eq_prepareScope_of_below {c : Scope} {r : Rule} (hr : r ∈ shippingRules)
    (hbelow : (Scope.root shippingRules).below? prepareSetting r = some c) : c = prepareScope := by
  have hcomposite : ∀ r ∈ shippingRules, r.isComposite = true →
      r = { bareRule "prepare" "" with reference := "prepare.yaml" } := by
    simp [shippingRules, bareRule, Rule.isComposite]
  rw [hcomposite r hr (Scope.isComposite_of_below hbelow)] at hbelow
  have hprepare : (Scope.root shippingRules).below? prepareSetting
      { bareRule "prepare" "" with reference := "prepare.yaml" } = some prepareScope := by cbv
  exact Option.some.inj (hbelow.symm.trans hprepare)

theorem within_shippingRules {inner : Scope}
    (h : Scope.Within prepareSetting (.root shippingRules) inner) :
    inner = .root shippingRules ∨ inner = prepareScope := by
  cases h with
  | self => exact Or.inl rfl
  | down hr hbelow hinner =>
    obtain rfl := eq_prepareScope_of_below hr hbelow
    have hleaf : ∀ r ∈ prepareScope.rules, r.isComposite = false := by decide
    exact Or.inr (hinner.eq_of_leaves hleaf)

/-- Rules that leave nothing to be evaluated are well formed if what they name comes earlier. -/
theorem wellFormed_of_bare (rank : String → Nat) (hsequential : sc.sequential = false)
    (hoverrides : sc.frame.overrides = [])
    (hbare : ∀ r ∈ sc.rules, r.condition = "" ∧ r.parameters = [] ∧ r.outputRefs = [])
    (hnamed : ∀ r ∈ sc.rules, r.id ≠ "")
    (hsiblings : ∀ r ∈ sc.rules, ∀ d ∈ r.dependsOn, rank d < rank r.id ∧ ∃ a ∈ sc.rules, a.id = d)
    (haction : ∀ r ∈ sc.rules, r.isComposite = false → r.action ≠ "")
    (hreference : ∀ r ∈ sc.rules, r.reference ≠ "" →
      r.reference ∉ sc.history ∧ r.reference = "prepare.yaml") :
    sc.WellFormed prepareSetting where
  named := hnamed
  siblings := fun r hr d hd => (hsiblings r hr d hd).2
  acyclic := by
    refine acyclic_of_rank (fun r => rank r.id) ?_
    intro b a hneeds
    cases hneeds with
    | named hb _ hd => exact (hsiblings b hb _ hd).1
    | behind hsteps => rw [hsequential] at hsteps; cases hsteps
  loaded := by
    intro r hr hne
    obtain ⟨hfresh, hfile⟩ := hreference r hr hne
    refine ⟨hfresh, prepareRules, ?_⟩
    rw [hfile]
    rfl
  plain := fun r hr => (hbare r hr).2.2
  decided := by
    intro r hr
    have hblank : Text.strip r.condition = "" := by
      rw [(hbare r hr).1]
      rfl
    exact ⟨true, applies_of_blank hblank⟩
  leaves := by
    intro r hr hleaf
    refine ⟨haction r hr hleaf, _, [], rfl, ?_⟩
    rw [Frame.parameters, (hbare r hr).2.1, hoverrides]
    rfl

theorem wellFormed_shippingRules {inner : Scope}
    (h : Scope.Within prepareSetting (.root shippingRules) inner) :
    inner.WellFormed prepareSetting := by
  rcases within_shippingRules h with rfl | rfl
  · refine wellFormed_of_bare ["prepare", "check", "release"].idxOf rfl rfl ?_ ?_ ?_ ?_ ?_
    all_goals decide
  · refine wellFormed_of_bare ["probe", "clean"].idxOf rfl rfl ?_ ?_ ?_ ?_ ?_
    all_goals decide

/-- The release is planned and sorted, though the check is left out. -/
theorem exists_sorted_of_wellFormed_shipping :
    ∃ steps sorted, run prepareSetting shippingRules = .ok steps ∧
      (Schedule.sort steps).sorted = .ok sorted := by
  have hids : (Scope.root shippingRules).ids prepareSetting =
      ["release", "prepare", "prepare-probe", "prepare-clean", "check"] := by cbv
  refine exists_sorted_of_wellFormed ?_ ?_
  · intro inner hwithin
    exact wellFormed_shippingRules hwithin
  · rw [hids]
    decide

end Remediation.Expansion
