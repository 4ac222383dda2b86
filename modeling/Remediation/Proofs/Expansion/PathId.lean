import Mathlib.Data.List.Nodup
import Remediation.Proofs.Expansion.Precedence
/-!
# Ids at any depth

The path id of a rule is its id behind those of the rules above it, with hyphens in between.  Ids that
are told apart in their files make different path ids if no id in a scope goes on, behind a hyphen,
from the id of a sibling that has rules below it (`nodup_ids_of_run`).  Where one does, a rule below
that sibling can have the path id of a rule elsewhere (`sort_joined`).
-/

set_option autoImplicit false

namespace Remediation

/-! ## The ids of a rule file -/

mutual

/-- The ids of a rule and of the rules below it in its file. -/
def Rule.ids : Rule → List String
  | ⟨id, _, _, _, _, _, _, _, _, steps, _, _⟩ => id :: Rule.idsOf steps

/-- The ids of rules and of the rules below them in their file. -/
def Rule.idsOf : List Rule → List String
  | [] => []
  | r :: rs => r.ids ++ Rule.idsOf rs

end

namespace Rule

theorem ids_eq (r : Rule) : r.ids = r.id :: idsOf r.steps := by
  cases r
  rfl

theorem ids_sublist_idsOf {rules : List Rule} {r : Rule} (hr : r ∈ rules) :
    r.ids.Sublist (idsOf rules) := by
  induction rules with
  | nil => cases hr
  | cons a rest ih =>
    rw [idsOf]
    rcases List.mem_cons.1 hr with rfl | hr
    · exact List.sublist_append_left _ _
    · exact (ih hr).trans (List.sublist_append_right _ _)

theorem map_id_sublist_idsOf (rules : List Rule) : (rules.map Rule.id).Sublist (idsOf rules) := by
  induction rules with
  | nil => exact List.Sublist.refl _
  | cons r rest ih =>
    rw [List.map_cons, idsOf, ids_eq, List.cons_append]
    exact (ih.trans (List.sublist_append_right _ _)).cons_cons _

/-- All rules of a file have ids, and no two have the same. -/
structure ToldApart (rules : List Rule) : Prop where
  named : "" ∉ idsOf rules
  unique : (idsOf rules).Nodup

namespace ToldApart

variable {rules : List Rule} {r : Rule}

theorem id_ne_empty (h : ToldApart rules) (hr : r ∈ rules) : r.id ≠ "" := by
  intro hempty
  have hmem : r.id ∈ idsOf rules := (map_id_sublist_idsOf rules).subset (List.mem_map_of_mem hr)
  exact h.named (hempty ▸ hmem)

theorem nodup_map_id (h : ToldApart rules) : (rules.map Rule.id).Nodup :=
  (map_id_sublist_idsOf rules).nodup h.unique

theorem steps (h : ToldApart rules) (hr : r ∈ rules) : ToldApart r.steps := by
  have hsublist : (idsOf r.steps).Sublist (idsOf rules) := by
    have hown := ids_sublist_idsOf hr
    rw [ids_eq] at hown
    exact (List.sublist_cons_self _ _).trans hown
  exact ⟨fun hempty => h.named (hsublist.subset hempty), hsublist.nodup h.unique⟩

end ToldApart

end Rule

namespace Expansion

open Schedule (ids)

variable {w : Setting} {sc c : Scope} {r r' : Rule}

/-- Where the rules of all files are told apart, so are those of all scopes. -/
theorem Scope.Within.toldApart {inner : Scope} (h : Within w sc inner)
    (hfiles : ∀ rule ref found, w.load rule ref = .ok found → Rule.ToldApart found)
    (hrules : Rule.ToldApart sc.rules) : Rule.ToldApart inner.rules := by
  induction h with
  | self => exact hrules
  | down hr hbelow _ ih =>
    refine ih ?_
    rcases below?_cases hbelow with ⟨rules, -, -, hload, rfl⟩ | ⟨-, -, rfl⟩
    · exact hfiles _ _ _ hload
    · exact hrules.steps hr

/-! ## Ids that go on behind a hyphen -/

/-- A text goes on from an id behind a hyphen. -/
def GoesOn (id x : String) : Prop := (id ++ "-").toList <+: x.toList

instance (id x : String) : Decidable (GoesOn id x) :=
  inferInstanceAs (Decidable ((id ++ "-").toList <+: x.toList))

theorem goesOn_append (id rest : String) : GoesOn id (id ++ "-" ++ rest) :=
  ⟨rest.toList, by simp⟩

theorem GoesOn.of_hyphen {a b : String} (h : GoesOn a (b ++ "-")) : a = b ∨ GoesOn a b := by
  have hchars : a.toList ++ ['-'] <+: b.toList ++ ['-'] := by simpa [GoesOn] using h
  rcases List.prefix_concat_iff.1 hchars with heq | hprefix
  · exact Or.inl (String.toList_inj.1 (List.append_cancel_right heq))
  · exact Or.inr (by simpa [GoesOn] using hprefix)

/-- Of two ids from which the same text goes on, one goes on from the other, or they are the same. -/
theorem GoesOn.cases {a b x : String} (ha : GoesOn a x) (hb : GoesOn b x) :
    a = b ∨ GoesOn a b ∨ GoesOn b a := by
  rcases List.prefix_or_prefix_of_prefix ha hb with h | h
  · rcases GoesOn.of_hyphen h with rfl | hlonger
    · exact Or.inl rfl
    · exact Or.inr (Or.inl hlonger)
  · rcases GoesOn.of_hyphen h with rfl | hlonger
    · exact Or.inl rfl
    · exact Or.inr (Or.inr hlonger)

/-- A text is the id of a rule, or goes on from it if the rule stands for others. -/
def Heads (r : Rule) (x : String) : Prop := x = r.id ∨ r.isComposite = true ∧ GoesOn r.id x

namespace Scope

/-- No id of a rule goes on from the id of a sibling that stands for other rules. -/
def Separated (sc : Scope) : Prop :=
  ∀ a ∈ sc.rules, a.isComposite = true → ∀ b ∈ sc.rules, ¬ GoesOn a.id b.id

/-- Siblings that head the same text have the same id. -/
theorem Separated.id_eq (h : sc.Separated) (hr : r ∈ sc.rules) (hr' : r' ∈ sc.rules) {x : String}
    (hx : Heads r x) (hx' : Heads r' x) : r.id = r'.id := by
  rcases hx with rfl | ⟨hcomposite, hlonger⟩
  · rcases hx' with heq | ⟨hcomposite', hlonger'⟩
    · exact heq
    · exact absurd hlonger' (h r' hr' hcomposite' r hr)
  · rcases hx' with rfl | ⟨hcomposite', hlonger'⟩
    · exact absurd hlonger (h r hr hcomposite r' hr')
    · rcases hlonger.cases hlonger' with hsame | hover | hunder
      · exact hsame
      · exact absurd hover (h r hr hcomposite r' hr')
      · exact absurd hunder (h r' hr' hcomposite' r hr)

theorem separated_of_leaves (hleaf : ∀ r ∈ sc.rules, r.isComposite = false) : sc.Separated := by
  intro a ha hcomposite
  rw [hleaf a ha] at hcomposite
  cases hcomposite

/-! ## The path ids of a scope -/

/-- The path ids of a rule and of those below it are headed by the rule, within the frame. -/
theorem exists_heads_of_mem_idsFrom (hnamed : sc.Identified w) (hr : r ∈ sc.rules) {x : String}
    (hx : x ∈ sc.idsFrom w r) : ∃ y ≠ "", Heads r y ∧ x = sc.frame.id y := by
  induction sc using Scope.induction w generalizing r x with
  | _ sc ih =>
    have hid : r.id ≠ "" := hnamed sc .self r hr
    cases hbelow : sc.below? w r with
    | none =>
      rw [idsFrom, hbelow] at hx
      exact ⟨r.id, hid, Or.inl rfl, List.mem_singleton.1 hx⟩
    | some c =>
      rw [idsFrom_of_below hbelow] at hx
      rcases List.mem_cons.1 hx with rfl | hx
      · exact ⟨r.id, hid, Or.inl rfl, rfl⟩
      · rw [ids_eq_flatMap] at hx
        obtain ⟨r', hr', hx⟩ := List.mem_flatMap.1 hx
        obtain ⟨y, hy, -, rfl⟩ := ih r hr c hbelow (hnamed.below hr hbelow) hr' hx
        refine ⟨r.id ++ "-" ++ y, by simp [hid], ?_, id_of_below hbelow hid hy⟩
        exact Or.inr ⟨isComposite_of_below hbelow, goesOn_append r.id y⟩

/-- Siblings of different ids that are separated have no path id in common. -/
theorem disjoint_idsFrom (hnamed : sc.Identified w) (hseparated : sc.Separated) (hr : r ∈ sc.rules)
    (hr' : r' ∈ sc.rules) (hne : r.id ≠ r'.id) :
    List.Disjoint (sc.idsFrom w r) (sc.idsFrom w r') := by
  intro x hx hx'
  obtain ⟨y, hy, hheads, rfl⟩ := exists_heads_of_mem_idsFrom hnamed hr hx
  obtain ⟨y', hy', hheads', heq⟩ := exists_heads_of_mem_idsFrom hnamed hr' hx'
  obtain rfl := sc.frame.id_inj hy hy' heq
  exact hne (hseparated.id_eq hr hr' hheads hheads')

/-- The path ids below a rule are longer than its own. -/
theorem pathId_notMem_ids_of_below (hnamed : sc.Identified w) (hr : r ∈ sc.rules)
    (hbelow : sc.below? w r = some c) : sc.pathId r ∉ c.ids w := by
  intro hmem
  have hid : r.id ≠ "" := hnamed sc .self r hr
  rw [ids_eq_flatMap] at hmem
  obtain ⟨r', hr', hx⟩ := List.mem_flatMap.1 hmem
  obtain ⟨y, hy, -, heq⟩ := exists_heads_of_mem_idsFrom (hnamed.below hr hbelow) hr' hx
  rw [id_of_below hbelow hid hy] at heq
  have hlength := congrArg String.length (sc.frame.id_inj hid (by simp [hid]) heq)
  have hhyphen : "-".length = 1 := by decide
  simp only [String.length_append] at hlength
  omega

/-- Where siblings have different ids and are separated in all scopes, all path ids are different. -/
theorem nodup_ids (hnamed : sc.Identified w)
    (hunique : ∀ inner, Within w sc inner → (inner.rules.map Rule.id).Nodup)
    (hseparated : ∀ inner, Within w sc inner → inner.Separated) : (sc.ids w).Nodup := by
  induction sc using Scope.induction w with
  | _ sc ih =>
    rw [ids_eq_flatMap, List.nodup_flatMap]
    constructor
    · intro r hr
      cases hbelow : sc.below? w r with
      | none => simp [idsFrom, hbelow]
      | some c =>
        rw [idsFrom_of_below hbelow, List.nodup_cons]
        refine ⟨pathId_notMem_ids_of_below hnamed hr hbelow, ?_⟩
        refine ih r hr c hbelow (hnamed.below hr hbelow) ?_ ?_
        · exact fun inner hwithin => hunique inner (.down hr hbelow hwithin)
        · exact fun inner hwithin => hseparated inner (.down hr hbelow hwithin)
    · have hids : sc.rules.Pairwise fun a b => a.id ≠ b.id := List.pairwise_map.1 (hunique sc .self)
      refine hids.imp_of_mem ?_
      intro a b ha hb hne
      exact disjoint_idsFrom hnamed (hseparated sc .self) ha hb hne

end Scope

/-- Where the ids of all files are told apart and siblings are separated in all scopes, the steps that
rules become have different ids, and are not refused for one that stands twice. -/
theorem nodup_ids_of_run {rules : List Rule} {steps : List Step} (hrules : Rule.ToldApart rules)
    (hfiles : ∀ rule ref found, w.load rule ref = .ok found → Rule.ToldApart found)
    (hseparated : ∀ inner, Scope.Within w (.root rules) inner → inner.Separated)
    (hrun : run w rules = .ok steps) :
    (ids steps).Nodup ∧ ∀ id, (Schedule.sort steps).sorted ≠ .error (.duplicateStep id) := by
  have hapart : ∀ inner, Scope.Within w (.root rules) inner → Rule.ToldApart inner.rules :=
    fun inner hwithin => hwithin.toldApart hfiles hrules
  have hnamed : (Scope.root rules).Identified w :=
    fun inner hwithin r hr => (hapart inner hwithin).id_ne_empty hr
  have hunique : ((Scope.root rules).ids w).Nodup :=
    Scope.nodup_ids hnamed (fun inner hwithin => (hapart inner hwithin).nodup_map_id) hseparated
  rw [run_eq_expand] at hrun
  have hnodup : (ids steps).Nodup := (ids_sublist_of_expand (Prod.ext hrun rfl)).nodup hunique
  refine ⟨hnodup, ?_⟩
  intro id herror
  rcases Schedule.sort_cases steps with ⟨e, he, hrefusal⟩ | ⟨-, -, -, sorted, hsorted, -⟩
  · obtain rfl := Except.error.inj (herror.symm.trans he)
    cases hrefusal with
    | repeated hcount =>
      have honce := List.nodup_iff_count_le_one.1 hnodup id
      omega
  · cases herror.symm.trans hsorted

/-! ## A draft in steps, and one in a file -/

/-- A rule file with a draft. -/
def draftSetting : Setting :=
  { bareSetting with library := some [("drafts.yaml", .ok [bareRule "draft" "draft"])] }

/-- A draft is made in the steps of the one rule, and by the file that the other one includes. -/
def draftRules (other : String) : List Rule :=
  [{ bareRule "docs" "" with steps := [bareRule "write-draft" "draft"] },
   { bareRule other "" with reference := "drafts.yaml" }]

/-- The steps of both drafts. -/
def draftSteps (other : String) : List Step :=
  [bareStep "docs-write-draft" "draft" [], bareStep (other ++ "-draft") "draft" []]

theorem eq_of_load_draftSetting {rule ref : String} {found : List Rule}
    (h : draftSetting.load rule ref = .ok found) : found = [bareRule "draft" "draft"] := by
  have hmem := List.mem_singleton.1 (Setting.mem_of_load rfl h)
  exact Except.ok.inj (Prod.mk.inj hmem).2

theorem toldApart_of_load {rule ref : String} {found : List Rule}
    (h : draftSetting.load rule ref = .ok found) : Rule.ToldApart found := by
  rw [eq_of_load_draftSetting h]
  exact ⟨by decide, by decide⟩

theorem within_draftRules {other : String} {inner : Scope}
    (h : Scope.Within draftSetting (.root (draftRules other)) inner) :
    inner = .root (draftRules other) ∨ ∀ r ∈ inner.rules, r.isComposite = false := by
  cases h with
  | self => exact Or.inl rfl
  | @down _ c _ r hr hbelow hinner =>
    have hleaf : ∀ r ∈ c.rules, r.isComposite = false := by
      rcases Scope.below?_cases hbelow with ⟨found, -, -, hload, rfl⟩ | ⟨-, -, rfl⟩
      · obtain rfl := eq_of_load_draftSetting hload
        simp [bareRule, Rule.isComposite]
      · rcases List.mem_cons.1 hr with rfl | hr
        · simp [bareRule, Rule.isComposite]
        · obtain rfl := List.mem_singleton.1 hr
          simp [bareRule]
    exact Or.inr (hinner.eq_of_leaves hleaf ▸ hleaf)

/-- Below rules that are separated both drafts have their own ids. -/
theorem nodup_ids_of_run_notes : Rule.ToldApart (draftRules "notes") ∧
    run draftSetting (draftRules "notes") = .ok (draftSteps "notes") ∧
    (ids (draftSteps "notes")).Nodup ∧
    ∀ id, (Schedule.sort (draftSteps "notes")).sorted ≠ .error (.duplicateStep id) := by
  have hrules : Rule.ToldApart (draftRules "notes") := ⟨by decide, by decide⟩
  have hrun : run draftSetting (draftRules "notes") = .ok (draftSteps "notes") := by cbv
  have hseparated : (Scope.root (draftRules "notes")).Separated := by
    unfold Scope.Separated
    decide
  refine ⟨hrules, hrun, nodup_ids_of_run hrules (fun _ _ _ => toldApart_of_load) ?_ hrun⟩
  intro inner hwithin
  rcases within_draftRules hwithin with rfl | hleaf
  · exact hseparated
  · exact Scope.separated_of_leaves hleaf

/-- A rule whose id goes on from that of its sibling gives its draft the same id. -/
theorem sort_joined : Rule.ToldApart (draftRules "docs-write") ∧
    (∀ rule ref found, draftSetting.load rule ref = .ok found → Rule.ToldApart found) ∧
    run draftSetting (draftRules "docs-write") = .ok (draftSteps "docs-write") ∧
    ¬ (ids (draftSteps "docs-write")).Nodup ∧
    (Schedule.sort (draftSteps "docs-write")).sorted = .error (.duplicateStep "docs-write-draft") := by
  refine ⟨⟨by decide, by decide⟩, fun _ _ _ => toldApart_of_load, by cbv, by decide, ?_⟩
  rfl

end Expansion

end Remediation
