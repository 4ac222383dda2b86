import Remediation.Proofs.Execution.Supply
import Remediation.Proofs.Expansion.Precedence
import Remediation.Proofs.Expansion.Sequence
/-!
# Outputs of siblings at any depth

Every step that a scope becomes was made by a rule within the scope, and has taken from it its outputs
and the outputs that it refers to (`MadeBy`), whatever has become of its dependencies on the way up.

A rule takes an output of a sibling by its id.  Within a scope the reference is rewritten to the path
id of the sibling, so that it is read as it was meant, if no id on the way down has a point
(`exists_sorted_of_handover`).  A point in one of them ends the source too early: the step then depends
on one that does not exist, and the plan is refused (`sort_pointed`).
-/

set_option autoImplicit false

namespace Remediation.Expansion

open Relation
open Schedule (ids)
open Execution (Refers Chained)

/-! ## Where steps come from -/

section

variable {w : Setting} {sc : Scope} {yields : List Yield} {y : Yield} {s t : Step} {r : Rule}

/-- A step says what a rule with an action says, within the scope of that rule. -/
structure MadeBy (sc : Scope) (r : Rule) (s : Step) : Prop where
  id : s.id = sc.pathId r
  outputs : s.outputs = r.outputs
  outputRefs : s.outputRefs = r.outputRefs.map fun (param, ref) => (param, sc.frame.reference ref)

theorem madeBy_leafStep (sc : Scope) (deps : List String) (r : Rule) (params : Fields) :
    MadeBy sc r (leafStep sc deps r params) := ⟨rfl, rfl, rfl⟩

/-- Settling a step changes only what it depends on. -/
theorem MadeBy.settled {inner : Scope} (h : MadeBy inner r s) :
    MadeBy inner r (sc.settled yields y s) := by
  rw [settled_eq_with]
  exact ⟨h.id, h.outputs, h.outputRefs⟩

/-- Every step that a scope becomes was made by a rule within it. -/
theorem exists_madeBy {planned last : List String} {steps : List Step}
    (h : sc.expand w planned = (.ok steps, last)) (ht : t ∈ steps) :
    ∃ inner r, Scope.Within w sc inner ∧ r ∈ inner.rules ∧ MadeBy inner r t := by
  induction sc using Scope.induction w generalizing planned last steps t with
  | _ sc ih =>
    obtain ⟨yields, hyields, rfl⟩ := Scope.expand_eq_ok_iff.1 h
    obtain ⟨y, hy, s, hs, rfl⟩ := mem_finish.1 ht
    have hrule : y.rule ∈ sc.rules := hyields.rule_mem hy
    obtain ⟨before, next, -, hbecame⟩ := hyields.became hy
    rcases hbecame.cases with hnil | ⟨c, _, _, hbelow, hexpand⟩ | ⟨-, params, hleaf⟩
    · simp [hnil] at hs
    · obtain ⟨inner, r, hwithin, hr, hmade⟩ := ih y.rule hrule c hbelow hexpand hs
      exact ⟨inner, r, .down hrule hbelow hwithin, hr, hmade.settled⟩
    · obtain rfl := List.mem_singleton.1 (hleaf ▸ hs)
      exact ⟨sc, y.rule, .self, hrule, (madeBy_leafStep ..).settled⟩

/-- Where path ids are different, a step that has the path id of a rule with an action was made by
that rule. -/
theorem madeBy_of_within {top : Scope} (hwithin : Scope.Within w top sc)
    (hunique : (top.ids w).Nodup) (hnamed : top.Identified w)
    {planned last : List String} {steps : List Step}
    (hexpand : top.expand w planned = (.ok steps, last)) (hr : r ∈ sc.rules)
    (hleaf : r.isComposite = false) (ht : t ∈ steps) (hid : t.id = sc.pathId r) :
    MadeBy sc r t := by
  induction hwithin generalizing planned last steps t with
  | @self sc =>
    obtain ⟨yields, hyields, rfl⟩ := Scope.expand_eq_ok_iff.1 hexpand
    have h := hyields.siblings hunique (hnamed sc .self)
    obtain ⟨y, hy, rfl⟩ := h.exists_yield hr
    obtain ⟨y', hy', s, hs, rfl⟩ := mem_finish.1 ht
    rw [settled_id] at hid
    obtain rfl : y = y' := h.eq_of_mem_idsFrom hy hy' (Scope.pathId_mem_idsFrom sc y.rule)
      (hid ▸ h.ids_subset hy' (List.mem_map_of_mem hs))
    obtain ⟨before, next, hbecame⟩ := h.became y hy
    rcases hbecame.cases with hnil | ⟨c, _, _, hbelow, -⟩ | ⟨-, params, hstep⟩
    · simp [hnil] at hs
    · rw [Scope.isComposite_of_below hbelow] at hleaf
      cases hleaf
    · obtain rfl := List.mem_singleton.1 (hstep ▸ hs)
      exact (madeBy_leafStep ..).settled
  | @down top c sc between hbetween hbelow hinner ih =>
    obtain ⟨yields, hyields, rfl⟩ := Scope.expand_eq_ok_iff.1 hexpand
    have h := hyields.siblings hunique (hnamed top .self)
    obtain ⟨y, hy, rfl⟩ := h.exists_yield hbetween
    have hfrom : t.id ∈ top.idsFrom w y.rule := by
      rw [Scope.idsFrom_of_below hbelow, hid]
      have hown := (Scope.idsFrom_sublist_ids (w := w) hr).subset (Scope.pathId_mem_idsFrom sc r)
      exact List.mem_cons_of_mem _ (hinner.ids_subset hown)
    have hinside := h.mem_ids_of_mem_idsFrom hy (List.mem_map_of_mem ht) hfrom
    obtain ⟨planned, last, hexpand⟩ := h.expand_of_emitted hy hbelow hinside
    obtain ⟨y', hy', s, hs, rfl⟩ := mem_finish.1 ht
    rw [settled_id] at hinside hid
    obtain rfl := h.eq_of_mem_ids hy hy' hinside (List.mem_map_of_mem hs)
    exact (ih ((Scope.ids_sublist_of_below hbetween hbelow).nodup hunique)
      (hnamed.below hbetween hbelow) hexpand hr hs hid).settled

end

variable {w : Setting} {rules : List Rule} {sc : Scope} {a b : Rule} {param output : String}
  {v : Value}

/-! ## References within a frame -/

theorem Frame.reference_eq (f : Frame) {child : String} (hpoints : '.' ∉ child.toList)
    (output : String) : f.reference (child ++ "." ++ output) = f.id child ++ "." ++ output := by
  have hcut : Text.cut '.' (child ++ "." ++ output) = (child, some output) :=
    Text.cut_append hpoints output
  rw [reference, hcut]

theorem Frame.points_id {f : Frame} (hparent : '.' ∉ f.parent.toList) {child : String}
    (hpoints : '.' ∉ child.toList) : '.' ∉ (f.id child).toList := by
  unfold id
  split
  · exact hpoints
  · simp [hparent, hpoints]

/-! ## A rule that takes an output -/

/-- A rule takes an output that a sibling declares which stands before it, and no other rule takes
any.  The id of the sibling and the name of the output have no points. -/
structure Handover (w : Setting) (rules : List Rule) (sc : Scope) (a b : Rule)
    (param output : String) (v : Value) : Prop where
  within : Scope.Within w (.root rules) sc
  order : ∃ front behind, sc.rules = front ++ b :: behind ∧ a ∈ front
  source : a.isComposite = false
  target : b.isComposite = false
  declared : ∃ fields, a.outputs = some fields ∧ lookupField fields output = some v
  taken : b.outputRefs = [(param, a.id ++ "." ++ output)]
  alone : ∀ inner, Scope.Within w (.root rules) inner → ∀ r ∈ inner.rules,
    inner.pathId r ≠ sc.pathId b → r.outputRefs = []
  id_points : '.' ∉ a.id.toList
  output_ne : output ≠ ""
  output_points : '.' ∉ output.toList

namespace Handover

variable (h : Handover w rules sc a b param output v)
include h

theorem source_mem : a ∈ sc.rules := by
  obtain ⟨front, behind, hsplit, ha⟩ := h.order
  exact hsplit ▸ List.mem_append_left _ ha

theorem target_mem : b ∈ sc.rules := by
  obtain ⟨front, behind, hsplit, -⟩ := h.order
  exact hsplit ▸ List.mem_append_right _ List.mem_cons_self

/-- The reference as it stands in the step. -/
theorem reference_eq :
    sc.frame.reference (a.id ++ "." ++ output) = sc.pathId a ++ "." ++ output :=
  sc.frame.reference_eq h.id_points output

theorem pathIds_sublist : [sc.pathId a, sc.pathId b].Sublist ((Scope.root rules).ids w) := by
  obtain ⟨front, behind, hsplit, ha⟩ := h.order
  have hsiblings : [sc.pathId a, sc.pathId b].Sublist (sc.ids w) :=
    Scope.sublist_ids_of_split hsplit ha (Scope.pathId_mem_idsFrom sc a)
      (Scope.pathId_mem_idsFrom sc b)
  exact hsiblings.trans h.within.ids_sublist

theorem pathId_ne (hunique : ((Scope.root rules).ids w).Nodup) : sc.pathId a ≠ sc.pathId b := by
  intro heq
  have hlt := idxOf_lt_idxOf_of_sublist hunique h.pathIds_sublist
  rw [heq] at hlt
  exact Nat.lt_irrefl _ hlt

/-- A run can read the reference if no id above the siblings has a point. -/
theorem refers (hnamed : a.id ≠ "") (hparent : '.' ∉ sc.frame.parent.toList) :
    Refers (sc.pathId a ++ "." ++ output) (sc.pathId a) output where
  source_ne := fun hempty => hnamed (Scope.pathId_eq_empty_iff.1 hempty)
  output_ne := h.output_ne
  source_points := Frame.points_id hparent h.id_points
  output_points := h.output_points
  eq := rfl

/-! ### The steps that the rules become -/

variable (hnamed : (Scope.root rules).Identified w)
  (hunique : ((Scope.root rules).ids w).Nodup) {last : List String} {steps : List Step}
  (hexpand : (Scope.root rules).expand w [] = (.ok steps, last))
include hnamed hunique hexpand

/-- The step of the rule refers to the step of the sibling, and no other step refers to any. -/
theorem outputRefs_cases {t : Step} (ht : t ∈ steps) : t.outputRefs = [] ∨
    t.id = sc.pathId b ∧ t.outputRefs = [(param, sc.pathId a ++ "." ++ output)] := by
  obtain ⟨inner, r, hwithin, hr, hmade⟩ := exists_madeBy hexpand ht
  by_cases hid : inner.pathId r = sc.pathId b
  · have htarget := madeBy_of_within h.within hunique hnamed hexpand h.target_mem h.target ht
      (hmade.id.trans hid)
    rw [htarget.outputRefs, h.taken]
    exact Or.inr ⟨htarget.id, by simp [h.reference_eq]⟩
  · rw [hmade.outputRefs, h.alone inner hwithin r hr hid]
    exact Or.inl rfl

theorem refers_cases (hparent : '.' ∉ sc.frame.parent.toList) {t : Step} (ht : t ∈ steps)
    {p ref : String} (href : (p, ref) ∈ t.outputRefs) : t.id = sc.pathId b ∧ p = param ∧
      Refers ref (sc.pathId a) output := by
  rcases h.outputRefs_cases hnamed hunique hexpand ht with hnil | ⟨hid, hrefs⟩
  · rw [hnil] at href
    cases href
  · rw [hrefs, List.mem_singleton] at href
    obtain ⟨rfl, rfl⟩ := Prod.mk.inj href
    exact ⟨hid, rfl, h.refers (hnamed sc h.within a h.source_mem) hparent⟩

/-- What a step requires is there and comes earlier among the path ids. -/
theorem rises (hunnamed : (Scope.root rules).Unnamed w) (hparent : '.' ∉ sc.frame.parent.toList)
    (ha : sc.pathId a ∈ ids steps) {t : Step} (ht : t ∈ steps) {d : String} (hd : t.Requires d) :
    d ∈ ids steps ∧ [d, t.id].Sublist ((Scope.root rules).ids w) := by
  rcases hd with hnames | ⟨p, ref, href, htakes⟩
  · exact rising_of_expand hunnamed (.of_nodup hunique) hexpand t ht d hnames
  · obtain ⟨hid, rfl, hrefers⟩ := h.refers_cases hnamed hunique hexpand hparent ht href
    have hother : sc.pathId a ≠ t.id := hid ▸ h.pathId_ne hunique
    obtain rfl := (hrefers.takesFrom hother).unique htakes
    exact ⟨ha, hid ▸ h.pathIds_sublist⟩

/-- The steps can be sorted. -/
theorem exists_sorted (hunnamed : (Scope.root rules).Unnamed w)
    (hparent : '.' ∉ sc.frame.parent.toList) (ha : sc.pathId a ∈ ids steps) :
    ∃ sorted, (Schedule.sort steps).sorted = .ok sorted := by
  have hrises {t : Step} (ht : t ∈ steps) {d : String} (hd : t.Requires d) :=
    h.rises hnamed hunique hexpand hunnamed hparent ha ht hd
  refine Schedule.exists_sorted ((ids_sublist_of_expand hexpand).nodup hunique) ?_ ?_
  · exact fun t ht d hd => (hrises ht hd).1
  · refine acyclic_of_rank ((Scope.root rules).ids w).idxOf ?_
    rintro x d ⟨t, ht, rfl, hd⟩
    exact idxOf_lt_idxOf_of_sublist hunique (hrises ht hd).2

/-- Sorted steps of JSON values are chained. -/
theorem chained (hparent : '.' ∉ sc.frame.parent.toList) (hjson : ∀ s ∈ steps, s.IsJson)
    {sorted : List Step} (hsort : (Schedule.sort steps).sorted = .ok sorted) : Chained sorted := by
  refine Execution.chained_of_sorted hsort ?_ ?_ hjson
  · intro t ht p ref href
    obtain ⟨hid, -, hrefers⟩ := h.refers_cases hnamed hunique hexpand hparent ht href
    exact ⟨_, _, hrefers, hid ▸ h.pathId_ne hunique⟩
  · intro t ht
    rcases h.outputRefs_cases hnamed hunique hexpand ht with hrefs | ⟨-, hrefs⟩
    · rw [hrefs]
      exact List.nodup_nil
    · rw [hrefs]
      exact List.nodup_singleton _

/-- The step of the sibling holds the output that is declared. -/
theorem exists_holds (ha : sc.pathId a ∈ ids steps) :
    ∃ s ∈ steps, s.id = sc.pathId a ∧ s.Holds output v := by
  obtain ⟨s, hs, hid⟩ := List.mem_map.1 ha
  have hmade := madeBy_of_within h.within hunique hnamed hexpand h.source_mem h.source hs hid
  obtain ⟨fields, houtputs, hv⟩ := h.declared
  exact ⟨s, hs, hid, fields, hmade.outputs.trans houtputs, hv⟩

/-- The step of the rule refers to that output. -/
theorem exists_refers (hb : sc.pathId b ∈ ids steps) :
    ∃ t ∈ steps, t.id = sc.pathId b ∧ (param, sc.pathId a ++ "." ++ output) ∈ t.outputRefs := by
  obtain ⟨t, ht, hid⟩ := List.mem_map.1 hb
  have hmade := madeBy_of_within h.within hunique hnamed hexpand h.target_mem h.target ht hid
  refine ⟨t, ht, hid, ?_⟩
  rw [hmade.outputRefs, h.taken]
  simp [h.reference_eq]

end Handover

/-- Where rules name no siblings, and no id above two of them has a point, a rule that takes an
output of the other one becomes a step that depends on the step of that one: the steps are sorted, and
a dry run fills the declared output in.  Parameters and outputs are JSON values. -/
theorem exists_sorted_of_handover {steps : List Step} (h : Handover w rules sc a b param output v)
    (hnamed : ∀ inner, Scope.Within w (.root rules) inner → ∀ r ∈ inner.rules, r.id ≠ "")
    (hunique : ((Scope.root rules).ids w).Nodup) (hunnamed : (Scope.root rules).Unnamed w)
    (hparent : '.' ∉ sc.frame.parent.toList) (hrun : run w rules = .ok steps)
    (ha : sc.pathId a ∈ ids steps) (hb : sc.pathId b ∈ ids steps)
    (hjson : ∀ s ∈ steps, s.IsJson) :
    ∃ sorted, (Schedule.sort steps).sorted = .ok sorted ∧
      (∃ t ∈ sorted, t.id = sc.pathId b ∧ sc.pathId a ∈ t.dependsOn) ∧
      ∀ {σ : Type} (backend : Backend σ) (o : RunOptions) (state : σ), o.dryRun = true →
        (Execution.run backend o sorted [] state).result = .ok ⟨sorted.length, 0, sorted.length⟩ ∧
        ∃ t ∈ (Execution.run backend o sorted [] state).steps, t.id = sc.pathId b ∧
          lookupField t.params param = some v := by
  rw [run_eq_expand] at hrun
  have hexpand : (Scope.root rules).expand w [] = (.ok steps, _) := Prod.ext hrun rfl
  obtain ⟨sorted, hsort⟩ := h.exists_sorted hnamed hunique hexpand hunnamed hparent ha
  have hchained := h.chained hnamed hunique hexpand hparent hjson hsort
  obtain ⟨s, hs, hsid, hholds⟩ := h.exists_holds hnamed hunique hexpand ha
  obtain ⟨t, ht, htid, href⟩ := h.exists_refers hnamed hunique hexpand hb
  have hrefers : Refers (sc.pathId a ++ "." ++ output) (sc.pathId a) output :=
    h.refers (hnamed sc h.within a h.source_mem) hparent
  have hsorted {u : Step} (hu : u ∈ steps) : u.withSources ∈ sorted :=
    (Schedule.perm_and_inOrder_of_sorted hsort).1.mem_iff.2 (List.mem_map_of_mem hu)
  refine ⟨sorted, hsort, ⟨t.withSources, hsorted ht, htid, ?_⟩, ?_⟩
  · have hother : sc.pathId a ≠ t.id := htid ▸ h.pathId_ne hunique
    exact Step.mem_dependsOn_withSources.2 (Or.inr ⟨_, _, href, hrefers.takesFrom hother⟩)
  · intro σ backend o state hdry
    obtain ⟨hresult, hfilled⟩ := hchained.run_dry backend state hdry (by
      intro u hu p ref source output' hmem hreads
      obtain ⟨u', hu', rfl⟩ := List.mem_map.1
        ((Schedule.perm_and_inOrder_of_sorted hsort).1.mem_iff.1 hu)
      obtain ⟨-, -, hmeant⟩ := h.refers_cases hnamed hunique hexpand hparent hu' hmem
      obtain ⟨rfl, rfl⟩ := hreads.unique hmeant
      exact ⟨s.withSources, hsorted hs, hsid, v, hholds⟩)
    refine ⟨hresult, ?_⟩
    obtain ⟨t', ht', hid, hparams⟩ := hfilled t.withSources (hsorted ht)
    obtain ⟨s', hs', hsid', v', ⟨fields', houtputs', hv'⟩, hparam⟩ :=
      hparams _ _ _ _ href hrefers
    obtain rfl : s' = s.withSources :=
      Schedule.eq_of_id_eq hchained.nodup hs' (hsorted hs) (hsid'.trans hsid.symm)
    obtain ⟨fields, houtputs, hv⟩ := hholds
    obtain rfl := Option.some.inj (houtputs'.symm.trans houtputs)
    obtain rfl := Option.some.inj (hv'.symm.trans hv)
    exact ⟨t', ht', hid.trans htid, hparam⟩

/-! ## Staging a file -/

/-- The rule that writes a file. -/
def writeRule : Rule :=
  { bareRule "write" "write" with outputs := some [("file", .text "SECURITY.md")] }

/-- The rule that stages it. -/
def stageRule : Rule := { bareRule "stage" "stage" with outputRefs := [("path", "write.file")] }

/-- Both rules below one of some id. -/
def stagingRules (parent : String) : List Rule :=
  [{ bareRule parent "" with steps := [writeRule, stageRule] }]

/-- The scope of both. -/
def stagingScope (parent : String) : Scope := ⟨[], ⟨parent, []⟩, true, [writeRule, stageRule]⟩

variable {parent : String}

theorem below_stagingRules {r : Rule} (hr : r ∈ stagingRules parent) :
    (Scope.root (stagingRules parent)).below? bareSetting r = some (stagingScope parent) := by
  obtain rfl := List.mem_singleton.1 hr
  have hid : (Scope.root (stagingRules parent)).pathId
      { bareRule parent "" with steps := [writeRule, stageRule] } = parent := by
    simp [Scope.pathId, Scope.root, Frame.root, Frame.id, bareRule]
  rw [Scope.below?_of_steps rfl (List.cons_ne_nil _ _), hid]
  rfl

theorem within_stagingRules {inner : Scope}
    (h : Scope.Within bareSetting (.root (stagingRules parent)) inner) :
    inner = .root (stagingRules parent) ∨ inner = stagingScope parent := by
  cases h with
  | self => exact Or.inl rfl
  | down hr hbelow hinner =>
    obtain rfl := Option.some.inj ((below_stagingRules hr).symm.trans hbelow)
    have hleaf : ∀ r ∈ (stagingScope parent).rules, r.isComposite = false := by
      simp [stagingScope, writeRule, stageRule, bareRule, Rule.isComposite]
    exact Or.inr (hinner.eq_of_leaves hleaf)

theorem handover_stagingRules (parent : String) :
    Handover bareSetting (stagingRules parent) (stagingScope parent) writeRule stageRule "path" "file"
      (.text "SECURITY.md") where
  within := .down (List.mem_singleton_self _) (below_stagingRules (List.mem_singleton_self _)) .self
  order := ⟨[writeRule], [], rfl, List.mem_singleton_self _⟩
  source := rfl
  target := rfl
  declared := ⟨_, rfl, rfl⟩
  taken := rfl
  alone := by
    intro inner hwithin r hr hid
    rcases within_stagingRules hwithin with rfl | rfl
    · obtain rfl := List.mem_singleton.1 hr
      rfl
    · rcases List.mem_cons.1 hr with rfl | hr
      · rfl
      · obtain rfl := List.mem_singleton.1 hr
        exact absurd rfl hid
  id_points := by decide
  output_ne := by decide
  output_points := by decide

/-- The steps that the rules become. -/
def stagingSteps (parent : String) : List Step :=
  [⟨parent ++ "-write", "write", [], "", [], some [("file", .text "SECURITY.md")], [], .pending,
      none⟩,
   ⟨parent ++ "-stage", "stage", [], "", [parent ++ "-write"], none,
      [("path", parent ++ "-write.file")], .pending, none⟩]

theorem isJson_of_mem_stagingSteps : ∀ s ∈ stagingSteps parent, s.IsJson := by
  intro s hs
  rcases List.mem_cons.1 hs with rfl | hs
  · refine ⟨List.forall_mem_nil _, fun outputs heq e he => ?_⟩
    obtain rfl := Option.some.inj heq
    obtain rfl := List.mem_singleton.1 he
    exact .text _
  · obtain rfl := List.mem_singleton.1 hs
    exact .of_empty rfl rfl

theorem unnamed_stagingRules : (Scope.root (stagingRules parent)).Unnamed bareSetting := by
  intro inner hwithin r hr
  rcases within_stagingRules hwithin with rfl | rfl
  · obtain rfl := List.mem_singleton.1 hr
    rfl
  · rcases List.mem_cons.1 hr with rfl | hr
    · rfl
    · obtain rfl := List.mem_singleton.1 hr
      rfl

/-- Below a rule of an id without points, the file is staged behind the rule that writes it. -/
theorem exists_sorted_of_handover_policy :
    run bareSetting (stagingRules "policy") = .ok (stagingSteps "policy") ∧
    ∃ sorted, (Schedule.sort (stagingSteps "policy")).sorted = .ok sorted ∧
      (∃ t ∈ sorted, t.id = "policy-stage" ∧ "policy-write" ∈ t.dependsOn) ∧
      ∀ {σ : Type} (backend : Backend σ) (o : RunOptions) (state : σ), o.dryRun = true →
        (Execution.run backend o sorted [] state).result = .ok ⟨sorted.length, 0, sorted.length⟩ ∧
        ∃ t ∈ (Execution.run backend o sorted [] state).steps, t.id = "policy-stage" ∧
          lookupField t.params "path" = some (.text "SECURITY.md") := by
  have hids : (Scope.root (stagingRules "policy")).ids bareSetting =
      ["policy", "policy-write", "policy-stage"] := by cbv
  have hnamed : ∀ inner, Scope.Within bareSetting (.root (stagingRules "policy")) inner →
      ∀ r ∈ inner.rules, r.id ≠ "" := by
    intro inner hwithin r hr
    exact hwithin.id_ne_empty (by simp [hids]) hr
  have hrun : run bareSetting (stagingRules "policy") = .ok (stagingSteps "policy") := by cbv
  refine ⟨hrun, exists_sorted_of_handover (handover_stagingRules "policy") hnamed ?_
    unnamed_stagingRules (by decide) hrun ?_ ?_ isJson_of_mem_stagingSteps⟩
  · rw [hids]
    decide
  · decide
  · decide

/-- Below a rule whose id has a point, the same rules are expanded, but cannot be sorted: the step is
taken to depend on one whose id ends at the point. -/
theorem sort_pointed :
    Handover bareSetting (stagingRules "v1.0") (stagingScope "v1.0") writeRule stageRule "path" "file"
      (.text "SECURITY.md") ∧
    ((Scope.root (stagingRules "v1.0")).ids bareSetting).Nodup ∧
    (Scope.root (stagingRules "v1.0")).Unnamed bareSetting ∧
    run bareSetting (stagingRules "v1.0") = .ok (stagingSteps "v1.0") ∧
    (Schedule.sort (stagingSteps "v1.0")).sorted = .error (.missingDependency "v1.0-stage" "v1") := by
  have hids : (Scope.root (stagingRules "v1.0")).ids bareSetting =
      ["v1.0", "v1.0-write", "v1.0-stage"] := by cbv
  have hsort : (Schedule.sort (stagingSteps "v1.0")).sorted =
      Schedule.arrange ((stagingSteps "v1.0").map Step.withSources) := rfl
  have hsources : (stagingSteps "v1.0").map Step.withSources =
      [⟨"v1.0-write", "write", [], "", [], some [("file", .text "SECURITY.md")], [], .pending, none⟩,
       ⟨"v1.0-stage", "stage", [], "", ["v1.0-write", "v1"], none, [("path", "v1.0-write.file")],
          .pending, none⟩] := rfl
  refine ⟨handover_stagingRules "v1.0", ?_, unnamed_stagingRules, by cbv, ?_⟩
  · rw [hids]
    decide
  · rw [hsort, hsources]
    cbv

end Remediation.Expansion
