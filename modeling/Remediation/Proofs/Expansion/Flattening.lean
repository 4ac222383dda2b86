import Mathlib.Data.List.Forall2
import Mathlib.Data.List.Induction
import Remediation.Proofs.Expansion.Precedence
/-!
# Expansion flattens the tree of rules

The tree of scopes below the root has leaves: the rules with actions, each below the rules on the way
down to it.  Expansion plans one step for every leaf on whose way all conditions hold, in the order of
the rules, unless it is to be planned once and its action is planned already (`expand_eq_flatten`).

What has been planned goes from each rule to the next one, across all scopes.  It is therefore a
parameter of the flattening, and leaves behind others are flattened where those have left off
(`flatten_append`).

How a step comes from its leaf is a relation of its own (`Scope.Plans`): what steps have from their
leaves follows by induction on the way down to these.
-/

set_option autoImplicit false

namespace Remediation

/-- Whether the condition of a rule holds; a blank one does. -/
def Rule.holds (facts : Facts) (r : Rule) : Bool :=
  Text.strip r.condition = "" ||
    match Condition.holds r.condition facts with
    | .ok b => b
    | .error _ => false

namespace Expansion

variable {w : Setting} {sc c : Scope} {r : Rule} {f : Frame} {s : Step} {steps : List Step}
  {planned next last : List String} {yields : List Yield}

theorem holds_of_applies {id : String} {b : Bool} (h : applies w id r = .ok b) :
    r.holds w.facts = b := by
  unfold applies at h
  unfold Rule.holds
  split at h
  next hblank =>
    obtain rfl := Except.ok.inj h
    simp [hblank]
  next hcondition =>
    cases hdecided : Condition.holds r.condition w.facts with
    | error e =>
      rw [hdecided] at h
      cases h
    | ok found =>
      rw [hdecided] at h
      obtain rfl := Except.ok.inj h
      simp [hcondition]

/-! ## Leaves -/

/-- A rule that does not stand for others, and the rules that it stands below, outermost first. -/
structure Leaf where
  above : List Rule
  rule : Rule

namespace Leaf

/-- The rules on the way down to a leaf, itself included. -/
def path (l : Leaf) : List Rule := l.above ++ [l.rule]

/-- The ids on the way down, joined by hyphens. -/
def id (l : Leaf) : String := Text.join "-" (l.path.map Rule.id)

/-- Whether all conditions on the way down hold. -/
def holds (facts : Facts) (l : Leaf) : Bool := l.path.all (Rule.holds facts)

/-- A leaf as it is seen from a rule above its way. -/
def under (r : Rule) (l : Leaf) : Leaf := ⟨r :: l.above, l.rule⟩

@[simp] theorem rule_under (r : Rule) (l : Leaf) : (l.under r).rule = l.rule := rfl

theorem id_single (r : Rule) : (⟨[], r⟩ : Leaf).id = r.id := by
  simp [id, path, Text.join]

theorem id_under (r : Rule) (l : Leaf) : (l.under r).id = r.id ++ "-" ++ l.id := by
  obtain ⟨above, rule⟩ := l
  cases above <;> simp [id, path, under, Text.join, String.append_assoc]

theorem holds_under (facts : Facts) (r : Rule) (l : Leaf) :
    (l.under r).holds facts = (r.holds facts && l.holds facts) := by
  simp [holds, path, under]

end Leaf

namespace Scope

/-- The leaves of a scope and of all scopes below it, in the order of the rules. -/
def leaves (w : Setting) (sc : Scope) : List Leaf :=
  sc.rules.attach.flatMap fun ⟨r, _hr⟩ =>
    if r.isComposite then
      match _h : sc.below? w r with
      | some c => (c.leaves w).map (.under r)
      | none => []
    else [⟨[], r⟩]
termination_by sc.size w
decreasing_by exact size_lt _hr _h

/-- The leaves of a rule of a scope. -/
def leavesFrom (w : Setting) (sc : Scope) (r : Rule) : List Leaf :=
  if r.isComposite then
    match sc.below? w r with
    | some c => (c.leaves w).map (.under r)
    | none => []
  else [⟨[], r⟩]

theorem leaves_eq_flatMap (w : Setting) (sc : Scope) :
    sc.leaves w = sc.rules.flatMap (sc.leavesFrom w) := by
  rw [leaves]
  conv => rhs; rw [← List.attach_map_subtype_val sc.rules, List.flatMap_map]
  refine List.flatMap_congr ?_
  rintro ⟨r, hr⟩ -
  simp only [leavesFrom]
  split
  · split <;> simp_all
  · rfl

theorem leavesFrom_of_below (h : sc.below? w r = some c) :
    sc.leavesFrom w r = (c.leaves w).map (.under r) := by
  rw [leavesFrom, if_pos (isComposite_of_below h), h]

theorem leavesFrom_of_leaf (h : r.isComposite = false) : sc.leavesFrom w r = [⟨[], r⟩] := by
  rw [leavesFrom, if_neg (by simp [h])]

/-- The leaves of a scope on whose way all conditions hold. -/
def openLeaves (w : Setting) (sc : Scope) : List Leaf := (sc.leaves w).filter (Leaf.holds w.facts)

/-- The leaves of a rule of a scope on whose way all conditions hold. -/
def openLeavesFrom (w : Setting) (sc : Scope) (r : Rule) : List Leaf :=
  (sc.leavesFrom w r).filter (Leaf.holds w.facts)

theorem openLeaves_eq_flatMap (w : Setting) (sc : Scope) :
    sc.openLeaves w = sc.rules.flatMap (sc.openLeavesFrom w) := by
  rw [openLeaves, leaves_eq_flatMap, List.filter_flatMap]
  rfl

theorem openLeavesFrom_of_refused (h : r.holds w.facts = false) : sc.openLeavesFrom w r = [] := by
  unfold openLeavesFrom leavesFrom
  split
  · split
    · simp [List.filter_map, Function.comp_def, Leaf.holds_under, h]
    · rfl
  · simp [Leaf.holds, Leaf.path, h]

theorem openLeavesFrom_of_below (hholds : r.holds w.facts = true) (h : sc.below? w r = some c) :
    sc.openLeavesFrom w r = (c.openLeaves w).map (.under r) := by
  rw [openLeavesFrom, leavesFrom_of_below h, openLeaves, List.filter_map]
  simp [Function.comp_def, Leaf.holds_under, hholds]

theorem openLeavesFrom_of_leaf (hholds : r.holds w.facts = true) (h : r.isComposite = false) :
    sc.openLeavesFrom w r = [⟨[], r⟩] := by
  simp [openLeavesFrom, leavesFrom_of_leaf h, Leaf.holds, Leaf.path, hholds]

end Scope

/-! ## Flattening -/

/-- Keep a leaf behind those that have been kept, unless it is to be planned once and its action is
planned already, or is that of a leaf that has been kept. -/
def keep (planned : List String) (kept : List Leaf) (l : Leaf) : List Leaf :=
  if l.rule.once = true ∧ (l.rule.action ∈ planned ∨ ∃ k ∈ kept, k.rule.action = l.rule.action) then
    kept
  else kept ++ [l]

/-- The leaves that are to be planned. -/
def flatten (planned : List String) (leaves : List Leaf) : List Leaf :=
  leaves.foldl (keep planned) []

theorem flatten_concat (planned : List String) (leaves : List Leaf) (l : Leaf) :
    flatten planned (leaves ++ [l]) = keep planned (flatten planned leaves) l := by
  rw [flatten, List.foldl_append]
  rfl

/-- The actions that are planned when leaves have been kept. -/
def Continues (planned : List String) (kept : List Leaf) (next : List String) : Prop :=
  ∀ a, a ∈ next ↔ a ∈ planned ∨ ∃ k ∈ kept, k.rule.action = a

/-- Leaves behind others are flattened where those have left off. -/
theorem flatten_append {front : List Leaf} (h : Continues planned (flatten planned front) next)
    (behind : List Leaf) :
    flatten planned (front ++ behind) = flatten planned front ++ flatten next behind := by
  induction behind using List.reverseRecOn with
  | nil => simp [flatten]
  | append_singleton behind l ih =>
    rw [← List.append_assoc, flatten_concat, ih, flatten_concat]
    have hplanned : (l.rule.action ∈ planned ∨ ∃ k ∈ flatten planned front ++ flatten next behind,
        k.rule.action = l.rule.action) ↔
        (l.rule.action ∈ next ∨ ∃ k ∈ flatten next behind, k.rule.action = l.rule.action) := by
      rw [h]
      simp only [List.mem_append, or_and_right, exists_or, or_assoc]
    unfold keep
    simp only [hplanned]
    split
    · rfl
    · rw [List.append_assoc]

theorem flatten_map_under (planned : List String) (r : Rule) (leaves : List Leaf) :
    flatten planned (leaves.map (.under r)) = (flatten planned leaves).map (.under r) := by
  induction leaves using List.reverseRecOn with
  | nil => rfl
  | append_singleton leaves l ih =>
    rw [List.map_append, List.map_singleton, flatten_concat, ih, flatten_concat]
    unfold keep
    simp only [List.mem_map, exists_exists_and_eq_and, Leaf.rule_under]
    split
    · rfl
    · rw [List.map_append, List.map_singleton]

/-- Steps are related to the leaves that are to be planned, and `next` are the actions planned
then. -/
structure Flattening (R : Leaf → Step → Prop) (planned : List String) (leaves : List Leaf)
    (steps : List Step) (next : List String) : Prop where
  steps : List.Forall₂ R (flatten planned leaves) steps
  planned : Continues planned (flatten planned leaves) next

namespace Flattening

variable {R R' : Leaf → Step → Prop} {leaves front behind : List Leaf}

theorem nil (R : Leaf → Step → Prop) (planned : List String) :
    Flattening R planned [] [] planned where
  steps := .nil
  planned := by simp [Continues, flatten]

theorem append {more : List Step} (h : Flattening R planned front steps next)
    (h' : Flattening R next behind more last) :
    Flattening R planned (front ++ behind) (steps ++ more) last where
  steps := by
    rw [flatten_append h.planned]
    exact List.rel_append h.steps h'.steps
  planned := by
    intro a
    rw [flatten_append h.planned, h'.planned, h.planned]
    simp only [List.mem_append, or_and_right, exists_or, or_assoc]

theorem imp (h : Flattening R planned leaves steps next) (himp : ∀ l s, R l s → R' l s) :
    Flattening R' planned leaves steps next where
  steps := h.steps.imp himp
  planned := h.planned

theorem map_under (h : Flattening (fun l s => R (l.under r) s) planned leaves steps next) :
    Flattening R planned (leaves.map (.under r)) steps next where
  steps := by
    rw [flatten_map_under, List.forall₂_map_left_iff]
    exact h.steps
  planned := by
    intro a
    rw [flatten_map_under, h.planned]
    simp only [List.mem_map, exists_exists_and_eq_and, Leaf.rule_under]

theorem map_steps {g : Step → Step} (h : Flattening (fun l s => R l (g s)) planned leaves steps next) :
    Flattening R planned leaves (steps.map g) next where
  steps := by
    rw [List.forall₂_map_right_iff]
    exact h.steps
  planned := h.planned

end Flattening

/-! ## Plans -/

/-- How a step comes from a leaf of a scope: as the step of a rule with an action, or from the scope
below a rule; steps are settled on the way up. -/
inductive Scope.Plans (w : Setting) : Scope → Leaf → Step → Prop where
  | leaf {sc : Scope} {r : Rule} {definition : Action.Definition} {params : Fields}
      (deps : List String) : r ∈ sc.rules → w.definition r.action = .ok definition →
      materialize w.facts definition.schema (sc.frame.parameters r) = .ok params →
      Plans w sc ⟨[], r⟩ (leafStep sc deps r params)
  | under {sc c : Scope} {r : Rule} {l : Leaf} {s : Step} : r ∈ sc.rules →
      sc.below? w r = some c → Plans w c l s → Plans w sc (l.under r) s
  | settled {sc : Scope} {l : Leaf} {s : Step} (yields : List Yield) (y : Yield) :
      Plans w sc l s → Plans w sc l (sc.settled yields y s)

/-- What a rule becomes is a flattening of its open leaves, if that holds of the scope below it. -/
theorem Became.flattening {deps : List String} (h : Became w sc deps r planned steps next)
    (hr : r ∈ sc.rules)
    (hbelow : ∀ c, sc.below? w r = some c → ∀ planned steps next,
      c.expand w planned = (.ok steps, next) →
        Flattening (c.Plans w) planned (c.openLeaves w) steps next) :
    Flattening (sc.Plans w) planned (sc.openLeavesFrom w r) steps next := by
  cases h with
  | refused hno =>
    rw [Scope.openLeavesFrom_of_refused (holds_of_applies hno)]
    exact .nil _ planned
  | inside hyes hscope hexpand =>
    rw [Scope.openLeavesFrom_of_below (holds_of_applies hyes) hscope]
    exact ((hbelow _ hscope _ _ _ hexpand).imp fun l s hplans => .under hr hscope hplans).map_under
  | repeated hyes hleaf _ honce hplanned =>
    rw [Scope.openLeavesFrom_of_leaf (holds_of_applies hyes) hleaf]
    have hflat : flatten planned [⟨[], r⟩] = [] := by
      simp [flatten, keep, honce, hplanned]
    constructor
    · rw [hflat]
      exact .nil
    · simp [Continues, hflat]
  | leaf hyes hleaf _ hnot _ hdefinition hparams =>
    rw [Scope.openLeavesFrom_of_leaf (holds_of_applies hyes) hleaf]
    have hflat : flatten planned [⟨[], r⟩] = [⟨[], r⟩] := by
      simp [flatten, keep, hnot]
    constructor
    · rw [hflat]
      exact .cons (.leaf deps hr hdefinition hparams) .nil
    · simp [Continues, hflat, eq_comm]

theorem Yields.flattening {previous : String} {rules : List Rule}
    (h : Yields w sc previous rules planned yields last)
    (hbecame : ∀ r ∈ rules, ∀ deps planned steps next, Became w sc deps r planned steps next →
      Flattening (sc.Plans w) planned (sc.openLeavesFrom w r) steps next) (all : List Yield) :
    Flattening (sc.Plans w) planned (rules.flatMap (sc.openLeavesFrom w))
      (yields.flatMap fun y => y.steps.map (sc.settled all y)) last := by
  induction h with
  | nil => exact .nil _ _
  | cons _ hfirst _ ih =>
    rw [List.flatMap_cons, List.flatMap_cons]
    have hown := hbecame _ List.mem_cons_self _ _ _ _ hfirst
    refine .append ?_ (ih fun r hr => hbecame r (List.mem_cons_of_mem _ hr))
    exact (hown.imp fun l s hplans => hplans.settled all _).map_steps

/-- What a scope becomes is a flattening of its open leaves. -/
theorem plans_of_expand (h : sc.expand w planned = (.ok steps, last)) :
    Flattening (sc.Plans w) planned (sc.openLeaves w) steps last := by
  induction sc using Scope.induction w generalizing planned last steps with
  | _ sc ih =>
    obtain ⟨yields, hyields, rfl⟩ := Scope.expand_eq_ok_iff.1 h
    rw [finish_collect, Scope.openLeaves_eq_flatMap]
    refine hyields.flattening ?_ yields
    intro r hr deps planned steps next hbecame
    refine hbecame.flattening hr ?_
    intro c hbelow planned steps next hexpand
    exact ih r hr c hbelow hexpand

/-! ## Expansion -/

/-- A step was planned for a leaf, within a frame. -/
structure PlannedFor (f : Frame) (l : Leaf) (s : Step) : Prop where
  named : l.id ≠ ""
  id : s.id = f.id l.id
  action : s.action = l.rule.action
  reason : s.reason = l.rule.reason
  outputs : s.outputs = l.rule.outputs

namespace PlannedFor

theorem leafStep {deps : List String} {params : Fields} (hr : r.id ≠ "") :
    PlannedFor sc.frame ⟨[], r⟩ (leafStep sc deps r params) where
  named := by rwa [Leaf.id_single]
  id := by
    rw [Leaf.id_single]
    rfl
  action := rfl
  reason := rfl
  outputs := rfl

theorem under {l : Leaf} (h : PlannedFor c.frame l s) (hbelow : sc.below? w r = some c)
    (hr : r.id ≠ "") : PlannedFor sc.frame (l.under r) s where
  named := by
    rw [Leaf.id_under]
    simp [hr]
  id := by
    rw [Leaf.id_under, h.id]
    exact Scope.id_of_below hbelow hr h.named
  action := h.action
  reason := h.reason
  outputs := h.outputs

/-- Settling a step changes only what it depends on. -/
theorem settled {l : Leaf} (h : PlannedFor f l s) (y : Yield) :
    PlannedFor f l (sc.settled yields y s) := by
  rw [settled_eq_with]
  exact ⟨h.named, h.id, h.action, h.reason, h.outputs⟩

end PlannedFor

/-- Where all rules have ids, steps say what the leaves say that they come from. -/
theorem Scope.Plans.plannedFor {l : Leaf} (h : sc.Plans w l s) (hnamed : sc.Identified w) :
    PlannedFor sc.frame l s := by
  induction h with
  | leaf deps hr _ _ => exact .leafStep (hnamed _ .self _ hr)
  | under hr hbelow _ ih => exact (ih (hnamed.below hr hbelow)).under hbelow (hnamed _ .self _ hr)
  | settled yields y _ ih => exact (ih hnamed).settled y

theorem flattening_of_expand (hnamed : sc.Identified w)
    (h : sc.expand w planned = (.ok steps, last)) :
    Flattening (PlannedFor sc.frame) planned (sc.openLeaves w) steps last :=
  (plans_of_expand h).imp fun _ _ hplans => hplans.plannedFor hnamed

/-- The actions of the steps are those of the leaves that are planned, in their order. -/
theorem Flattening.map_action {leaves : List Leaf}
    (h : Flattening (PlannedFor f) planned leaves steps next) :
    (flatten planned leaves).map (fun l => l.rule.action) = steps.map Step.action := by
  rw [← List.forall₂_eq_eq_eq, List.forall₂_map_left_iff, List.forall₂_map_right_iff]
  exact h.steps.imp fun l s hplanned => hplanned.action.symm

/-- Expanding rules plans one step for each leaf on whose way all conditions hold, in their order; one
that is to be planned once is left out exactly if its action is planned already.  The actions that are
planned then are those that were, and those of the steps. -/
theorem expand_eq_flatten {rules : List Rule} (hnamed : (Scope.root rules).Identified w)
    (h : (Scope.root rules).expand w planned = (.ok steps, last)) :
    List.Forall₂ (fun (l : Leaf) (s : Step) => s.id = l.id ∧ s.action = l.rule.action ∧
        s.reason = l.rule.reason ∧ s.outputs = l.rule.outputs)
      (flatten planned (((Scope.root rules).leaves w).filter (Leaf.holds w.facts))) steps ∧
    ∀ a, a ∈ last ↔ a ∈ planned ∨ ∃ s ∈ steps, s.action = a := by
  have hflat := flattening_of_expand hnamed h
  constructor
  · refine hflat.steps.imp ?_
    intro l s hplanned
    exact ⟨hplanned.id.trans (Frame.id_root l.id), hplanned.action, hplanned.reason,
      hplanned.outputs⟩
  · intro a
    have hactions : a ∈ (flatten planned ((Scope.root rules).openLeaves w)).map
        (fun l => l.rule.action) ↔ a ∈ steps.map Step.action := by
      rw [hflat.map_action]
    rw [hflat.planned a]
    simpa only [List.mem_map] using or_congr_right hactions

/-! ## A survey -/

/-- Write and check, unless a check has been planned; a rule that never applies; and what is planned
once, after it has been planned. -/
def surveyRules : List Rule :=
  [{ bareRule "docs" "" with
      steps := [bareRule "write" "write", { bareRule "check" "check" with once := true }] },
   { bareRule "legacy" "" with condition := "false", steps := [bareRule "drop" "drop"] },
   { bareRule "again" "write" with once := true }]

theorem ids_surveyRules : (Scope.root surveyRules).ids bareSetting =
    ["docs", "docs-write", "docs-check", "legacy", "legacy-drop", "again"] := by cbv

/-- A condition that never holds. -/
theorem holds_false : Condition.holds "false" [] = .ok false := by
  have hresult : (Condition.holds "false" []).toOption = some false := by decide +kernel
  cases hholds : Condition.holds "false" [] with
  | ok b =>
    rw [hholds] at hresult
    exact congrArg Except.ok (Option.some.inj hresult)
  | error e =>
    rw [hholds] at hresult
    cases hresult

theorem applies_legacy {id : String} {r : Rule} (h : r.condition = "false") :
    applies bareSetting id r = .ok false := by
  have hstrip : Text.strip "false" ≠ "" := by decide
  have hholds : Condition.holds "false" bareSetting.facts = .ok false := holds_false
  rw [applies, h, if_neg hstrip, hholds]

/-- One step is planned, as a check has been planned before. -/
theorem expand_surveyRules : (Scope.root surveyRules).expand bareSetting ["check"] =
    (.ok [bareStep "docs-write" "write" []], ["check", "write"]) := by
  have hdocs : Became bareSetting (.root surveyRules) [] surveyRules[0] ["check"]
      [bareStep "docs-write" "write" []] ["check", "write"] := by
    refine .inside (applies_of_blank (by decide)) (Scope.below?_of_steps rfl (List.cons_ne_nil _ _)) ?_
    cbv
  have hlegacy : Became bareSetting (.root surveyRules) [] surveyRules[1] ["check", "write"] []
      ["check", "write"] := .refused (applies_legacy rfl)
  have hagain : Became bareSetting (.root surveyRules) [] surveyRules[2] ["check", "write"] []
      ["check", "write"] :=
    .repeated (applies_of_blank (by decide)) rfl (by decide) rfl (by decide)
  have hfresh (r : Rule) : Fresh (.root surveyRules) r := fun _ => List.not_mem_nil
  have hyields : Yields bareSetting (.root surveyRules) "" surveyRules ["check"]
      [⟨surveyRules[0], [], [bareStep "docs-write" "write" []]⟩, ⟨surveyRules[1], [], []⟩,
        ⟨surveyRules[2], [], []⟩] ["check", "write"] :=
    .cons (hfresh _) hdocs (.cons (hfresh _) hlegacy (.cons (hfresh _) hagain .nil))
  refine Scope.expand_eq_ok_iff.2 ⟨_, hyields, ?_⟩
  cbv

/-- Of four leaves one is planned when a check has been planned before. -/
theorem expand_eq_flatten_survey : (Scope.root surveyRules).Identified bareSetting ∧
    (Scope.root surveyRules).expand bareSetting ["check"] =
      (.ok [bareStep "docs-write" "write" []], ["check", "write"]) ∧
    ∃ l, flatten ["check"] (((Scope.root surveyRules).leaves bareSetting).filter
      (Leaf.holds bareSetting.facts)) = [l] ∧ l.id = "docs-write" ∧ l.rule.action = "write" := by
  have hnamed : (Scope.root surveyRules).Identified bareSetting := by
    intro inner hwithin r hr
    exact hwithin.id_ne_empty (by simp [ids_surveyRules]) hr
  obtain ⟨hsteps, -⟩ := expand_eq_flatten hnamed expand_surveyRules
  obtain ⟨l, rest, ⟨hid, haction, -⟩, hrest, heq⟩ := List.forall₂_cons_right_iff.1 hsteps
  rw [List.forall₂_nil_right_iff.1 hrest] at heq
  exact ⟨hnamed, expand_surveyRules, l, heq, hid.symm, haction.symm⟩

end Expansion

end Remediation
