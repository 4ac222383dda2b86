import Remediation.Proofs.Expansion.Collect
import Remediation.Proofs.Fault
import Remediation.Proofs.Work
/-!
# Why rules are not expanded

A scope is not expanded if one of its rules is not, when those before it have yielded steps
(`Scope.expand_eq_error_iff`).  A rule is not expanded for a reason of its own, or because the scope
below it is not (`Failed`).

So the faults of an expansion are those of plans, those of the conditions and parameters that cannot be
read, and those of the rule files and definitions that are looked for (`failsAs_run`).
-/

set_option autoImplicit false

namespace Remediation.Expansion

variable {w : Setting} {sc c : Scope} {deps planned next last : List String} {r : Rule} {e : Fault}

/-- Why a rule of a scope is not expanded that depends on path ids, and the actions that are planned
then. -/
inductive Failed (w : Setting) (sc : Scope) (deps : List String) (r : Rule)
    (planned : List String) : Fault → List String → Prop where
  /-- It includes a file that is being included. -/
  | stale : ¬ Fresh sc r →
      Failed w sc deps r planned (.circularReference (sc.history ++ [r.reference])) planned
  /-- Its condition cannot be decided. -/
  | undecided {e : Fault} : Fresh sc r → applies w (sc.pathId r) r = .error e →
      Failed w sc deps r planned e planned
  /-- The file that it includes cannot be read. -/
  | unread {e : Fault} : Fresh sc r → applies w (sc.pathId r) r = .ok true → r.reference ≠ "" →
      w.load (sc.pathId r) r.reference = .error e → Failed w sc deps r planned e planned
  /-- The scope below it is not expanded. -/
  | inside {c : Scope} {e : Fault} {next : List String} :
      applies w (sc.pathId r) r = .ok true → sc.below? w r = some c →
      c.expand w planned = (.error e, next) → Failed w sc deps r planned e next
  /-- It says nothing to do. -/
  | bodiless : applies w (sc.pathId r) r = .ok true → r.isComposite = false → r.action = "" →
      Failed w sc deps r planned (.ruleWithoutBody (sc.pathId r)) planned
  /-- Its action cannot be planned. -/
  | unplanned {e : Fault} {next : List String} : applies w (sc.pathId r) r = .ok true →
      r.isComposite = false → r.action ≠ "" →
      leaf w sc.frame deps r planned = (.error e, next) → Failed w sc deps r planned e next

theorem not_fresh_iff : ¬ Fresh sc r ↔ r.reference ≠ "" ∧ r.reference ∈ sc.history := by
  simp [Fresh]

/-! ## Reasons -/

theorem rule_of_stale (h : ¬ Fresh sc r) : rule w sc.history sc.frame deps r planned =
    (.error (.circularReference (sc.history ++ [r.reference])), planned) := by
  rw [rule, dif_pos (not_fresh_iff.1 h)]

theorem rule_of_undecided (hfresh : Fresh sc r) (h : applies w (sc.pathId r) r = .error e) :
    rule w sc.history sc.frame deps r planned = (.error e, planned) := by
  have happlies : applies w (sc.frame.id r.id) r = .error e := h
  rw [rule, dif_neg fun hc => hfresh hc.1 hc.2, happlies]

theorem rule_of_unread (hfresh : Fresh sc r) (h : applies w (sc.pathId r) r = .ok true)
    (hreference : r.reference ≠ "") (hload : w.load (sc.pathId r) r.reference = .error e) :
    rule w sc.history sc.frame deps r planned = (.error e, planned) := by
  have happlies : applies w (sc.frame.id r.id) r = .ok true := h
  rw [rule, dif_neg fun hc => hfresh hc.1 hc.2, happlies]
  simp only [dif_pos hreference]
  split
  next e' he =>
    obtain rfl := Except.error.inj (hload.symm.trans he)
    rfl
  next found hfound => cases hload.symm.trans hfound

theorem rule_of_bodiless (h : applies w (sc.pathId r) r = .ok true) (hleaf : r.isComposite = false)
    (haction : r.action = "") : rule w sc.history sc.frame deps r planned =
      (.error (.ruleWithoutBody (sc.pathId r)), planned) := by
  have happlies : applies w (sc.frame.id r.id) r = .ok true := h
  obtain ⟨hreference, hsteps⟩ := isComposite_eq_false_iff.1 hleaf
  rw [rule, dif_neg fun hc => hc.1 hreference, happlies]
  simp [hreference, hsteps, haction, Scope.pathId]

/-- A rule that stands for others has a scope below it, unless the file that it includes is being
included or cannot be read. -/
theorem below?_eq_none (hfresh : Fresh sc r) (h : sc.below? w r = none) :
    r.isComposite = false ∨
      r.reference ≠ "" ∧ ∃ e, w.load (sc.pathId r) r.reference = .error e := by
  by_cases hreference : r.reference = ""
  · left
    refine isComposite_eq_false_iff.2 ⟨hreference, ?_⟩
    by_contra hsteps
    rw [Scope.below?_of_steps hreference hsteps] at h
    cases h
  · right
    refine ⟨hreference, ?_⟩
    cases hload : w.load (sc.pathId r) r.reference with
    | error e => exact ⟨e, rfl⟩
    | ok rules =>
      rw [Scope.below?_of_load hreference (hfresh hreference) hload] at h
      cases h

/-- A rule that is not expanded has failed. -/
theorem failed_of_rule (h : rule w sc.history sc.frame deps r planned = (.error e, last)) :
    Failed w sc deps r planned e last := by
  by_cases hfresh : Fresh sc r
  · cases happlies : applies w (sc.pathId r) r with
    | error e' =>
      rw [rule_of_undecided hfresh happlies] at h
      cases h
      exact .undecided hfresh happlies
    | ok holds =>
      cases holds with
      | false =>
        rw [rule_of_refused hfresh happlies] at h
        cases h
      | true =>
        cases hbelow : sc.below? w r with
        | some c =>
          rw [rule_of_below happlies hbelow] at h
          exact .inside happlies hbelow h
        | none =>
          rcases below?_eq_none hfresh hbelow with hleaf | ⟨hreference, e', hload⟩
          · by_cases haction : r.action = ""
            · rw [rule_of_bodiless happlies hleaf haction] at h
              cases h
              exact .bodiless happlies hleaf haction
            · rw [rule_of_leaf happlies hleaf haction] at h
              exact .unplanned happlies hleaf haction h
          · rw [rule_of_unread hfresh happlies hreference hload] at h
            cases h
            exact .unread hfresh happlies hreference hload
  · rw [rule_of_stale hfresh] at h
    cases h
    exact .stale hfresh

/-- A rule is not expanded exactly if it fails. -/
theorem rule_eq_error_iff : rule w sc.history sc.frame deps r planned = (.error e, last) ↔
    Failed w sc deps r planned e last := by
  constructor
  · exact failed_of_rule
  · intro h
    cases h with
    | stale hstale => exact rule_of_stale hstale
    | undecided hfresh happlies => exact rule_of_undecided hfresh happlies
    | unread hfresh happlies hreference hload =>
      exact rule_of_unread hfresh happlies hreference hload
    | inside happlies hbelow hexpand => rw [rule_of_below happlies hbelow, hexpand]
    | bodiless happlies hleaf haction => exact rule_of_bodiless happlies hleaf haction
    | unplanned happlies hleaf haction hplan => rw [rule_of_leaf happlies hleaf haction, hplan]

/-! ## The rules of a scope -/

namespace Scope

theorem each_eq_error_iff {rules : List Rule} {previous : String} {p : Progress} :
    each w sc.history sc.frame sc.sequential previous rules p planned = (.error e, last) ↔
      ∃ front r behind yields next, rules = front ++ r :: behind ∧
        Yields w sc previous front planned yields next ∧
        Failed w sc (sc.deps (lastId previous front) r) r next e last := by
  induction rules generalizing previous p planned with
  | nil => simp [each]
  | cons r rest ih =>
    rw [each]
    constructor
    · intro h
      split at h
      next e' next hrule =>
        cases h
        exact ⟨[], r, rest, [], planned, rfl, .nil, rule_eq_error_iff.1 hrule⟩
      next steps next hrule =>
        obtain ⟨hfresh, hbecame⟩ := rule_eq_ok_iff.1 hrule
        obtain ⟨front, r', behind, yields, between, rfl, hyields, hfailed⟩ := ih.1 h
        rw [← lastId_cons previous] at hfailed
        exact ⟨r :: front, r', behind, _, between, rfl, .cons hfresh hbecame hyields, hfailed⟩
    · rintro ⟨front, r', behind, yields, between, hsplit, hyields, hfailed⟩
      cases hyields with
      | nil =>
        obtain ⟨rfl, rfl⟩ := List.cons.inj hsplit
        have hrule := rule_eq_error_iff.2 hfailed
        simp only [deps, lastId, List.getLast?_nil, Option.map_none, Option.getD_none] at hrule
        simp only [hrule]
      | cons hfresh hbecame hrest =>
        obtain ⟨rfl, rfl⟩ := List.cons.inj hsplit
        have hrule := rule_eq_ok_iff.2 ⟨hfresh, hbecame⟩
        simp only [deps] at hrule
        rw [lastId_cons] at hfailed
        simp only [hrule]
        exact ih.2 ⟨_, r', behind, _, between, rfl, hrest, hfailed⟩

/-- A scope is not expanded exactly if one of its rules fails when those before it have yielded. -/
theorem expand_eq_error_iff : sc.expand w planned = (.error e, last) ↔
    ∃ front r behind yields next, sc.rules = front ++ r :: behind ∧
      Yields w sc "" front planned yields next ∧
      Failed w sc (sc.deps (lastId "" front) r) r next e last := by
  rw [expand, scope]
  constructor
  · intro h
    split at h
    next e' next heach =>
      cases h
      exact each_eq_error_iff.1 heach
    next => cases h
  · intro h
    rw [each_eq_error_iff.2 h]

end Scope

/-! ## Faults -/

section Faults

variable {P : Fault → Prop}

/-- A condition that cannot be decided is reported with its rule, or for a reason that is none of
conditions. -/
theorem undecided_of_applies {id : String} {e : Fault} (h : applies w id r = .error e) :
    (∃ cause, e = .ruleCondition id cause) ∨ Condition.Undecided e ∧ e.kind ≠ .condition := by
  unfold applies at h
  split at h
  next => cases h
  next =>
    split at h
    next => cases h
    next cause hholds =>
      split at h
      next => exact .inl ⟨cause, (Except.error.inj h).symm⟩
      next hkind =>
        obtain rfl := Except.error.inj h
        exact .inr ⟨Condition.undecided_of_holds hholds, hkind⟩

/-- Why no step is planned for a rule with an action. -/
inductive Unplanned (w : Setting) (f : Frame) (r : Rule) : Fault → Prop where
  | withoutId : Unplanned w f r (.ruleWithoutId r.action)
  | unresolved (cause : Fault) : Unplanned w f r (.ruleAction (f.id r.id) cause)
  | undefined {e : Fault} : w.definition r.action = .error e → Unplanned w f r e
  | unfilled {d : Action.Definition} {e : Fault} :
      materialize w.facts d.schema (f.parameters r) = .error e →
      Unplanned w f r (missingIn (f.id r.id) e)

theorem unplanned_of_leaf {f : Frame} {deps : List String} {e : Fault}
    (h : leaf w f deps r planned = (.error e, last)) : Unplanned w f r e := by
  simp only [leaf] at h
  split at h
  next => cases h
  next =>
    split at h
    next => exact Except.error.inj (congrArg Prod.fst h) ▸ .withoutId
    next =>
      split at h
      next hundefined =>
        obtain rfl := Except.error.inj (congrArg Prod.fst h)
        unfold definitionOf at hundefined
        split at hundefined
        next => cases hundefined
        next cause hdefinition =>
          split at hundefined
          next => exact Except.error.inj hundefined ▸ .unresolved cause
          next => exact Except.error.inj hundefined ▸ .undefined hdefinition
      next =>
        split at h
        next hparams => exact Except.error.inj (congrArg Prod.fst h) ▸ .unfilled hparams
        next => cases h

/-- A scope is expanded, or its fault is one of plans, of conditions and parameters, or of what is
looked for. -/
theorem Scope.failsAs_expand (hplan : ∀ e, e.kind.isPlan = true → P e)
    (hundecided : ∀ e, Condition.Undecided e → e.kind ≠ .condition → P e)
    (hunfilled : ∀ e, Unfilled e → P e) (hdefinition : ∀ action, FailsAs P (w.definition action))
    (hload : ∀ rule ref, FailsAs P (w.load rule ref)) (sc : Scope) (planned : List String) :
    FailsAs P (sc.expand w planned).1 := by
  induction sc using Scope.induction w generalizing planned with
  | _ sc ih =>
    rcases hexpand : sc.expand w planned with ⟨e | steps, last⟩
    · obtain ⟨front, r, behind, yields, next, hsplit, -, hfailed⟩ :=
        Scope.expand_eq_error_iff.1 hexpand
      have hr : r ∈ sc.rules := by simp [hsplit]
      cases hfailed with
      | stale | bodiless => exact .error (hplan _ rfl)
      | undecided _ happlies =>
        rcases undecided_of_applies happlies with ⟨cause, rfl⟩ | ⟨hholds, hkind⟩
        · exact .error (hplan _ rfl)
        · exact .error (hundecided _ hholds hkind)
      | unread _ _ _ hread => exact .error (hload _ _ _ hread)
      | inside _ hbelow hinner =>
        have hc := ih r hr _ hbelow next
        rw [hinner] at hc
        exact .error (hc e rfl)
      | unplanned _ _ _ hleaf =>
        cases unplanned_of_leaf hleaf with
        | withoutId | unresolved => exact .error (hplan _ rfl)
        | undefined hdefined => exact .error (hdefinition _ _ hdefined)
        | unfilled hparams =>
          cases unfilled_of_materialize hparams with
          | missing names place => exact .error (hplan _ rfl)
          | longInteger => exact .error (hunfilled _ .longInteger)
          | longDigits digits => exact .error (hunfilled _ (.longDigits digits))
    · exact .ok steps

/-- Rules are expanded, or their fault is one of plans, of conditions and parameters, or of what is
looked for. -/
theorem failsAs_run (hplan : ∀ e, e.kind.isPlan = true → P e)
    (hundecided : ∀ e, Condition.Undecided e → e.kind ≠ .condition → P e)
    (hunfilled : ∀ e, Unfilled e → P e) (hdefinition : ∀ action, FailsAs P (w.definition action))
    (hload : ∀ rule ref, FailsAs P (w.load rule ref)) (rules : List Rule) :
    FailsAs P (run w rules) := by
  rw [run_eq_expand]
  exact (Scope.root rules).failsAs_expand hplan hundecided hunfilled hdefinition hload []

end Faults

end Remediation.Expansion
