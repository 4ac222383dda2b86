import Remediation.Proofs.Expansion.Scope
/-!
# What rules become

Expanding a scope makes each of its rules yield steps, one rule after the other; what a rule yields
is nothing, one step, or what the scope below it becomes (`Became`).  The steps of the scope are
collected from these yields alone (`expand_eq_ok_iff`), so that whatever holds of an expansion follows
from what holds of its yields.
-/

set_option autoImplicit false

namespace Remediation.Expansion

variable {w : Setting}

/-- Expand the rules of a scope; `planned` are the actions that are planned already. -/
def Scope.expand (w : Setting) (sc : Scope) (planned : List String) :
    Except Fault (List Step) × List String :=
  scope w sc.history sc.frame sc.sequential sc.rules planned

theorem run_eq_expand (w : Setting) (rules : List Rule) :
    run w rules = ((Scope.root rules).expand w []).1 := rfl

/-- Rules become what their scope becomes, whatever has been planned in the end. -/
theorem run_eq_iff {rules : List Rule} {result : Except Fault (List Step)} :
    run w rules = result ↔ ∃ last, (Scope.root rules).expand w [] = (result, last) := by
  constructor
  · intro h
    exact ⟨_, Prod.ext h rfl⟩
  · rintro ⟨last, h⟩
    exact congrArg Prod.fst h

/-- What a rule with an action becomes when its parameters have been filled. -/
def leafStep (sc : Scope) (deps : List String) (r : Rule) (params : Fields) : Step where
  id := sc.pathId r
  action := r.action
  params := params
  reason := r.reason
  dependsOn := deps
  outputs := r.outputs
  outputRefs := r.outputRefs.map fun (param, ref) => (param, sc.frame.reference ref)
  status := .pending
  error := none

/-- What a rule of a scope becomes that depends on path ids, and the actions that are planned then. -/
inductive Became (w : Setting) (sc : Scope) (deps : List String) (r : Rule)
    (planned : List String) : List Step → List String → Prop where
  /-- Its condition does not hold. -/
  | refused : applies w (sc.pathId r) r = .ok false → Became w sc deps r planned [] planned
  /-- It stands for the scope below it. -/
  | inside {c : Scope} {steps : List Step} {next : List String} :
      applies w (sc.pathId r) r = .ok true → sc.below? w r = some c →
      c.expand w planned = (.ok steps, next) → Became w sc deps r planned steps next
  /-- Its action is planned already and is not planned again. -/
  | repeated : applies w (sc.pathId r) r = .ok true → r.isComposite = false → r.action ≠ "" →
      r.once = true → r.action ∈ planned → Became w sc deps r planned [] planned
  /-- It is a step. -/
  | leaf {definition : Action.Definition} {params : Fields} :
      applies w (sc.pathId r) r = .ok true → r.isComposite = false → r.action ≠ "" →
      ¬ (r.once = true ∧ r.action ∈ planned) → sc.pathId r ≠ "" →
      w.definition r.action = .ok definition →
      materialize w.facts definition.schema (sc.frame.parameters r) = .ok params →
      Became w sc deps r planned [leafStep sc deps r params] (appendNew planned r.action)

theorem applies_of_blank {id : String} {r : Rule} (h : Text.strip r.condition = "") :
    applies w id r = .ok true := if_pos h

/-- A rule can be expanded only if it does not include a file that is being included. -/
def Fresh (sc : Scope) (r : Rule) : Prop := r.reference ≠ "" → r.reference ∉ sc.history

theorem isComposite_eq_false_iff {r : Rule} :
    r.isComposite = false ↔ r.reference = "" ∧ r.steps = [] := by
  simp [Rule.isComposite]

theorem definitionOf_eq_ok_iff {id action : String} {definition : Action.Definition} :
    definitionOf w id action = .ok definition ↔ w.definition action = .ok definition := by
  unfold definitionOf
  cases w.definition action <;> simp

theorem leaf_eq_ok_iff {sc : Scope} {deps : List String} {r : Rule} {planned next : List String}
    {steps : List Step} :
    leaf w sc.frame deps r planned = (.ok steps, next) ↔
      (r.once = true ∧ r.action ∈ planned) ∧ steps = [] ∧ next = planned ∨
      ¬ (r.once = true ∧ r.action ∈ planned) ∧ sc.pathId r ≠ "" ∧
        ∃ definition params, w.definition r.action = .ok definition ∧
          materialize w.facts definition.schema (sc.frame.parameters r) = .ok params ∧
          steps = [leafStep sc deps r params] ∧ next = appendNew planned r.action := by
  unfold leaf
  by_cases honce : r.once = true ∧ r.action ∈ planned
  · rw [if_pos (by simpa using honce)]
    constructor
    · intro h
      cases h
      exact Or.inl ⟨honce, rfl, rfl⟩
    · rintro (⟨-, rfl, rfl⟩ | ⟨hnot, -⟩)
      · rfl
      · exact absurd honce hnot
  · rw [if_neg (by simpa using honce)]
    by_cases hid : sc.frame.id r.id = ""
    · simp [honce, hid, Scope.pathId]
    · rw [if_neg hid]
      cases hd : definitionOf w (sc.frame.id r.id) r.action with
      | error e =>
        have hnone : ∀ definition, w.definition r.action ≠ .ok definition := by
          intro definition hdefinition
          rw [definitionOf_eq_ok_iff.2 hdefinition] at hd
          cases hd
        simp [honce, hnone]
      | ok definition =>
        have hdefinition := definitionOf_eq_ok_iff.1 hd
        cases hm : materialize w.facts definition.schema (sc.frame.parameters r) with
        | error e => simp [honce, hdefinition, hm]
        | ok params =>
          simp only [hm]
          constructor
          · intro h
            cases h
            exact Or.inr ⟨honce, hid, definition, params, hdefinition, hm, rfl, rfl⟩
          · rintro (⟨hdone, -⟩ | ⟨-, -, definition', params', hdefinition', hm', rfl, rfl⟩)
            · exact absurd hdone honce
            · obtain rfl := Except.ok.inj (hdefinition.symm.trans hdefinition')
              obtain rfl := Except.ok.inj (hm.symm.trans hm')
              rfl

/-! ## Expanding one rule -/

theorem rule_of_refused {sc : Scope} {deps : List String} {r : Rule} {planned : List String}
    (hfresh : Fresh sc r) (h : applies w (sc.pathId r) r = .ok false) :
    rule w sc.history sc.frame deps r planned = (.ok [], planned) := by
  have happlies : applies w (sc.frame.id r.id) r = .ok false := h
  rw [rule, dif_neg fun hc => hfresh hc.1 hc.2, happlies]

theorem rule_of_below {sc c : Scope} {deps : List String} {r : Rule} {planned : List String}
    (h : applies w (sc.pathId r) r = .ok true) (hbelow : sc.below? w r = some c) :
    rule w sc.history sc.frame deps r planned = c.expand w planned := by
  have happlies : applies w (sc.frame.id r.id) r = .ok true := h
  rcases Scope.below?_cases hbelow with ⟨rules, hreference, hfresh, hload, rfl⟩ |
      ⟨hreference, hsteps, rfl⟩
  · rw [rule, dif_neg fun hc => hfresh hc.2, happlies]
    simp only [dif_pos hreference]
    split
    next e he => cases hload.symm.trans he
    next found hfound =>
      obtain rfl := Except.ok.inj (hload.symm.trans hfound)
      rfl
  · rw [rule, dif_neg fun hc => hc.1 hreference, happlies]
    simp only [dif_neg (not_not_intro hreference), if_pos hsteps]
    rfl

theorem rule_of_leaf {sc : Scope} {deps : List String} {r : Rule} {planned : List String}
    (h : applies w (sc.pathId r) r = .ok true) (hleaf : r.isComposite = false)
    (haction : r.action ≠ "") :
    rule w sc.history sc.frame deps r planned = leaf w sc.frame deps r planned := by
  have happlies : applies w (sc.frame.id r.id) r = .ok true := h
  obtain ⟨hreference, hsteps⟩ := isComposite_eq_false_iff.1 hleaf
  rw [rule, dif_neg fun hc => hc.1 hreference, happlies]
  simp [hreference, hsteps, haction]

/-- A rule that is expanded includes no file that is being included, its condition is decided, and it
has a scope below it or an action. -/
theorem decided_of_rule_eq_ok {sc : Scope} {deps : List String} {r : Rule}
    {planned next : List String} {steps : List Step}
    (h : rule w sc.history sc.frame deps r planned = (.ok steps, next)) :
    Fresh sc r ∧ (applies w (sc.pathId r) r = .ok false ∨
      applies w (sc.pathId r) r = .ok true ∧
        ((∃ c, sc.below? w r = some c) ∨ r.isComposite = false ∧ r.action ≠ "")) := by
  rw [rule] at h
  split at h
  next => cases h
  next hfresh =>
    refine ⟨fun hreference hmem => hfresh ⟨hreference, hmem⟩, ?_⟩
    split at h
    next => cases h
    next hno => exact Or.inl hno
    next hyes =>
      refine Or.inr ⟨hyes, ?_⟩
      split at h
      next hreference =>
        split at h
        next => cases h
        next rules hload =>
          exact Or.inl ⟨_, Scope.below?_of_load hreference
            (fun hmem => hfresh ⟨hreference, hmem⟩) hload⟩
      next hreference =>
        split at h
        next hsteps =>
          exact Or.inl ⟨_, Scope.below?_of_steps (by simpa using hreference) hsteps⟩
        next hsteps =>
          split at h
          next => cases h
          next haction =>
            refine Or.inr ⟨isComposite_eq_false_iff.2 ⟨?_, ?_⟩, haction⟩
            · simpa using hreference
            · simpa using hsteps

/-- A rule is expanded exactly if it does not include a file that is being included, and becomes what
it stands for. -/
theorem rule_eq_ok_iff {sc : Scope} {deps : List String} {r : Rule} {planned next : List String}
    {steps : List Step} :
    rule w sc.history sc.frame deps r planned = (.ok steps, next) ↔
      Fresh sc r ∧ Became w sc deps r planned steps next := by
  constructor
  · intro h
    obtain ⟨hfresh, hno | ⟨hyes, ⟨c, hbelow⟩ | ⟨hleaf, haction⟩⟩⟩ := decided_of_rule_eq_ok h
    · rw [rule_of_refused hfresh hno] at h
      cases h
      exact ⟨hfresh, .refused hno⟩
    · rw [rule_of_below hyes hbelow] at h
      exact ⟨hfresh, .inside hyes hbelow h⟩
    · rw [rule_of_leaf hyes hleaf haction, leaf_eq_ok_iff] at h
      rcases h with ⟨hdone, rfl, rfl⟩ |
          ⟨hnot, hid, definition, params, hdefinition, hparams, rfl, rfl⟩
      · exact ⟨hfresh, .repeated hyes hleaf haction hdone.1 hdone.2⟩
      · exact ⟨hfresh, .leaf hyes hleaf haction hnot hid hdefinition hparams⟩
  · rintro ⟨hfresh, hbecame⟩
    cases hbecame with
    | refused hno => exact rule_of_refused hfresh hno
    | inside hyes hbelow hexpand => rw [rule_of_below hyes hbelow, hexpand]
    | repeated hyes hleaf haction honce hplanned =>
      rw [rule_of_leaf hyes hleaf haction, leaf_eq_ok_iff]
      exact Or.inl ⟨⟨honce, hplanned⟩, rfl, rfl⟩
    | leaf hyes hleaf haction hnot hid hdefinition hparams =>
      rw [rule_of_leaf hyes hleaf haction, leaf_eq_ok_iff]
      exact Or.inr ⟨hnot, hid, _, _, hdefinition, hparams, rfl, rfl⟩

/-! ## Expanding the rules of a scope -/

/-- What a rule of a scope has yielded, with the path ids that it depends on. -/
structure Yield where
  rule : Rule
  deps : List String
  steps : List Step

/-- The path ids that a rule depends on which stands behind the rule of some id. -/
def Scope.deps (sc : Scope) (previous : String) (r : Rule) : List String :=
  (effectiveDeps sc.sequential previous r).map sc.frame.id

/-- The rules of a scope yield steps one after the other, behind the rule of some id. -/
inductive Yields (w : Setting) (sc : Scope) :
    String → List Rule → List String → List Yield → List String → Prop where
  | nil {previous : String} {planned : List String} : Yields w sc previous [] planned [] planned
  | cons {previous : String} {r : Rule} {rest : List Rule} {planned next last : List String}
      {steps : List Step} {yields : List Yield} : Fresh sc r →
      Became w sc (sc.deps previous r) r planned steps next →
      Yields w sc r.id rest next yields last →
      Yields w sc previous (r :: rest) planned (⟨r, sc.deps previous r, steps⟩ :: yields) last

namespace Scope

/-- What the yields of rules add to what has become of a scope so far. -/
def collect (sc : Scope) (p : Progress) (yields : List Yield) : Progress :=
  yields.foldl (fun p y => p.add (sc.pathId y.rule) y.rule.isComposite y.deps y.steps) p

theorem each_eq_ok_iff {sc : Scope} {rules : List Rule} {previous : String} {p q : Progress}
    {planned last : List String} :
    each w sc.history sc.frame sc.sequential previous rules p planned = (.ok q, last) ↔
      ∃ yields, Yields w sc previous rules planned yields last ∧ q = sc.collect p yields := by
  induction rules generalizing previous p planned with
  | nil =>
    rw [each]
    constructor
    · intro h
      cases h
      exact ⟨[], .nil, rfl⟩
    · rintro ⟨yields, hyields, rfl⟩
      cases hyields
      rfl
  | cons r rest ih =>
    rw [each]
    constructor
    · intro h
      split at h
      next => cases h
      next steps next hrule =>
        obtain ⟨yields, hyields, rfl⟩ := ih.1 h
        obtain ⟨hfresh, hbecame⟩ := rule_eq_ok_iff.1 hrule
        exact ⟨_, .cons hfresh hbecame hyields, rfl⟩
    · rintro ⟨yields, hyields, rfl⟩
      cases hyields with
      | cons hfresh hbecame hrest =>
        have hrule := rule_eq_ok_iff.2 ⟨hfresh, hbecame⟩
        simp only [deps] at hrule
        simp only [hrule]
        exact ih.2 ⟨_, hrest, rfl⟩

/-- A scope is expanded exactly if its rules yield steps, and becomes what is collected from them. -/
theorem expand_eq_ok_iff {sc : Scope} {planned last : List String} {steps : List Step} :
    sc.expand w planned = (.ok steps, last) ↔
      ∃ yields, Yields w sc "" sc.rules planned yields last ∧
        steps = (sc.collect .start yields).finish := by
  rw [expand, scope]
  constructor
  · intro h
    split at h
    next => cases h
    next progress planned' heach =>
      cases h
      obtain ⟨yields, hyields, rfl⟩ := each_eq_ok_iff.1 heach
      exact ⟨yields, hyields, rfl⟩
  · rintro ⟨yields, hyields, rfl⟩
    rw [each_eq_ok_iff.2 ⟨yields, hyields, rfl⟩]

end Scope

end Remediation.Expansion
