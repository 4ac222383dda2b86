import Mathlib.Data.List.Perm.Basic
import Remediation.Proofs.Alias
import Remediation.Proofs.Expansion.Precedence
import Remediation.Proofs.Expansion.Transfer
/-!
# The order of rules that do not follow each other

The rules of a file depend on each other by name alone.  If none of them asks that its action is
planned only once, what a rule becomes has nothing to do with what others have become
(`Scope.Unlimited.independent`), and a dependency stands for the same wherever the sibling stands
that it names (`lookupField_table_perm`).  The order in which the rules are written then decides the
order of the steps and nothing else: rules in another order fail if these do, and become the same
steps if these do not (`run_perm`).
-/

set_option autoImplicit false

namespace Remediation.Expansion

variable {w : Setting} {sc : Scope} {yields yields' : List Yield} {rules rules' : List Rule}
  {r : Rule} {planned next last : List String} {steps : List Step} {previous : String}

/-! ## Actions that are planned already -/

/-- What a rule of a scope becomes has nothing to do with the actions that are planned already. -/
def Scope.Independent (w : Setting) (sc : Scope) (r : Rule) : Prop :=
  ∀ deps planned steps next, Became w sc deps r planned steps next →
    ∀ planned', ∃ next', Became w sc deps r planned' steps next'

/-- No rule within a scope asks that its action is planned only once. -/
def Scope.Unlimited (w : Setting) (sc : Scope) : Prop :=
  ∀ inner, Scope.Within w sc inner → ∀ r ∈ inner.rules, r.once = false

theorem Scope.Unlimited.below {c : Scope} (h : sc.Unlimited w) (hr : r ∈ sc.rules)
    (hbelow : sc.below? w r = some c) : c.Unlimited w :=
  fun inner hwithin => h inner (.down hr hbelow hwithin)

theorem independent_of_below (honce : r.once = false)
    (hbelow : ∀ c, sc.below? w r = some c → ∀ planned steps last,
      c.expand w planned = (.ok steps, last) →
      ∀ planned', ∃ last', c.expand w planned' = (.ok steps, last')) : sc.Independent w r := by
  intro deps planned steps next h planned'
  cases h with
  | refused hno => exact ⟨planned', .refused hno⟩
  | inside hyes hscope hexpand =>
    obtain ⟨last', hexpand'⟩ := hbelow _ hscope _ _ _ hexpand planned'
    exact ⟨last', .inside hyes hscope hexpand'⟩
  | repeated _ _ _ hlimit =>
    rw [honce] at hlimit
    cases hlimit
  | leaf hyes hleaf haction _ hid hdefinition hparams =>
    have hnot : ¬ (r.once = true ∧ r.action ∈ planned') := by simp [honce]
    exact ⟨_, .leaf hyes hleaf haction hnot hid hdefinition hparams⟩

theorem Yields.exists_planned (h : Yields w sc previous rules planned yields last)
    (hrules : ∀ r ∈ rules, sc.Independent w r) (planned' : List String) :
    ∃ last', Yields w sc previous rules planned' yields last' := by
  induction h generalizing planned' with
  | nil => exact ⟨planned', .nil⟩
  | @cons _ r _ _ _ _ _ _ hfresh hbecame _ ih =>
    obtain ⟨next', hbecame'⟩ := hrules r List.mem_cons_self _ _ _ _ hbecame planned'
    obtain ⟨last', hrest'⟩ := ih (fun r' hr' => hrules r' (List.mem_cons_of_mem _ hr')) next'
    exact ⟨last', .cons hfresh hbecame' hrest'⟩

theorem Scope.Unlimited.exists_expand (hunlimited : sc.Unlimited w)
    (h : sc.expand w planned = (.ok steps, last)) (planned' : List String) :
    ∃ last', sc.expand w planned' = (.ok steps, last') := by
  induction sc using Scope.induction w generalizing planned steps last planned' with
  | _ sc ih =>
    obtain ⟨yields, hyields, rfl⟩ := Scope.expand_eq_ok_iff.1 h
    have hindependent : ∀ r ∈ sc.rules, sc.Independent w r := by
      intro r hr
      refine independent_of_below (hunlimited sc .self r hr) ?_
      intro c hbelow planned steps last hexpand
      exact ih r hr c hbelow (hunlimited.below hr hbelow) hexpand
    obtain ⟨last', hyields'⟩ := hyields.exists_planned hindependent planned'
    exact ⟨last', Scope.expand_eq_ok_iff.2 ⟨yields, hyields', rfl⟩⟩

/-- Rules become the same whatever is planned already, if no rule within their scope has a limit. -/
theorem Scope.Unlimited.independent (hunlimited : sc.Unlimited w) (hr : r ∈ sc.rules) :
    sc.Independent w r := by
  refine independent_of_below (hunlimited sc .self r hr) ?_
  intro c hbelow planned steps last hexpand
  exact (hunlimited.below hr hbelow).exists_expand hexpand

/-! ## Rules that do not follow each other -/

/-- A yield that a rule has wherever it stands among its siblings. -/
def Scope.Stable (w : Setting) (sc : Scope) (y : Yield) : Prop :=
  Fresh sc y.rule ∧ y.deps = y.rule.dependsOn.map sc.frame.id ∧
    ∃ planned next, Became w sc y.deps y.rule planned y.steps next

theorem Scope.deps_of_not_sequential (hsequential : sc.sequential = false) (previous : String)
    (r : Rule) : sc.deps previous r = r.dependsOn.map sc.frame.id := by
  simp [Scope.deps, effectiveDeps, hsequential]

/-- Rules that neither follow each other nor have limits yield what each of them yields anywhere. -/
theorem yields_iff_stable (hsequential : sc.sequential = false)
    (hrules : ∀ y ∈ yields, sc.Independent w y.rule) (previous : String) (planned : List String) :
    (∃ last, Yields w sc previous (yields.map Yield.rule) planned yields last) ↔
      ∀ y ∈ yields, sc.Stable w y := by
  constructor
  · rintro ⟨last, hyields⟩ y hy
    obtain ⟨before, next, hfresh, hbecame⟩ := hyields.became hy
    obtain ⟨front, behind, -, hdeps⟩ := hyields.deps_eq hy
    rw [Scope.deps_of_not_sequential hsequential] at hdeps
    exact ⟨hfresh, hdeps, before, next, hbecame⟩
  · intro hstable
    induction yields generalizing previous planned with
    | nil => exact ⟨planned, .nil⟩
    | cons y rest ih =>
      obtain ⟨hfresh, hdeps, before, between, hbecame⟩ := hstable y List.mem_cons_self
      obtain ⟨next, hbecame⟩ := hrules y List.mem_cons_self _ _ _ _ hbecame planned
      obtain ⟨last, hrest⟩ := ih (fun y' hy' => hrules y' (List.mem_cons_of_mem _ hy'))
        y.rule.id next fun y' hy' => hstable y' (List.mem_cons_of_mem _ hy')
      obtain ⟨r, deps, steps⟩ := y
      obtain rfl : deps = sc.deps previous r :=
        hdeps.trans (Scope.deps_of_not_sequential hsequential previous r).symm
      exact ⟨last, .cons hfresh hbecame hrest⟩

/-- Rules in another order yield the same, in that order. -/
theorem Yields.exists_perm (h : Yields w sc previous rules planned yields last)
    (hsequential : sc.sequential = false) (hrules : ∀ r ∈ rules, sc.Independent w r)
    (hperm : rules.Perm rules') : ∃ yields' last', yields.Perm yields' ∧
      Yields w sc previous rules' planned yields' last' := by
  obtain rfl := h.map_rule
  obtain ⟨yields', rfl, hsame⟩ :=
    (congrFun₂ (List.eq_map_comp_perm Yield.rule) rules' yields).mpr hperm.symm
  have hindependent : ∀ y ∈ yields, sc.Independent w y.rule :=
    fun y hy => hrules y.rule (List.mem_map_of_mem hy)
  have hstable := (yields_iff_stable hsequential hindependent previous planned).1 ⟨last, h⟩
  have hindependent' : ∀ y ∈ yields', sc.Independent w y.rule :=
    fun y hy => hindependent y (hsame.mem_iff.1 hy)
  obtain ⟨last', hyields'⟩ := (yields_iff_stable hsequential hindependent' previous planned).2
    fun y hy => hstable y (hsame.mem_iff.1 hy)
  exact ⟨yields', last', hsame.symm, hyields'⟩

/-! ## A scope with its rules in another order -/

theorem Became.holding {deps : List String} (h : Became w sc deps r planned steps next)
    (others : List Rule) : Became w (sc.holding others) deps r planned steps next :=
  h.transfer rfl rfl fun c _ hbelow hexpand => ⟨c, hbelow, hexpand⟩

/-- What rules yield depends on the scope around them, and not on what else stands in it. -/
theorem Yields.holding (h : Yields w sc previous rules planned yields last) (others : List Rule) :
    Yields w (sc.holding others) previous rules planned yields last := by
  induction h with
  | nil => exact .nil
  | cons hfresh hbecame _ ih => exact .cons hfresh (hbecame.holding others) ih

theorem ids_holding_perm (hperm : sc.rules.Perm rules') :
    (sc.ids w).Perm ((sc.holding rules').ids w) := by
  rw [Scope.ids_eq_flatMap, Scope.ids_eq_flatMap]
  exact hperm.flatMap_right (sc.idsFrom w)

namespace Siblings

/-- A name stands for the same in whatever order siblings have yielded. -/
theorem lookupField_table_perm (h : Siblings w sc yields)
    (h' : Siblings w (sc.holding rules') yields') (hperm : yields.Perm yields') (x : String) :
    lookupField (sc.table yields) x = lookupField ((sc.holding rules').table yields') x := by
  by_cases hsibling : ∃ y ∈ yields, sc.pathId y.rule = x
  · obtain ⟨y, hy, rfl⟩ := hsibling
    rw [h.lookupField_table hy]
    exact (h'.lookupField_table (hperm.mem_iff.1 hy)).symm
  · have hfree : ∀ y ∈ yields, sc.pathId y.rule ≠ x := fun y hy heq => hsibling ⟨y, hy, heq⟩
    have hfree' : ∀ y ∈ yields', (sc.holding rules').pathId y.rule ≠ x :=
      fun y hy => hfree y (hperm.mem_iff.2 hy)
    exact (lookupField_collect_of_ne .start hfree).trans
      (lookupField_collect_of_ne .start hfree').symm

/-- The steps of siblings that have yielded in another order are the same, in that order. -/
theorem finish_perm (h : Siblings w sc yields) (h' : Siblings w (sc.holding rules') yields')
    (hperm : yields.Perm yields') : (sc.collect .start yields).finish.Perm
      ((sc.holding rules').collect .start yields').finish := by
  rw [finish_collect, finish_collect]
  refine hperm.flatMap ?_
  intro y _
  refine List.Perm.of_eq (List.map_congr_left ?_)
  intro s _
  rw [Scope.settled, Scope.settled, Aliases.resolve_congr (h.lookupField_table_perm h' hperm)]

end Siblings

/-- Rules of a file without limits become the same steps in every order. -/
theorem exists_expand_perm (hperm : sc.rules.Perm rules') (hsequential : sc.sequential = false)
    (hnamed : ∀ r ∈ sc.rules, r.id ≠ "") (hunique : (sc.ids w).Nodup)
    (hunlimited : sc.Unlimited w) (h : sc.expand w planned = (.ok steps, last)) :
    ∃ steps' last', (sc.holding rules').expand w planned = (.ok steps', last') ∧
      steps.Perm steps' := by
  obtain ⟨yields, hyields, rfl⟩ := Scope.expand_eq_ok_iff.1 h
  obtain ⟨yields', last', hsame, hyields'⟩ :=
    hyields.exists_perm hsequential (fun r hr => hunlimited.independent hr) hperm
  have hyields' := hyields'.holding rules'
  have hunique' : ((sc.holding rules').ids w).Nodup := (ids_holding_perm hperm).nodup hunique
  have hnamed' : ∀ r ∈ (sc.holding rules').rules, r.id ≠ "" :=
    fun r hr => hnamed r (hperm.mem_iff.2 hr)
  refine ⟨_, last', Scope.expand_eq_ok_iff.2 ⟨yields', hyields', rfl⟩, ?_⟩
  exact (hyields.siblings hunique hnamed).finish_perm (hyields'.siblings hunique' hnamed') hsame

/-! ## The rules of a root rule file -/

theorem exists_run_perm (hperm : rules.Perm rules') (hnamed : (Scope.root rules).Identified w)
    (hunique : ((Scope.root rules).ids w).Nodup) (hunlimited : (Scope.root rules).Unlimited w)
    (h : run w rules = .ok steps) : ∃ steps', run w rules' = .ok steps' ∧ steps.Perm steps' := by
  obtain ⟨last, hexpand⟩ := run_eq_iff.1 h
  obtain ⟨steps', last', hexpand, hsame⟩ := exists_expand_perm hperm rfl (hnamed _ .self) hunique
    hunlimited hexpand
  exact ⟨steps', run_eq_iff.2 ⟨last', hexpand⟩, hsame⟩

/-- Rules in another order stand above the same scopes. -/
theorem Scope.Within.of_perm {inner : Scope} (hperm : sc.rules.Perm rules')
    (h : Scope.Within w (sc.holding rules') inner) :
    inner = sc.holding rules' ∨ Scope.Within w sc inner := by
  cases h with
  | self => exact Or.inl rfl
  | down hr hbelow hinner => exact Or.inr (.down (hperm.mem_iff.2 hr) hbelow hinner)

/-- What holds of all rules within a scope holds of them in another order. -/
theorem forall_within_perm {P : Rule → Prop} (hperm : sc.rules.Perm rules')
    (h : ∀ inner, Scope.Within w sc inner → ∀ r ∈ inner.rules, P r) :
    ∀ inner, Scope.Within w (sc.holding rules') inner → ∀ r ∈ inner.rules, P r := by
  intro inner hwithin r hr
  rcases hwithin.of_perm hperm with rfl | hwithin
  · exact h sc .self r (hperm.mem_iff.2 hr)
  · exact h inner hwithin r hr

/-- The order of the rules of a root rule file decides the order of the steps alone, if all rules
within it are named, have different path ids and may plan their actions more than once: rules in
another order fail if these do, and become the same steps if these do not. -/
theorem run_perm (hperm : rules.Perm rules') (hnamed : (Scope.root rules).Identified w)
    (hunique : ((Scope.root rules).ids w).Nodup) (hunlimited : (Scope.root rules).Unlimited w) :
    ((∃ steps, run w rules = .ok steps) ↔ ∃ steps', run w rules' = .ok steps') ∧
      ∀ steps steps', run w rules = .ok steps → run w rules' = .ok steps' → steps.Perm steps' := by
  have hroot : (Scope.root rules).rules.Perm rules' := hperm
  have hnamed' : (Scope.root rules').Identified w := forall_within_perm hroot hnamed
  have hunlimited' : (Scope.root rules').Unlimited w := forall_within_perm hroot hunlimited
  have hunique' : ((Scope.root rules').ids w).Nodup := (ids_holding_perm hroot).nodup hunique
  refine ⟨⟨?_, ?_⟩, ?_⟩
  · rintro ⟨steps, hrun⟩
    obtain ⟨steps', hrun', -⟩ := exists_run_perm hperm hnamed hunique hunlimited hrun
    exact ⟨steps', hrun'⟩
  · rintro ⟨steps', hrun'⟩
    obtain ⟨steps, hrun, -⟩ := exists_run_perm hperm.symm hnamed' hunique' hunlimited' hrun'
    exact ⟨steps, hrun⟩
  · intro steps steps' hrun hrun'
    obtain ⟨found, hfound, hsame⟩ := exists_run_perm hperm hnamed hunique hunlimited hrun
    obtain rfl := Except.ok.inj (hfound.symm.trans hrun')
    exact hsame

/-! ## A rule that names one behind it, or in front of it -/

/-- Launch after a preparation of two steps. -/
def launchRules : List Rule :=
  [{ bareRule "launch" "ship" with dependsOn := ["prep"] },
   { bareRule "prep" "" with steps := [bareRule "probe" "probe", bareRule "clean" "wipe"] }]

/-- The preparation in front. -/
def launchRules' : List Rule := launchRules.reverse

/-- The steps of a launch are the same in both orders, and so is what the launch depends on. -/
theorem run_perm_launch :
    ∃ steps steps', run bareSetting launchRules = .ok steps ∧
      run bareSetting launchRules' = .ok steps' ∧
      steps.map (fun s => (s.id, s.dependsOn)) =
        [("launch", ["prep-probe", "prep-clean"]), ("prep-probe", []),
          ("prep-clean", ["prep-probe"])] ∧
      steps'.map Step.id = ["prep-probe", "prep-clean", "launch"] ∧ steps.Perm steps' := by
  have hids : (Scope.root launchRules).ids bareSetting =
      ["launch", "prep", "prep-probe", "prep-clean"] := by cbv
  have hunique : ((Scope.root launchRules).ids bareSetting).Nodup := by
    rw [hids]
    decide
  have hnamed : (Scope.root launchRules).Identified bareSetting := by
    intro inner hwithin r hr
    exact hwithin.id_ne_empty (by simp [hids]) hr
  have hunlimited : (Scope.root launchRules).Unlimited bareSetting := by
    intro inner hwithin
    rcases hwithin.rules_eq (by decide) (by decide) with rfl | ⟨r, hr, hsteps⟩
    · decide
    · have hsteps' : ∀ r ∈ launchRules, ∀ child ∈ r.steps, child.once = false := by decide
      exact hsteps ▸ hsteps' r hr
  have hreverse : launchRules.Perm launchRules' := (List.reverse_perm launchRules).symm
  obtain ⟨-, hsame⟩ := run_perm hreverse hnamed hunique hunlimited
  have hrun : run bareSetting launchRules = .ok
      [bareStep "launch" "ship" ["prep-probe", "prep-clean"],
       bareStep "prep-probe" "probe" [],
       bareStep "prep-clean" "wipe" ["prep-probe"]] := by cbv
  have hrun' : run bareSetting launchRules' = .ok
      [bareStep "prep-probe" "probe" [],
       bareStep "prep-clean" "wipe" ["prep-probe"],
       bareStep "launch" "ship" ["prep-probe", "prep-clean"]] := by cbv
  exact ⟨_, _, hrun, hrun', rfl, rfl, hsame _ _ hrun hrun'⟩

end Remediation.Expansion
