import Remediation.Proofs.Expansion.Precedence
/-!
# Dependencies that a scope resolves

A rule of a root rule file becomes the same steps as by itself, and only what they depend on changes
when its siblings have been expanded too.  A dependency changes if it is the id of one of the siblings,
and all others stay (`dependsOn_of_run`).

Siblings are found by their path ids alone.  If one has the path id of a step inside of another one,
the dependencies on that step are taken to be on the sibling: they are lost where the sibling becomes
nothing (`dependsOn_captured`).
-/

set_option autoImplicit false

namespace Remediation.Expansion

open Schedule (ids)

variable {w : Setting} {sc : Scope} {yields : List Yield} {rules front behind : List Rule} {c : Rule}
  {steps inner : List Step} {planned next last : List String}

/-! ## What the ids of rules stand for -/

/-- What the ids of the rules of a scope stand for when all of them have been expanded. -/
def Scope.aliases (w : Setting) (sc : Scope) (planned : List String) : Aliases :=
  match each w sc.history sc.frame sc.sequential "" sc.rules .start planned with
  | (.ok progress, _) => progress.aliases
  | (.error _, _) => []

theorem Yields.aliases_eq (h : Yields w sc "" sc.rules planned yields last) :
    sc.aliases w planned = sc.table yields := by
  rw [Scope.aliases, Scope.each_eq_ok_iff.2 ⟨yields, h, rfl⟩]
  rfl

/-- A step keeps the dependencies that are the path ids of no rule of the scope. -/
theorem mem_dependsOn_settled_of_ne {y : Yield} {s : Step} {d : String} (hd : d ∈ s.dependsOn)
    (hfree : ∀ y ∈ yields, sc.pathId y.rule ≠ d) : d ∈ (sc.settled yields y s).dependsOn := by
  have hends : (sc.table yields).EndOf d d := (ends_table_of_ne hfree).endOf_iff.2 rfl
  exact mem_dependsOn_settled.2 ⟨d, Or.inl hd, hends⟩

/-- A dependency was there before or was inherited, unless it is what a rule of the scope stands for
that was depended on. -/
theorem dependsOn_settled_cases {y : Yield} {s : Step} {d : String}
    (hd : d ∈ (sc.settled yields y s).dependsOn) : ∃ x, (x ∈ s.dependsOn ∨ x ∈ y.deps) ∧
      (d = x ∨ (∃ y' ∈ yields, sc.pathId y'.rule = x) ∧ (sc.table yields).EndOf x d) := by
  obtain ⟨x, hx, hend⟩ := mem_dependsOn_settled.1 hd
  refine ⟨x, hx.imp_right And.right, ?_⟩
  by_cases hsibling : ∃ y' ∈ yields, sc.pathId y'.rule = x
  · exact Or.inr ⟨hsibling, hend⟩
  · left
    have hends : (sc.table yields).Ends x :=
      ends_table_of_ne fun y' hy' heq => hsibling ⟨y', hy', heq⟩
    exact hends.endOf_iff.1 hend

/-! ## One rule of a root rule file -/

theorem Scope.pathId_root (rules : List Rule) (r : Rule) : (Scope.root rules).pathId r = r.id :=
  Frame.id_root r.id

theorem Scope.deps_root (rules : List Rule) (previous : String) (r : Rule) :
    (Scope.root rules).deps previous r = r.dependsOn := by
  have hroot : (Scope.root rules).frame.id = id := by
    funext child
    exact Frame.id_root child
  rw [Scope.deps, hroot, List.map_id]
  rfl

/-- The rules in front of others leave the actions planned that they leave planned by themselves. -/
theorem Yields.planned_eq (h : Yields w (.root rules) "" front planned yields next) :
    ((Scope.root front).expand w planned).2 = next := by
  have heach : each w (Scope.root rules).history (Scope.root rules).frame
      (Scope.root rules).sequential "" front .start planned =
        (.ok ((Scope.root rules).collect .start yields), next) :=
    Scope.each_eq_ok_iff.2 ⟨yields, h, rfl⟩
  simp only [Scope.root] at heach
  rw [Scope.expand, scope]
  simp only [Scope.root, heach]

/-- A rule of a root rule file yields there what it becomes by itself. -/
theorem exists_yields_of_run (hrun : run w (front ++ c :: behind) = .ok steps)
    (hinside : rule w [] .root c.dependsOn c ((Scope.root front).expand w []).2 =
      (.ok inner, next)) :
    ∃ yields last, Yields w (.root (front ++ c :: behind)) "" (front ++ c :: behind) [] yields last ∧
      steps = ((Scope.root (front ++ c :: behind)).collect .start yields).finish ∧
      ⟨c, c.dependsOn, inner⟩ ∈ yields := by
  rw [run_eq_expand] at hrun
  have hexpand : (Scope.root (front ++ c :: behind)).expand w [] = (.ok steps, _) :=
    Prod.ext hrun rfl
  obtain ⟨yields, hyields, hsteps⟩ := Scope.expand_eq_ok_iff.1 hexpand
  refine ⟨yields, _, hyields, hsteps, ?_⟩
  have hsplit : Yields w (.root (front ++ c :: behind)) "" (front ++ c :: behind) [] yields _ :=
    hyields
  obtain ⟨first, second, between, rfl, hfirst, hsecond⟩ := hsplit.exists_append
  cases hsecond with
  | cons hfresh hbecame _ =>
    have hrule := rule_eq_ok_iff.2 ⟨hfresh, hbecame⟩
    rw [Scope.deps_root] at hrule ⊢
    rw [hfirst.planned_eq] at hinside
    obtain ⟨hsame, -⟩ := Prod.mk.inj (hinside.symm.trans hrule)
    obtain rfl := Except.ok.inj hsame
    exact List.mem_append_right _ List.mem_cons_self

/-- Where the ids of steps are different, each step that a rule of a root rule file becomes by itself
is there when all rules have been expanded.  It keeps its dependencies, unless they are the ids of
rules of the file, and all its dependencies are its own or those of its rule, or what a rule of the
file stands for that is among them. -/
theorem dependsOn_of_run (hrun : run w rules = .ok steps) (hunique : (ids steps).Nodup)
    (hrules : rules = front ++ c :: behind)
    (hinside : rule w [] .root c.dependsOn c ((Scope.root front).expand w []).2 =
      (.ok inner, next)) {t : Step} (ht : t ∈ inner) :
    (∃ t' ∈ steps, t'.id = t.id) ∧ ∀ t' ∈ steps, t'.id = t.id →
      (∀ d ∈ t.dependsOn, (∀ r ∈ rules, r.id ≠ d) → d ∈ t'.dependsOn) ∧
      ∀ d ∈ t'.dependsOn, ∃ x, (x ∈ t.dependsOn ∨ x ∈ c.dependsOn) ∧
        (d = x ∨ (∃ r ∈ rules, r.id = x) ∧ ((Scope.root rules).aliases w []).EndOf x d) := by
  subst hrules
  obtain ⟨yields, last, hyields, rfl, hy⟩ := exists_yields_of_run hrun hinside
  generalize front ++ c :: behind = rules at hyields hunique ⊢
  have hleft : (Scope.root rules).settled yields ⟨c, c.dependsOn, inner⟩ t ∈
      ((Scope.root rules).collect .start yields).finish := mem_finish.2 ⟨_, hy, t, ht, rfl⟩
  refine ⟨⟨_, hleft, settled_id⟩, ?_⟩
  intro t' ht' hid
  obtain rfl := Schedule.eq_of_id_eq hunique ht' hleft (hid.trans settled_id.symm)
  constructor
  · intro d hd hfree
    refine mem_dependsOn_settled_of_ne hd ?_
    intro y hy heq
    exact hfree y.rule (hyields.rule_mem hy) ((Scope.pathId_root rules y.rule).symm.trans heq)
  · intro d hd
    obtain ⟨x, hx, hend⟩ := dependsOn_settled_cases hd
    refine ⟨x, hx, hend.imp_right ?_⟩
    rintro ⟨⟨y, hy, hname⟩, hend⟩
    have haliases : (Scope.root rules).aliases w [] = (Scope.root rules).table yields :=
      hyields.aliases_eq
    have hid : y.rule.id = x := (Scope.pathId_root rules y.rule).symm.trans hname
    exact ⟨⟨y.rule, hyields.rule_mem hy, hid⟩, haliases ▸ hend⟩

/-! ## A guide that is written and staged -/

/-- What the guide needs. -/
def setupRule : Rule := bareRule "setup" "setup"

/-- A guide that is written and then staged, behind the setup. -/
def guideRule : Rule :=
  { bareRule "docs" "" with
    dependsOn := ["setup"], steps := [bareRule "write" "write", bareRule "stage" "stage"] }

/-- The steps of the guide by itself. -/
def guideSteps : List Step :=
  [bareStep "docs-write" "write" [], bareStep "docs-stage" "stage" ["docs-write"]]

theorem rule_guideRule :
    rule bareSetting [] .root guideRule.dependsOn guideRule
      ((Scope.root [setupRule]).expand bareSetting []).2 =
        (.ok guideSteps, ["setup", "write", "stage"]) := by
  have hsetup : (Scope.root [setupRule]).expand bareSetting [] =
      (.ok [bareStep "setup" "setup" []], ["setup"]) := by cbv
  rw [hsetup]
  show rule bareSetting [] .root guideRule.dependsOn guideRule ["setup"] = _
  cbv

/-- The steps of the guide behind the setup. -/
def guidePlan : List Step :=
  [bareStep "setup" "setup" [], bareStep "docs-write" "write" ["setup"],
    bareStep "docs-stage" "stage" ["docs-write"]]

/-- The guide is still staged behind the step that writes it when the setup has been expanded too. -/
theorem dependsOn_of_run_guide :
    run bareSetting [setupRule, guideRule] = .ok guidePlan ∧ (ids guidePlan).Nodup ∧
    rule bareSetting [] .root guideRule.dependsOn guideRule
      ((Scope.root [setupRule]).expand bareSetting []).2 =
        (.ok guideSteps, ["setup", "write", "stage"]) ∧
    bareStep "docs-stage" "stage" ["docs-write"] ∈ guideSteps ∧
    ∀ t' ∈ guidePlan, t'.id = "docs-stage" → "docs-write" ∈ t'.dependsOn := by
  have hrun : run bareSetting [setupRule, guideRule] = .ok guidePlan := by cbv
  have hunique : (ids guidePlan).Nodup := by decide
  have hstage : bareStep "docs-stage" "stage" ["docs-write"] ∈ guideSteps := by simp [guideSteps]
  have hfree : ∀ r ∈ [setupRule, guideRule], r.id ≠ "docs-write" := by decide
  have hsplit : [setupRule, guideRule] = [setupRule] ++ guideRule :: [] := rfl
  refine ⟨hrun, hunique, rule_guideRule, hstage, ?_⟩
  intro t' ht' hid
  have hkept := dependsOn_of_run hrun hunique hsplit rule_guideRule hstage
  exact (hkept.2 t' ht' hid).1 "docs-write" List.mem_cons_self hfree

/-- A rule whose id is that of a step of the guide, and that becomes nothing behind the guide. -/
def captureRule : Rule := { bareRule "docs-write" "write" with once := true }

/-- The steps of the guide when the dependency of the one on the other is lost. -/
def capturedPlan : List Step :=
  [bareStep "setup" "setup" [], bareStep "docs-write" "write" ["setup"],
    bareStep "docs-stage" "stage" []]

/-- A sibling of the guide that becomes nothing takes the place of the step that writes it: the guide
is staged behind nothing. -/
theorem dependsOn_captured :
    rule bareSetting [] .root guideRule.dependsOn guideRule
      ((Scope.root [setupRule]).expand bareSetting []).2 =
        (.ok guideSteps, ["setup", "write", "stage"]) ∧
    (∃ s ∈ guideSteps, ∃ t ∈ guideSteps, t.id = "docs-stage" ∧ s.id ∈ t.dependsOn) ∧
    run bareSetting [setupRule, guideRule, captureRule] = .ok capturedPlan ∧
    (ids capturedPlan).Nodup ∧ ∀ t' ∈ capturedPlan, t'.id = "docs-stage" → t'.dependsOn = [] := by
  refine ⟨rule_guideRule, ?_, by cbv, by decide, ?_⟩
  · simp [guideSteps, bareStep]
  · simp [capturedPlan, bareStep]

end Remediation.Expansion
