import Remediation.Proofs.Expansion.Between
import Remediation.Proofs.Expansion.Flattening
/-!
# A rule that becomes nothing leaves no trace

One more rule changes nothing if it depends on nothing, no rule names it, and it becomes nothing
wherever expansion arrives at it (`run_insert`).  It may go between any two rules, of the root rule
file, of an included file or of the steps of a rule, however deep.

Scope by scope, from below, the expansion with the rule becomes what the expansion without it becomes
(`Opening.Keeps`).  There are three kinds of scopes: those that hold the same rules, those that the
rule is in, and those that it is in among the steps of one of their rules.
-/

set_option autoImplicit false

namespace Remediation.Expansion

variable {w : Setting} {sc : Scope} {r x : Rule} {front behind : List Rule}
  {planned last : List String} {steps : List Step} {previous : String}

/-- Of a rule, the steps of a scope show its id, and whether it stands for other rules. -/
theorem Scope.collect_rule (sc : Scope) {r r' : Rule} (hid : r.id = r'.id)
    (hcomposite : r.isComposite = r'.isComposite) (p : Progress) (first second : List Yield)
    (deps : List String) (steps : List Step) :
    sc.collect p (first ++ ⟨r, deps, steps⟩ :: second) =
      sc.collect p (first ++ ⟨r', deps, steps⟩ :: second) := by
  simp only [collect, List.foldl_append, List.foldl_cons, pathId, hid, hcomposite]

/-! ## A rule in an opening -/

/-- A rule in an opening that nobody takes notice of, wherever the opening lies. -/
structure Opening.Unnoticed (o : Opening) (w : Setting) (root : List Rule) (x : Rule) : Prop where
  fits : o.Fits w root
  plain : x.dependsOn = []
  /-- All rules are named, that in the opening too. -/
  named : (Scope.root (o.ruleFile root x)).Identified (o.setting w x)
  /-- All rules have different path ids, that in the opening too. -/
  unique : ((Scope.root (o.ruleFile root x)).ids (o.setting w x)).Nodup
  /-- No rule names the one in the opening. -/
  unnamed : ∀ c front behind,
    o.Lies (o.setting w x) (.root (o.ruleFile root x)) x c (.here front behind) →
    (Scope.root (o.ruleFile root x)).Ignores (o.setting w x) (c.pathId x)
  /-- When expansion arrives at the rule in the opening, the rule becomes nothing. -/
  silent : ∀ c front behind,
    o.Lies (o.setting w x) (.root (o.ruleFile root x)) x c (.here front behind) →
    ∀ previous planned,
    Arrives (o.setting w x) (.root (o.ruleFile root x)) c previous (x :: behind) planned →
    ∃ next, rule (o.setting w x) c.history c.frame (c.deps previous x) x planned = (.ok [], next)

/-- A scope becomes the same with a rule in the opening. -/
def Opening.Keeps (o : Opening) (w : Setting) (root : List Rule) (x : Rule) (sc : Scope) : Prop :=
  ∀ found planned steps last,
    Scope.Within (o.setting w x) (.root (o.ruleFile root x)) (sc.holding found) →
    o.Grown (o.setting w x) (.root (o.ruleFile root x)) x sc found →
    Arrives (o.setting w x) (.root (o.ruleFile root x)) (sc.holding found) "" found planned →
    sc.expand w planned = (.ok steps, last) →
    (sc.holding found).expand (o.setting w x) planned = (.ok steps, last)

namespace Opening.Unnoticed

variable {o : Opening} {root found : List Rule} {deps next : List String} {rest : List Rule}

/-- A rule becomes the same if the scope below it does. -/
theorem became (h : o.Unnoticed w root x)
    (hbelow : ∀ c, sc.below? w r = some c → o.Keeps w root x c)
    (hwithin : Scope.Within (o.setting w x) (.root (o.ruleFile root x)) (sc.holding found))
    (hr : r ∈ found)
    (harrives : Arrives (o.setting w x) (.root (o.ruleFile root x)) (sc.holding found) previous
      (r :: rest) planned)
    (hbecame : Became w sc deps r planned steps next) :
    Became (o.setting w x) (sc.holding found) deps r planned steps next := by
  refine hbecame.transfer Opening.facts_setting Opening.definition_setting ?_
  intro c happlies hscope hexpand
  obtain ⟨found', hscope', hgrown⟩ := h.fits.exists_below hr hwithin hscope
  exact ⟨c.holding found', hscope', hbelow c hscope found' planned steps next
    (hwithin.trans (.down hr hscope' .self)) hgrown (harrives.down happlies hscope') hexpand⟩

/-- A scope that the opening is not in, other than below its rules. -/
theorem keeps_same (h : o.Unnoticed w root x)
    (hbelow : ∀ r ∈ sc.rules, ∀ c, sc.below? w r = some c → o.Keeps w root x c)
    (hwithin : Scope.Within (o.setting w x) (.root (o.ruleFile root x)) (sc.holding sc.rules))
    (harrives : Arrives (o.setting w x) (.root (o.ruleFile root x)) (sc.holding sc.rules) ""
      sc.rules planned) (hexpand : sc.expand w planned = (.ok steps, last)) :
    (sc.holding sc.rules).expand (o.setting w x) planned = (.ok steps, last) := by
  obtain ⟨yields, hyields, rfl⟩ := Scope.expand_eq_ok_iff.1 hexpand
  have hall : Arrives (o.setting w x) (.root (o.ruleFile root x)) (sc.holding sc.rules) ""
      (sc.rules ++ []) planned := by rwa [List.append_nil]
  obtain ⟨hyields', -⟩ := hyields.transfer hall
    fun r hr _ _ _ _ _ _ harrives => h.became (hbelow r hr) hwithin hr harrives
  exact Scope.expand_eq_ok_iff.2 ⟨yields, hyields', rfl⟩

/-- A scope that the opening is in. -/
theorem keeps_here (h : o.Unnoticed w root x) (hrules : sc.rules = front ++ behind)
    (hlies : o.Lies (o.setting w x) (.root (o.ruleFile root x)) x
      (sc.holding (front ++ x :: behind)) (.here front behind))
    (hbelow : ∀ r ∈ sc.rules, ∀ c, sc.below? w r = some c → o.Keeps w root x c)
    (hwithin : Scope.Within (o.setting w x) (.root (o.ruleFile root x))
      (sc.holding (front ++ x :: behind)))
    (harrives : Arrives (o.setting w x) (.root (o.ruleFile root x))
      (sc.holding (front ++ x :: behind)) "" (front ++ x :: behind) planned)
    (hexpand : sc.expand w planned = (.ok steps, last)) :
    (sc.holding (front ++ x :: behind)).expand (o.setting w x) planned = (.ok steps, last) := by
  obtain ⟨yields, hyields, rfl⟩ := Scope.expand_eq_ok_iff.1 hexpand
  rw [hrules] at hyields
  obtain ⟨first, second, between, rfl, hfirst, hsecond⟩ := hyields.exists_append
  have hbetween : (sc.holding (front ++ x :: behind)).Between (o.setting w x) front x behind :=
    { rules := rfl
      plain := h.plain
      named := fun inner hinner => h.named inner (hwithin.trans hinner)
      unique := hwithin.ids_sublist.nodup h.unique
      ignores := (h.unnamed _ _ _ hlies).within hwithin }
  obtain ⟨hfirst, hmiddle⟩ := hfirst.transfer harrives fun r hr _ _ _ _ _ _ harrives =>
    h.became (hbelow r (by simp [hrules, hr])) hwithin (by simp [hr]) harrives
  obtain ⟨next, hrule⟩ := h.silent _ _ _ hlies _ _ hmiddle
  obtain ⟨hfresh, hnothing⟩ := rule_eq_ok_iff.1 hrule
  obtain rfl := hnothing.planned_eq
  obtain ⟨second', hsecond', hsame⟩ := hbetween.exists_behind hsecond
    (hmiddle.next hfresh hnothing) fun r hr _ _ _ _ _ _ harrives =>
      h.became (hbelow r (by simp [hrules, hr])) hwithin (by simp [hr]) harrives
  have hall := hfirst.append (.cons hfresh hnothing hsecond')
  have hsiblings := hall.siblings hbetween.unique (hbetween.named _ .self)
  have hfront := hbetween.map_bypassing hsiblings (List.subset_append_left first second')
    (hbetween.notMem_deps_front hfirst)
  have hthere := hsiblings.finish_silent (hbetween.transparent hfirst hsecond' hsiblings)
  rw [List.map_append] at hthere
  refine Scope.expand_eq_ok_iff.2 ⟨_, hall, ?_⟩
  rw [hthere]
  exact congrArg (fun yields => (sc.collect .start yields).finish)
    (congrArg₂ (· ++ ·) hfront (hsame first hsiblings)).symm

/-- A rule that has one more rule among its steps becomes the same. -/
theorem became_inside {spot : Spot} (hsound : (Spot.inside front r spot behind).Sound)
    (hlies : o.Lies (o.setting w x) (.root (o.ruleFile root x)) x (sc.holding found)
      (.inside front r spot behind))
    (hbelow : ∀ c, sc.below? w (stepping r spot.around) = some c → o.Keeps w root x c)
    (hwithin : Scope.Within (o.setting w x) (.root (o.ruleFile root x)) (sc.holding found))
    (hr : stepping r (spot.filled x) ∈ found)
    (harrives : Arrives (o.setting w x) (.root (o.ruleFile root x)) (sc.holding found) previous
      (stepping r (spot.filled x) :: rest) planned)
    (hbecame : Became w sc deps (stepping r spot.around) planned steps next) :
    Became (o.setting w x) (sc.holding found) deps (stepping r (spot.filled x)) planned steps
      next := by
  obtain ⟨hreference, hsteps, hsound⟩ := hsound
  have hscope : sc.below? w (stepping r spot.around) =
      some ⟨sc.history, ⟨sc.pathId r, sc.frame.overrides⟩, true, spot.around⟩ :=
    Scope.below?_of_steps hreference hsteps
  have hscope' : (sc.holding found).below? (o.setting w x) (stepping r (spot.filled x)) =
      some ⟨sc.history, ⟨sc.pathId r, sc.frame.overrides⟩, true, spot.filled x⟩ :=
    Scope.below?_of_steps hreference (spot.filled_ne_nil x)
  have happlies : applies (o.setting w x) (sc.pathId r) (stepping r (spot.filled x)) =
      applies w (sc.pathId r) (stepping r spot.around) :=
    applies_congr Opening.facts_setting (sc.pathId r) (stepping r spot.around)
  cases hbecame with
  | refused hno => exact .refused (happlies.trans hno)
  | inside hyes hthis hexpand =>
    obtain rfl := Option.some.inj (hscope.symm.trans hthis)
    refine .inside (happlies.trans hyes) hscope' (hbelow _ hscope _ _ _ _ ?_ ?_ ?_ hexpand)
    · exact hwithin.trans (.down hr hscope' .self)
    · exact .spot hsound rfl hlies.inside
    · exact harrives.down (happlies.trans hyes) hscope'
  | repeated _ hleaf =>
    rw [Scope.isComposite_of_below hscope] at hleaf
    cases hleaf
  | leaf _ hleaf =>
    rw [Scope.isComposite_of_below hscope] at hleaf
    cases hleaf

/-- A scope that the opening is in, among the steps of a rule. -/
theorem keeps_inside (h : o.Unnoticed w root x) {spot : Spot}
    (hsound : (Spot.inside front r spot behind).Sound)
    (hrules : sc.rules = (Spot.inside front r spot behind).around)
    (hlies : o.Lies (o.setting w x) (.root (o.ruleFile root x)) x
      (sc.holding ((Spot.inside front r spot behind).filled x)) (.inside front r spot behind))
    (hbelow : ∀ r ∈ sc.rules, ∀ c, sc.below? w r = some c → o.Keeps w root x c)
    (hwithin : Scope.Within (o.setting w x) (.root (o.ruleFile root x))
      (sc.holding ((Spot.inside front r spot behind).filled x)))
    (harrives : Arrives (o.setting w x) (.root (o.ruleFile root x))
      (sc.holding ((Spot.inside front r spot behind).filled x)) ""
      ((Spot.inside front r spot behind).filled x) planned)
    (hexpand : sc.expand w planned = (.ok steps, last)) :
    (sc.holding ((Spot.inside front r spot behind).filled x)).expand (o.setting w x) planned =
      (.ok steps, last) := by
  obtain ⟨yields, hyields, rfl⟩ := Scope.expand_eq_ok_iff.1 hexpand
  rw [hrules] at hyields
  obtain ⟨first, second, between, rfl, hfirst, hsecond⟩ := hyields.exists_append
  obtain ⟨hfirst, hmiddle⟩ := hfirst.transfer harrives fun r hr _ _ _ _ _ _ harrives =>
    h.became (hbelow r (by simp [hrules, Spot.around, hr])) hwithin (by simp [Spot.filled, hr])
      harrives
  cases hsecond with
  | @cons _ _ _ _ next _ steps second hfresh hthis hrest =>
    have hthere := became_inside hsound hlies (hbelow _ (by simp [hrules, Spot.around])) hwithin
      (by simp [Spot.filled]) hmiddle hthis
    have hnext : Arrives (o.setting w x) (.root (o.ruleFile root x))
        (sc.holding ((Spot.inside front r spot behind).filled x)) r.id (behind ++ []) next := by
      rw [List.append_nil]
      exact hmiddle.next hfresh hthere
    obtain ⟨hrest, -⟩ := hrest.transfer hnext fun r hr _ _ _ _ _ _ harrives =>
      h.became (hbelow r (by simp [hrules, Spot.around, hr])) hwithin (by simp [Spot.filled, hr])
        harrives
    have hcomposite : (stepping r spot.around).isComposite =
        (stepping r (spot.filled x)).isComposite :=
      (isComposite_stepping r hsound.2.1).trans (isComposite_stepping r (spot.filled_ne_nil x)).symm
    have hid : (stepping r spot.around).id = (stepping r (spot.filled x)).id := rfl
    refine Scope.expand_eq_ok_iff.2 ⟨_, hfirst.append (.cons hfresh hthere hrest), ?_⟩
    exact congrArg Progress.finish (sc.collect_rule hid hcomposite .start first second _ steps)

/-- Every scope becomes the same with the rule in the opening. -/
theorem keeps (h : o.Unnoticed w root x) (sc : Scope) : o.Keeps w root x sc := by
  induction sc using Scope.induction w with
  | _ sc ih =>
    intro found planned steps last hwithin hgrown harrives hexpand
    cases hgrown with
    | same => exact h.keeps_same ih hwithin harrives hexpand
    | @spot spot hsound hrules hlies =>
      cases spot with
      | here front behind => exact h.keeps_here hrules hlies ih hwithin harrives hexpand
      | inside front r spot behind =>
        exact h.keeps_inside hsound hrules hlies ih hwithin harrives hexpand

end Opening.Unnoticed

/-- A rule in an opening that nobody takes notice of changes nothing: the same steps are planned. -/
theorem run_insert {o : Opening} {root : List Rule} (h : o.Unnoticed w root x)
    (hrun : run w root = .ok steps) : run (o.setting w x) (o.ruleFile root x) = .ok steps := by
  obtain ⟨last, hexpand⟩ := run_eq_iff.1 hrun
  have hroot := h.keeps (.root root) (o.ruleFile root x) [] steps last .self h.fits.grown_root .start
  exact run_eq_iff.2 ⟨last, hroot hexpand⟩

/-! ## A rule among the steps of an included file -/

/-- A table of contents that is filled and then posted. -/
def tocRule : Rule :=
  { bareRule "toc" "" with steps := [bareRule "fill" "write", bareRule "post" "publish"] }

/-- A rule file that includes the table of contents. -/
def bookRules : List Rule := [{ bareRule "book" "" with reference := "toc.yaml" }]

/-- A setting with the rule file of the table of contents. -/
def bookSetting : Setting := { bareSetting with library := some [("toc.yaml", .ok [tocRule])] }

/-- Between filling and posting. -/
def tocOpening : Opening where
  file := some "toc.yaml"
  spot := .inside [] tocRule (.here [bareRule "fill" "write"] [bareRule "post" "publish"]) []

/-- A review that is not called for. -/
def reviewRule : Rule := { bareRule "read" "review" with condition := "false" }

/-- The scope of the table of contents with the review in it. -/
def tocScope : Scope := ⟨["toc.yaml"], ⟨"book", []⟩, false, tocOpening.spot.filled reviewRule⟩

theorem ids_bookRules : (Scope.root (tocOpening.ruleFile bookRules reviewRule)).ids
    (tocOpening.setting bookSetting reviewRule) =
    ["book", "book-toc", "book-toc-fill", "book-toc-read", "book-toc-post"] := by cbv

theorem dependsOn_of_within_book {inner : Scope}
    (h : Scope.Within (tocOpening.setting bookSetting reviewRule) (.root bookRules) inner) :
    ∀ r ∈ inner.rules, r.dependsOn = [] := by
  cases h with
  | self => decide
  | @down _ c _ r hr hbelow hinner =>
    obtain rfl := List.mem_singleton.1 hr
    have hscope : (Scope.root bookRules).below? (tocOpening.setting bookSetting reviewRule)
        { bareRule "book" "" with reference := "toc.yaml" } = some tocScope := by cbv
    obtain rfl := Option.some.inj (hscope.symm.trans hbelow)
    rcases hinner.rules_eq (by decide) (by decide) with rfl | ⟨r, hr, hsteps⟩
    · decide
    · have hall : ∀ r ∈ tocScope.rules, ∀ child ∈ r.steps, child.dependsOn = [] := by decide
      exact hsteps ▸ hall r hr

theorem unnoticed_review : tocOpening.Unnoticed bookSetting bookRules reviewRule where
  fits :=
    { sound := ⟨rfl, by decide, trivial⟩
      root := fun h => by cases h
      loaded := fun ref h => by cases h; rfl }
  plain := rfl
  named := by
    intro inner hwithin r hr
    exact hwithin.id_ne_empty (by simp [ids_bookRules]) hr
  unique := by
    rw [ids_bookRules]
    decide
  unnamed := by
    intro c front behind _ inner hwithin r hr
    simp [dependsOn_of_within_book hwithin r hr]
  silent := by
    intro c front behind _ previous planned _
    have hfacts : (tocOpening.setting bookSetting reviewRule).facts = bareSetting.facts :=
      Opening.facts_setting
    have happlies := (applies_congr hfacts (c.pathId reviewRule) reviewRule).trans (applies_legacy rfl)
    exact ⟨planned, rule_of_refused (fun hreference => absurd rfl hreference) happlies⟩

/-- What is posted stands behind what is filled in, with and without the review. -/
theorem run_insert_review : ∃ steps, run bookSetting bookRules = .ok steps ∧
    steps.map (fun s => (s.id, s.dependsOn)) =
      [("book-toc-fill", []), ("book-toc-post", ["book-toc-fill"])] ∧
    run (tocOpening.setting bookSetting reviewRule) (tocOpening.ruleFile bookRules reviewRule) =
      .ok steps := by
  have hrun : run bookSetting bookRules = .ok
      [bareStep "book-toc-fill" "write" [],
       bareStep "book-toc-post" "publish" ["book-toc-fill"]] := by cbv
  exact ⟨_, hrun, rfl, run_insert unnoticed_review hrun⟩

end Remediation.Expansion
