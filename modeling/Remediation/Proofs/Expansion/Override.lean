import Remediation.Building
import Remediation.Proofs.Expansion.Flattening
import Remediation.Proofs.Rule
/-!
# Parameters that are written over others

A rule that includes a file writes its parameters over those of all rules below it, however deep they
stand; a rule with steps writes none.  The step of a leaf is filled from the leaf's own parameters with
those of the inclusions on its way written over them, the innermost ones first, so that of several
inclusions that set a parameter the outermost one counts (`expand_params`).

Going down, a frame takes the same parameters together the other way round: those of an inclusion with
those from above it written over them.
-/

set_option autoImplicit false

namespace Remediation

/-- The parameters that a rule writes over those of the rules below it. -/
def Rule.overrides (r : Rule) : Fields := if r.reference = "" then [] else r.parameters

namespace Rule.Keyed

variable {r : Rule}

theorem overrides (h : r.Keyed) : (r.overrides.map Prod.fst).Nodup := by
  unfold Rule.overrides
  split
  · exact List.nodup_nil
  · exact h.parameters

end Rule.Keyed

namespace Expansion

variable {w : Setting} {sc c : Scope} {r : Rule} {l : Leaf} {s : Step} {steps : List Step}
  {planned last : List String}

/-- The parameters of a leaf, with those of the inclusions on its way written over them from the
innermost one to the outermost one. -/
def Leaf.parameters (l : Leaf) : Fields :=
  l.above.foldr (fun r params => overlay params r.overrides) l.rule.parameters

theorem Leaf.parameters_under (r : Rule) (l : Leaf) :
    (l.under r).parameters = overlay l.parameters r.overrides := rfl

/-- What the outermost inclusion says that sets a parameter counts, or else what the leaf says. -/
theorem Leaf.lookupField_parameters (h : ∀ r ∈ l.above, r.Keyed) (name : String) :
    lookupField l.parameters name =
      (l.above.findSome? fun r => lookupField r.overrides name).or
        (lookupField l.rule.parameters name) := by
  obtain ⟨above, rule⟩ := l
  induction above with
  | nil => rfl
  | cons r above ih =>
    obtain ⟨hr, habove⟩ := List.forall_mem_cons.1 h
    have hunder : (⟨r :: above, rule⟩ : Leaf).parameters =
        overlay (⟨above, rule⟩ : Leaf).parameters r.overrides := rfl
    rw [hunder, lookupField_overlay hr.overrides, ih habove, List.findSome?_cons]
    cases lookupField r.overrides name <;> rfl

/-! ## Going down -/

/-- What is written over the parameters below a rule: what the rule says, and over it what is written
over the parameters of the rule. -/
theorem overlay_overrides_of_below (h : sc.below? w r = some c) (hr : r.Keyed) (params : Fields) :
    overlay (overlay params r.overrides) sc.frame.overrides = overlay params c.frame.overrides := by
  rcases Scope.below?_cases h with ⟨rules, hreference, -, -, rfl⟩ | ⟨hreference, -, rfl⟩
  · rw [Rule.overrides, if_neg hreference]
    exact overlay_overlay hr.parameters params _
  · rw [Rule.overrides, if_pos hreference]
    rfl

/-- No rule of a rule file sets a parameter twice. -/
def Setting.Keyed (w : Setting) : Prop :=
  ∀ rule ref found, w.load rule ref = .ok found → ∀ r ∈ found, r.Keyed

/-- So it is with the rule files that plans are built from. -/
theorem keyed_setting (workspace : Workspace) (catalogue : Action.Catalogue) (directory : Path)
    (rules : List Rule) (facts : Facts) :
    (Building.setting workspace catalogue directory rules facts).Keyed := by
  intro rule ref found hload
  have hmem := Setting.mem_of_load rfl hload
  obtain ⟨_, -, heq⟩ := List.mem_map.1 hmem
  obtain ⟨rfl, hfollow⟩ := Prod.mk.inj heq
  exact RuleFile.keyed_of_follow hfollow

theorem Setting.Keyed.below (hw : w.Keyed) (hr : r.Keyed) (h : sc.below? w r = some c) :
    ∀ r ∈ c.rules, r.Keyed := by
  rcases Scope.below?_cases h with ⟨rules, -, -, hload, rfl⟩ | ⟨-, -, rfl⟩
  · exact hw _ _ _ hload
  · exact hr.steps

namespace Scope.Plans

/-- A step does the action of its leaf. -/
theorem action_eq (h : sc.Plans w l s) : s.action = l.rule.action := by
  induction h with
  | leaf => rfl
  | under _ _ _ ih => exact ih
  | settled yields y _ ih =>
    rw [settled_eq_with]
    exact ih

theorem keyed (h : sc.Plans w l s) (hw : w.Keyed) (hrules : ∀ r ∈ sc.rules, r.Keyed) :
    ∀ r ∈ l.above, r.Keyed := by
  induction h with
  | leaf => exact List.forall_mem_nil _
  | under hr hbelow _ ih =>
    exact List.forall_mem_cons.2 ⟨hrules _ hr, ih (hw.below (hrules _ hr) hbelow)⟩
  | settled _ _ _ ih => exact ih hrules

/-- A step is filled from the parameters of its leaf, with those written over them that come from above
the scope. -/
theorem params_eq (h : sc.Plans w l s) (hw : w.Keyed) (hrules : ∀ r ∈ sc.rules, r.Keyed) :
    ∃ definition, w.definition l.rule.action = .ok definition ∧
      materialize w.facts definition.schema (overlay l.parameters sc.frame.overrides) =
        .ok s.params := by
  induction h with
  | leaf deps _ hdefinition hparams => exact ⟨_, hdefinition, hparams⟩
  | under hr hbelow _ ih =>
    have hkeyed := hrules _ hr
    obtain ⟨definition, hdefinition, hparams⟩ := ih (hw.below hkeyed hbelow)
    refine ⟨definition, hdefinition, ?_⟩
    rw [Leaf.parameters_under, overlay_overrides_of_below hbelow hkeyed]
    exact hparams
  | settled yields y _ ih =>
    rw [settled_eq_with]
    exact ih hrules

end Scope.Plans

/-- Each step that rules are expanded to does the action of a leaf and is filled, by the schema of that
action, from the leaf's parameters with those of the inclusions on its way written over them.  Under
each name these hold what the outermost inclusion on the way says that sets it, or else what the leaf
says; rules with steps of their own say nothing. -/
theorem expand_params {rules : List Rule} (hw : w.Keyed) (hrules : ∀ r ∈ rules, r.Keyed)
    (h : (Scope.root rules).expand w planned = (.ok steps, last)) :
    List.Forall₂ (fun (l : Leaf) (s : Step) => s.action = l.rule.action ∧
        (∃ definition, w.definition s.action = .ok definition ∧
          materialize w.facts definition.schema l.parameters = .ok s.params) ∧
        ∀ name, lookupField l.parameters name =
          (l.above.findSome? fun r => lookupField r.overrides name).or
            (lookupField l.rule.parameters name))
      (flatten planned (((Scope.root rules).leaves w).filter (Leaf.holds w.facts))) steps := by
  refine (plans_of_expand h).steps.imp ?_
  intro l s hplans
  obtain ⟨definition, hdefinition, hparams⟩ := hplans.params_eq hw hrules
  refine ⟨hplans.action_eq, ⟨definition, ?_, hparams⟩, ?_⟩
  · rw [hplans.action_eq, hdefinition]
  · exact l.lookupField_parameters (hplans.keyed hw hrules)

/-- A site, whose retries count. -/
def siteRules : List Rule :=
  [{ bareRule "site" "" with reference := "site", parameters := [("retries", .int 3)] }]

/-- The file of a site, and that of a unit of it. -/
def siteLibrary : Library :=
  [("site", .ok [{ bareRule "unit" "" with
      reference := "unit", parameters := [("retries", .int 2), ("depth", .int 7)] }]),
   ("unit", .ok [{ bareRule "all" "" with
      parameters := [("depth", .int 9)]
      steps := [{ bareRule "scan" "scan" with
        parameters := [("level", .int 0), ("depth", .int 5), ("retries", .int 1)] }] }])]

/-- Actions as in the bare setting, and the files of a site. -/
def siteSetting : Setting := { bareSetting with library := some siteLibrary }

/-- The step of the leaf, with the retries of the site and the depth of the unit. -/
def scanStep : Step := { bareStep "site-unit-all-scan" "scan" [] with
  params := [("level", .int 0), ("depth", .int 7), ("retries", .int 3)] }

theorem expand_siteRules :
    (Scope.root siteRules).expand siteSetting [] = (.ok [scanStep], ["scan"]) := by cbv

theorem keyed_siteSetting : siteSetting.Keyed := by
  intro rule ref found hload
  rcases List.mem_pair.1 (Setting.mem_of_load rfl hload) with heq | heq
  · obtain ⟨-, rfl⟩ := heq
    exact List.forall_mem_singleton.2 (.intro (by decide) (List.forall_mem_nil _))
  · obtain ⟨-, rfl⟩ := heq
    refine List.forall_mem_singleton.2 (.intro (by decide) ?_)
    exact List.forall_mem_singleton.2 (.intro (by decide) (List.forall_mem_nil _))

/-- The retries are those of the site, and the depth is that of the unit; what the rule between the unit
and the leaf says does not count. -/
theorem expand_params_site : siteSetting.Keyed ∧ (∀ r ∈ siteRules, r.Keyed) ∧
    (Scope.root siteRules).expand siteSetting [] = (.ok [scanStep], ["scan"]) ∧
    ∃ l, flatten [] (((Scope.root siteRules).leaves siteSetting).filter
      (Leaf.holds siteSetting.facts)) = [l] ∧
      materialize [] [] l.parameters =
        .ok [("level", .int 0), ("depth", .int 7), ("retries", .int 3)] := by
  have hrules : ∀ r ∈ siteRules, r.Keyed :=
    List.forall_mem_singleton.2 (.intro (by decide) (List.forall_mem_nil _))
  have hsteps := expand_params keyed_siteSetting hrules expand_siteRules
  obtain ⟨l, rest, ⟨-, ⟨definition, hdefinition, hparams⟩, -⟩, hrest, heq⟩ :=
    List.forall₂_cons_right_iff.1 hsteps
  rw [List.forall₂_nil_right_iff.1 hrest] at heq
  obtain rfl := Except.ok.inj hdefinition
  exact ⟨keyed_siteSetting, hrules, expand_siteRules, l, heq, hparams⟩

end Expansion

end Remediation
