import Remediation.Proofs.Building.Documents
import Remediation.Proofs.Expansion.Inclusion
import Remediation.Proofs.Placeholders
/-!
# Which files need what is missing

What cannot be filled in when rules are expanded is a name that no fact has.  It stands in the parameters
of a rule or, if these are written over, in those of a rule above it that includes a file: in either
case it is needed by the root rule file or by one that references lead to (`demanded_of_run`).
-/

set_option autoImplicit false

namespace Remediation.Expansion

variable {w : Setting} {sc c inner : Scope} {rules : List Rule} {r : Rule} {name : String}
  {names planned last : List String} {place : Whereabouts}

/-! ## Where names stand -/

/-- A name is needed by the rules of a root rule file or of one that references lead to. -/
def Demanded (w : Setting) (rules : List Rule) (name : String) : Prop :=
  ∃ history file, Follows w rules history file ∧ name ∈ RuleFile.required file

/-- The rules of a scope, and what is written over their parameters, need names that files need. -/
structure Scope.Demands (w : Setting) (rules : List Rule) (sc : Scope) : Prop where
  included : sc.Included w rules
  own : ∀ name ∈ RuleFile.required sc.rules, Demanded w rules name
  overrides : ∀ name ∈ (Value.ofFields sc.frame.overrides).placeholders, Demanded w rules name

namespace Scope

theorem demands_root (rules : List Rule) : (root rules).Demands w rules where
  included := included_root rules
  own := fun name hname => ⟨[], rules, .root, hname⟩
  overrides := by
    intro name hname
    obtain ⟨f, hf, -⟩ := Value.mem_placeholders_ofFields.1 hname
    cases hf

/-- The parameters of a rule are its own ones and those that are written over them. -/
theorem Demands.parameters (h : sc.Demands w rules) (hr : r ∈ sc.rules)
    (hname : name ∈ (Value.ofFields (sc.frame.parameters r)).placeholders) :
    Demanded w rules name := by
  obtain ⟨f, hf, hspelled⟩ := Value.mem_placeholders_ofFields.1 hname
  rcases mem_overlay hf with hown | hover
  · have hneeded := Value.mem_placeholders_ofFields.2 ⟨f, hown, hspelled⟩
    exact h.own name (RuleFile.mem_required_iff.2 ⟨r, hr, Or.inl hneeded⟩)
  · exact h.overrides name (Value.mem_placeholders_ofFields.2 ⟨f, hover, hspelled⟩)

theorem Demands.below (h : sc.Demands w rules) (hr : r ∈ sc.rules)
    (hbelow : sc.below? w r = some c) : c.Demands w rules := by
  have hincluded := h.included.below hr hbelow
  obtain ⟨file, hfollows, hsubset⟩ := h.included.file
  rcases below?_cases hbelow with ⟨found, hreference, -, hload, rfl⟩ | ⟨-, -, rfl⟩
  · have hmentioned : r.reference ∈ Rule.referencesOf file :=
      hsubset (Rule.reference_mem_referencesOf hr hreference)
    have hfound : Follows w rules (sc.history ++ [r.reference]) found :=
      hfollows.step hmentioned hload
    exact ⟨hincluded, fun name hname => ⟨_, found, hfound, hname⟩, fun name => h.parameters hr⟩
  · refine ⟨hincluded, ?_, h.overrides⟩
    exact fun name hname => h.own name (RuleFile.mem_required_iff.2 ⟨r, hr, Or.inr hname⟩)

theorem Within.demands (h : Within w sc inner) (hsc : sc.Demands w rules) :
    inner.Demands w rules := by
  induction h with
  | self => exact hsc
  | down hr hbelow _ ih => exact ih (hsc.below hr hbelow)

end Scope

/-! ## What cannot be filled in -/

theorem applies_ne_missing {id : String} :
    applies w id r ≠ .error (.missingParameters names place) := by
  intro h
  rcases undecided_of_applies h with ⟨cause, h⟩ | ⟨h, -⟩
  · cases h
  · cases h

/-- A step whose parameters cannot be filled is not planned, as names are missing in its rule. -/
theorem missing_of_leaf (hdefinition : ∀ action, MissesNone (w.definition action)) {f : Frame}
    {deps : List String} (h : leaf w f deps r planned = (.error (.missingParameters names place), last)) :
    place = .rule (f.id r.id) ∧ Missing w.facts (.ofFields (f.parameters r)) names := by
  generalize he : Fault.missingParameters names place = e at h
  cases unplanned_of_leaf h with
  | withoutId | unresolved => cases he
  | undefined hdefined => exact absurd (he ▸ hdefined) (hdefinition _ _ _)
  | unfilled hparams =>
    cases unfilled_of_materialize hparams with
    | missing names' place' =>
      obtain ⟨rfl, rfl⟩ := Fault.missingParameters.inj he
      exact ⟨rfl, missing_of_materialize hparams⟩
    | longInteger | longDigits => cases he

/-- Where names are missing in a rule, it is one of those within the scope. -/
theorem exists_missing_of_expand (hdefinition : ∀ action, MissesNone (w.definition action))
    (hload : ∀ rule ref, MissesNone (w.load rule ref))
    (h : sc.expand w planned = (.error (.missingParameters names place), last)) :
    ∃ inner, Scope.Within w sc inner ∧ ∃ r ∈ inner.rules, place = .rule (inner.pathId r) ∧
      Missing w.facts (.ofFields (inner.frame.parameters r)) names := by
  induction sc using Scope.induction w generalizing planned last with
  | _ sc ih =>
    obtain ⟨front, r, behind, yields, next, hsplit, hyields, hfailed⟩ :=
      Scope.expand_eq_error_iff.1 h
    have hr : r ∈ sc.rules := by simp [hsplit]
    cases hfailed with
    | undecided _ happlies => exact absurd happlies applies_ne_missing
    | unread _ _ _ hread => exact absurd hread (hload _ _ _ _)
    | inside _ hbelow hexpand =>
      obtain ⟨inner, hwithin, r', hr', hplace, hmissing⟩ := ih r hr _ hbelow hexpand
      exact ⟨inner, .down hr hbelow hwithin, r', hr', hplace, hmissing⟩
    | unplanned _ _ _ hplan =>
      obtain ⟨hplace, hmissing⟩ := missing_of_leaf hdefinition hplan
      exact ⟨sc, .self, r, hr, hplace, hmissing⟩

/-- Names that are missing when rules are expanded are known to no fact, and the rules need them or
those of a file that references lead to. -/
theorem demanded_of_run (hdefinition : ∀ action, MissesNone (w.definition action))
    (hload : ∀ rule ref, MissesNone (w.load rule ref))
    (h : run w rules = .error (.missingParameters names place)) :
    names ≠ [] ∧ ∀ name ∈ names, entryAt? w.facts name = none ∧ Demanded w rules name := by
  obtain ⟨last, hexpand⟩ := run_eq_iff.1 h
  obtain ⟨inner, hwithin, r, hr, -, hmissing⟩ :=
    exists_missing_of_expand hdefinition hload hexpand
  have hdemands := hwithin.demands (Scope.demands_root rules)
  refine ⟨hmissing.some, fun name hname => ⟨hmissing.unknown name hname, ?_⟩⟩
  exact hdemands.parameters hr (hmissing.spelled name hname)

end Remediation.Expansion
