import Mathlib.Data.List.Perm.Subperm
import Remediation.Proofs.Expansion.Failure
import Remediation.Proofs.Fault
import Remediation.RuleFile
/-!
# Including rule files

A rule can include a file whose rules include others.  No reference is followed twice on the way down,
and each one that is stands in the file before it (`Follows`), so that expanding rules comes to an end.

A circle of files is found where expansion comes by a rule that includes a file which is being included
(`Reaches`), and nowhere else: the chain that is reported is what has been followed down to that rule,
and its own reference behind (`run_ends_and_finds_circles`).
-/

set_option autoImplicit false

namespace Remediation

/-! ## The references of a rule file -/

namespace Rule

theorem references_eq (r : Rule) :
    r.references = (if r.reference = "" then [] else [r.reference]) ++ referencesOf r.steps := by
  cases r
  rfl

theorem references_subset_referencesOf {rules : List Rule} {r : Rule} (hr : r ∈ rules) :
    r.references ⊆ referencesOf rules := by
  induction rules with
  | nil => cases hr
  | cons a rest ih =>
    rw [referencesOf]
    rcases List.mem_cons.1 hr with rfl | hr
    · exact List.subset_append_left _ _
    · exact List.Subset.trans (ih hr) (List.subset_append_right _ _)

theorem reference_mem_referencesOf {rules : List Rule} {r : Rule} (hr : r ∈ rules)
    (hreference : r.reference ≠ "") : r.reference ∈ referencesOf rules := by
  have hown : r.reference ∈ r.references := by simp [references_eq, hreference]
  exact references_subset_referencesOf hr hown

theorem referencesOf_steps_subset {rules : List Rule} {r : Rule} (hr : r ∈ rules) :
    referencesOf r.steps ⊆ referencesOf rules := by
  have hown : referencesOf r.steps ⊆ r.references := by
    rw [references_eq]
    exact List.subset_append_right _ _
  exact List.Subset.trans hown (references_subset_referencesOf hr)

end Rule

namespace Expansion

variable {w : Setting} {sc c inner : Scope} {rules : List Rule} {r : Rule} {planned last : List String}

/-! ## What is followed on the way down -/

/-- From the rules of a root rule file, references lead to the rules of a file: each one stands in the
file that those before it lead to. -/
inductive Follows (w : Setting) (rules : List Rule) : List String → List Rule → Prop where
  | root : Follows w rules [] rules
  | step {history : List String} {file found : List Rule} {rule ref : String} :
      Follows w rules history file → ref ∈ Rule.referencesOf file → w.load rule ref = .ok found →
      Follows w rules (history ++ [ref]) found

theorem Follows.subset_references {history : List String} {file : List Rule}
    (h : Follows w rules history file) : history ⊆ w.references := by
  induction h with
  | root => exact List.nil_subset _
  | step _ _ hload ih =>
    refine List.append_subset.2 ⟨ih, ?_⟩
    intro ref href
    obtain rfl := List.mem_singleton.1 href
    exact Setting.mem_references_of_load hload

/-- What has been followed down to a scope has been followed once, and leads to the file that the rules
of the scope stand in. -/
structure Scope.Included (w : Setting) (rules : List Rule) (sc : Scope) : Prop where
  nodup : sc.history.Nodup
  file : ∃ file, Follows w rules sc.history file ∧
    Rule.referencesOf sc.rules ⊆ Rule.referencesOf file

namespace Scope

theorem included_root (rules : List Rule) : (root rules).Included w rules where
  nodup := List.nodup_nil
  file := ⟨rules, .root, List.Subset.refl _⟩

theorem Included.below (h : sc.Included w rules) (hr : r ∈ sc.rules)
    (hbelow : sc.below? w r = some c) : c.Included w rules := by
  obtain ⟨file, hfollows, hsubset⟩ := h.file
  rcases below?_cases hbelow with ⟨found, hreference, hfresh, hload, rfl⟩ | ⟨-, -, rfl⟩
  · have hmentioned : r.reference ∈ Rule.referencesOf file :=
      hsubset (Rule.reference_mem_referencesOf hr hreference)
    have hnodup : (sc.history ++ [r.reference]).Nodup := by
      rw [← List.concat_eq_append]
      exact h.nodup.concat hfresh
    exact ⟨hnodup, found, hfollows.step hmentioned hload, List.Subset.refl _⟩
  · exact ⟨h.nodup, file, hfollows, List.Subset.trans (Rule.referencesOf_steps_subset hr) hsubset⟩

theorem Within.included (h : Within w sc inner) (hsc : sc.Included w rules) :
    inner.Included w rules := by
  induction h with
  | self => exact hsc
  | down hr hbelow _ ih => exact ih (hsc.below hr hbelow)

/-- No more references are followed than there are files. -/
theorem Included.length_le {lib : Library} (h : sc.Included w rules)
    (hlibrary : w.library = some lib) : sc.history.length ≤ lib.length := by
  obtain ⟨file, hfollows, -⟩ := h.file
  have hreferences : w.references = lib.references := by
    rw [Setting.references, hlibrary]
  have hle := (h.nodup.subperm hfollows.subset_references).length_le
  rwa [hreferences, Library.references, List.length_map] at hle

end Scope

/-! ## What expansion comes by -/

/-- Expanding a scope comes by a rule of the scope if those before it have yielded steps, and by what
stands below such a rule if the rule applies. -/
inductive Reaches (w : Setting) : Scope → List String → Scope → Rule → Prop where
  | here {sc : Scope} {planned next : List String} {front behind : List Rule} {r : Rule}
      {yields : List Yield} : sc.rules = front ++ r :: behind →
      Yields w sc "" front planned yields next → Reaches w sc planned sc r
  | inside {sc c inner : Scope} {planned next : List String} {front behind : List Rule} {r r' : Rule}
      {yields : List Yield} : sc.rules = front ++ r :: behind →
      Yields w sc "" front planned yields next → applies w (sc.pathId r) r = .ok true →
      sc.below? w r = some c → Reaches w c next inner r' → Reaches w sc planned inner r'

theorem Reaches.within (h : Reaches w sc planned inner r) :
    Scope.Within w sc inner ∧ r ∈ inner.rules := by
  induction h with
  | here hsplit _ => exact ⟨.self, by simp [hsplit]⟩
  | inside hsplit _ _ hbelow _ ih => exact ⟨.down (by simp [hsplit]) hbelow ih.1, ih.2⟩

/-! ## Where circles are found -/

theorem applies_ne_circular {id : String} {chain : List String} :
    applies w id r ≠ .error (.circularReference chain) := by
  intro h
  rcases undecided_of_applies h with ⟨cause, h⟩ | ⟨h, -⟩
  · cases h
  · cases h

theorem leaf_ne_circular (hresolver : ∀ action chain,
    w.definition action ≠ .error (.circularReference chain)) {f : Frame} {deps chain : List String} :
    leaf w f deps r planned ≠ (.error (.circularReference chain), last) := by
  intro h
  generalize he : Fault.circularReference chain = e at h
  cases unplanned_of_leaf h with
  | withoutId | unresolved => cases he
  | undefined hdefined => exact hresolver _ _ (he ▸ hdefined)
  | unfilled hparams => cases unfilled_of_materialize hparams <;> cases he

theorem load_ne_circular {lib : Library} (hlibrary : w.library = some lib)
    (hfiles : ∀ entry ∈ lib, ∃ found, entry.2 = .ok found) {rule ref : String} {chain : List String} :
    w.load rule ref ≠ .error (.circularReference chain) := by
  intro h
  unfold Setting.load at h
  rw [hlibrary] at h
  simp only at h
  split at h
  next entry hlookup =>
    obtain ⟨found, hfound⟩ := hfiles _ (mem_of_lookupField hlookup)
    cases hfound.symm.trans h
  next => cases h

/-- A stale rule that is come by stops the expansion. -/
theorem Reaches.circular (h : Reaches w sc planned inner r) (hstale : ¬ Fresh inner r) :
    ∃ last, sc.expand w planned =
      (.error (.circularReference (inner.history ++ [r.reference])), last) := by
  induction h with
  | here hsplit hyields =>
    exact ⟨_, Scope.expand_eq_error_iff.2 ⟨_, _, _, _, _, hsplit, hyields, .stale hstale⟩⟩
  | inside hsplit hyields happlies hbelow _ ih =>
    obtain ⟨last, hexpand⟩ := ih hstale
    exact ⟨last, Scope.expand_eq_error_iff.2
      ⟨_, _, _, _, _, hsplit, hyields, .inside happlies hbelow hexpand⟩⟩

/-- A circle is reported only if expansion comes by a stale rule. -/
theorem exists_reaches_of_circular (hresolver : ∀ action chain,
      w.definition action ≠ .error (.circularReference chain))
    (hload : ∀ rule ref chain, w.load rule ref ≠ .error (.circularReference chain))
    {chain : List String} (h : sc.expand w planned = (.error (.circularReference chain), last)) :
    ∃ inner r, Reaches w sc planned inner r ∧ ¬ Fresh inner r ∧
      chain = inner.history ++ [r.reference] := by
  induction sc using Scope.induction w generalizing planned last with
  | _ sc ih =>
    obtain ⟨front, r, behind, yields, next, hsplit, hyields, hfailed⟩ :=
      Scope.expand_eq_error_iff.1 h
    cases hfailed with
    | stale hstale => exact ⟨sc, r, .here hsplit hyields, hstale, rfl⟩
    | undecided _ happlies => exact absurd happlies applies_ne_circular
    | unread _ _ _ hread => exact absurd hread (hload _ _ _)
    | inside happlies hbelow hexpand =>
      have hr : r ∈ sc.rules := by simp [hsplit]
      obtain ⟨inner, r', hreaches, hstale, hchain⟩ := ih r hr _ hbelow hexpand
      exact ⟨inner, r', .inside hsplit hyields happlies hbelow hreaches, hstale, hchain⟩
    | unplanned _ _ _ hplan => exact absurd hplan (leaf_ne_circular hresolver)

/-- With a library of rule files, rules are expanded or there is a fault.  On every way down, each
reference is followed once, and stands in the file before.  A circle is reported exactly if expansion
comes by a rule that includes a file which is being included, with what has been followed down to it. -/
theorem run_ends_and_finds_circles {lib : Library} (hlibrary : w.library = some lib)
    (hfiles : ∀ entry ∈ lib, ∃ found, entry.2 = .ok found)
    (hresolver : ∀ action chain, w.definition action ≠ .error (.circularReference chain))
    (rules : List Rule) :
    WellFounded (Scope.Below w) ∧
    ((∃ steps, run w rules = .ok steps) ∨ ∃ e, run w rules = .error e) ∧
    (∀ inner r, Reaches w (.root rules) [] inner r →
      Scope.Within w (.root rules) inner ∧ r ∈ inner.rules) ∧
    (∀ inner, Scope.Within w (.root rules) inner → inner.history.Nodup ∧
      inner.history.length ≤ lib.length ∧ ∃ file, Follows w rules inner.history file) ∧
    (∀ chain, run w rules = .error (.circularReference chain) ↔
      ∃ inner r, Reaches w (.root rules) [] inner r ∧ r.reference ≠ "" ∧
        r.reference ∈ inner.history ∧ chain = inner.history ++ [r.reference]) ∧
    ∀ steps, run w rules = .ok steps → ∀ inner r, Reaches w (.root rules) [] inner r →
      r.reference ≠ "" → r.reference ∉ inner.history := by
  have hload : ∀ rule ref chain, w.load rule ref ≠ .error (.circularReference chain) :=
    fun rule ref chain => load_ne_circular hlibrary hfiles
  refine ⟨Scope.wellFounded_below w, ?_, fun inner r hreaches => hreaches.within, ?_, ?_, ?_⟩
  · cases run w rules with
    | ok steps => exact Or.inl ⟨steps, rfl⟩
    | error e => exact Or.inr ⟨e, rfl⟩
  · intro inner hwithin
    have hincluded := hwithin.included (Scope.included_root rules)
    obtain ⟨file, hfollows, -⟩ := hincluded.file
    exact ⟨hincluded.nodup, hincluded.length_le hlibrary, file, hfollows⟩
  · intro chain
    rw [run_eq_expand]
    constructor
    · intro h
      obtain ⟨inner, r, hreaches, hstale, hchain⟩ :=
        exists_reaches_of_circular hresolver hload (Prod.ext h rfl)
      obtain ⟨hreference, hmem⟩ := not_fresh_iff.1 hstale
      exact ⟨inner, r, hreaches, hreference, hmem, hchain⟩
    · rintro ⟨inner, r, hreaches, hreference, hmem, rfl⟩
      obtain ⟨last, hexpand⟩ := hreaches.circular (not_fresh_iff.2 ⟨hreference, hmem⟩)
      rw [hexpand]
  · intro steps hrun inner r hreaches hreference hmem
    obtain ⟨last, hexpand⟩ := hreaches.circular (not_fresh_iff.2 ⟨hreference, hmem⟩)
    rw [run_eq_expand, hexpand] at hrun
    cases hrun

/-! ## Two files that include each other -/

/-- A library of two files that include each other. -/
def circleLibrary : Library :=
  [("a.yaml", .ok [{ bareRule "b" "" with reference := "b.yaml" }]),
   ("b.yaml", .ok [{ bareRule "a" "" with reference := "a.yaml" }])]

/-- Rules that are expanded against it. -/
def circleSetting : Setting := { bareSetting with library := some circleLibrary }

/-- A rule that includes the first of them. -/
def circleRules : List Rule := [{ bareRule "start" "" with reference := "a.yaml" }]

/-- The circle is found where the second file includes the first one again. -/
theorem run_ends_and_finds_circles_two :
    run circleSetting circleRules = .error (.circularReference ["a.yaml", "b.yaml", "a.yaml"]) ∧
    ∃ inner r, Reaches circleSetting (.root circleRules) [] inner r ∧
      inner.history = ["a.yaml", "b.yaml"] ∧ r.reference = "a.yaml" ∧ inner.history.Nodup := by
  have hfiles : ∀ entry ∈ circleLibrary, ∃ found, entry.2 = .ok found := by
    simp [circleLibrary]
  have hresolver : ∀ action chain,
      circleSetting.definition action ≠ .error (.circularReference chain) := by
    intro action chain h
    cases h
  have hrun : run circleSetting circleRules =
      .error (.circularReference ["a.yaml", "b.yaml", "a.yaml"]) := by cbv
  obtain ⟨-, -, hwithin, hfollows, hcircular, -⟩ :=
    run_ends_and_finds_circles rfl hfiles hresolver circleRules
  obtain ⟨inner, r, hreaches, -, -, hchain⟩ := (hcircular _).1 hrun
  have hends : ["a.yaml", "b.yaml"] ++ ["a.yaml"] = inner.history ++ [r.reference] := hchain
  obtain ⟨hhistory, hreference⟩ := List.append_inj' hends rfl
  have hnodup := (hfollows inner (hwithin inner r hreaches).1).1
  exact ⟨hrun, inner, r, hreaches, hhistory.symm, (List.cons.inj hreference).1.symm, hnodup⟩

end Expansion

end Remediation
