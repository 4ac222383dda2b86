import Mathlib.Data.List.Nodup
import Mathlib.Data.List.Pairwise
import Remediation.Expansion
import Remediation.Proofs.Fields
/-!
# Scopes

A scope is a list of rules that are siblings: those of the root rule file, of an included file, or of
one list of steps.  Below a rule stands the scope of the file that it includes or of its steps.  A
reference that has been followed on the way down is not followed again, so that the tree of scopes is
finite and can be gone through from below (`Scope.induction`).

Conditions play no part here: a scope has all rules that may become steps, with their path ids
(`Scope.ids`), and says which siblings they need (`Scope.Needs`).
-/

set_option autoImplicit false

namespace Remediation.Expansion

open Relation

/-! ## Rule files -/

theorem Setting.mem_of_load {w : Setting} {lib : Library} (hlibrary : w.library = some lib)
    {rule ref : String} {found : List Rule} (h : w.load rule ref = .ok found) :
    (ref, .ok found) ∈ lib := by
  unfold load at h
  rw [hlibrary] at h
  simp only at h
  split at h
  next rules hlookup => exact mem_of_lookupField (h ▸ hlookup)
  next => cases h

/-! ## Ids within a frame -/

namespace Frame

@[simp] theorem id_root (child : String) : root.id child = child := by
  simp [id, root]

/-- What stands in front of the ids within a frame. -/
def lead (f : Frame) : String := if f.parent = "" then "" else f.parent ++ "-"

theorem id_eq_lead_append (f : Frame) {child : String} (h : child ≠ "") :
    f.id child = f.lead ++ child := by
  unfold id lead
  by_cases hparent : f.parent = ""
  · simp [hparent]
  · simp [hparent, h]

/-- Different ids stay different within a frame. -/
theorem id_inj (f : Frame) {a b : String} (ha : a ≠ "") (hb : b ≠ "")
    (h : f.id a = f.id b) : a = b := by
  rw [f.id_eq_lead_append ha, f.id_eq_lead_append hb] at h
  simpa using h

end Frame

/-! ## Scopes -/

/-- Rules that are siblings, and where they stand. -/
structure Scope where
  /-- The references that have been followed on the way down. -/
  history : List String
  frame : Frame
  /-- Whether the rules are steps, which run one after the other unless they say otherwise. -/
  sequential : Bool
  rules : List Rule

namespace Scope

variable {w : Setting}

/-- The rules of a root rule file. -/
def root (rules : List Rule) : Scope := ⟨[], .root, false, rules⟩

/-- The id of a rule behind the ids of the rules that it stands below. -/
def pathId (sc : Scope) (r : Rule) : String := sc.frame.id r.id

/-- The scope below a rule, if there is one. -/
def below? (w : Setting) (sc : Scope) (r : Rule) : Option Scope :=
  if r.reference ≠ "" then
    if r.reference ∈ sc.history then none
    else
      match w.load (sc.pathId r) r.reference with
      | .ok rules =>
        some ⟨sc.history ++ [r.reference], ⟨sc.pathId r, sc.frame.parameters r⟩, false, rules⟩
      | .error _ => none
  else if r.steps ≠ [] then some ⟨sc.history, ⟨sc.pathId r, sc.frame.overrides⟩, true, r.steps⟩
  else none

theorem below?_of_load {sc : Scope} {r : Rule} {rules : List Rule} (hreference : r.reference ≠ "")
    (hfresh : r.reference ∉ sc.history)
    (hload : w.load (sc.pathId r) r.reference = .ok rules) :
    sc.below? w r = some
      ⟨sc.history ++ [r.reference], ⟨sc.pathId r, sc.frame.parameters r⟩, false, rules⟩ := by
  rw [below?, if_pos hreference, if_neg hfresh, hload]

theorem below?_of_steps {sc : Scope} {r : Rule} (hreference : r.reference = "")
    (hsteps : r.steps ≠ []) :
    sc.below? w r = some ⟨sc.history, ⟨sc.pathId r, sc.frame.overrides⟩, true, r.steps⟩ := by
  rw [below?, if_neg (by simpa using hreference), if_pos hsteps]

/-- The scope below a rule is that of the file that it includes, or that of its steps. -/
theorem below?_cases {sc c : Scope} {r : Rule} (h : sc.below? w r = some c) :
    (∃ rules, r.reference ≠ "" ∧ r.reference ∉ sc.history ∧
      w.load (sc.pathId r) r.reference = .ok rules ∧
      c = ⟨sc.history ++ [r.reference], ⟨sc.pathId r, sc.frame.parameters r⟩, false, rules⟩) ∨
    r.reference = "" ∧ r.steps ≠ [] ∧
      c = ⟨sc.history, ⟨sc.pathId r, sc.frame.overrides⟩, true, r.steps⟩ := by
  unfold below? at h
  split at h
  next hreference =>
    split at h
    next => cases h
    next hfresh =>
      split at h
      next rules hload =>
        exact Or.inl ⟨rules, hreference, hfresh, hload, (Option.some.inj h).symm⟩
      next => cases h
  next hreference =>
    split at h
    next hsteps => exact Or.inr ⟨by simpa using hreference, hsteps, (Option.some.inj h).symm⟩
    next => cases h

/-- A rule that does not stand for other rules has no scope below it. -/
theorem isComposite_of_below {sc c : Scope} {r : Rule} (h : sc.below? w r = some c) :
    r.isComposite = true := by
  rcases below?_cases h with ⟨rules, hreference, -⟩ | ⟨-, hsteps, -⟩
  · simp [Rule.isComposite, hreference]
  · simp [Rule.isComposite, hsteps]

theorem parent_of_below {sc c : Scope} {r : Rule} (h : sc.below? w r = some c) :
    c.frame.parent = sc.pathId r := by
  rcases below?_cases h with ⟨rules, -, -, -, rfl⟩ | ⟨-, -, rfl⟩
  · rfl
  · rfl

/-! ## Going down -/

/-- A scope that stands below a rule of another one. -/
def Below (w : Setting) (c sc : Scope) : Prop := ∃ r ∈ sc.rules, sc.below? w r = some c

/-- What falls on the way down: first the references that have not been followed, then the rules. -/
noncomputable def size (w : Setting) (sc : Scope) : Nat × Nat :=
  (unseen w.references sc.history, sizeOf sc.rules)

theorem size_lt {sc c : Scope} {r : Rule} (hr : r ∈ sc.rules) (h : sc.below? w r = some c) :
    Prod.Lex (· < ·) (· < ·) (c.size w) (sc.size w) := by
  rcases below?_cases h with ⟨rules, -, hfresh, hload, rfl⟩ | ⟨-, -, rfl⟩
  · exact Prod.Lex.left _ _ (unseen_concat_lt (Setting.mem_references_of_load hload) hfresh)
  · refine Prod.Lex.right _ ?_
    have hsteps : sizeOf r.steps < sizeOf r := by
      cases r
      simp only [Rule.mk.sizeOf_spec]
      omega
    exact Nat.lt_trans hsteps (List.sizeOf_lt_of_mem hr)

theorem wellFounded_below (w : Setting) : WellFounded (Below w) := by
  refine Subrelation.wf ?_ (InvImage.wf (size w) (Prod.lex Nat.lt_wfRel Nat.lt_wfRel).wf)
  rintro c sc ⟨r, hr, hbelow⟩
  exact size_lt hr hbelow

/-- What holds of a scope when it holds of all scopes below its rules holds of every scope. -/
theorem induction (w : Setting) {P : Scope → Prop}
    (h : ∀ sc, (∀ r ∈ sc.rules, ∀ c, sc.below? w r = some c → P c) → P sc) (sc : Scope) : P sc := by
  induction sc using (wellFounded_below w).induction with
  | _ sc ih =>
    refine h sc ?_
    intro r hr c hbelow
    exact ih c ⟨r, hr, hbelow⟩

/-- A scope is within another one: it is that scope, or within one that stands below its rules. -/
inductive Within (w : Setting) : Scope → Scope → Prop where
  | self {sc : Scope} : Within w sc sc
  | down {sc c inner : Scope} {r : Rule} : r ∈ sc.rules → sc.below? w r = some c →
      Within w c inner → Within w sc inner

/-- Within a scope of rules that do not stand for others there is no other scope. -/
theorem Within.eq_of_leaves {sc inner : Scope} (h : Within w sc inner)
    (hleaf : ∀ r ∈ sc.rules, r.isComposite = false) : inner = sc := by
  cases h with
  | self => rfl
  | down hr hbelow _ =>
    have hcomposite := isComposite_of_below hbelow
    rw [hleaf _ hr] at hcomposite
    cases hcomposite

/-- Within rules that include no files, and have steps of one level only, stand these steps. -/
theorem Within.rules_eq {sc inner : Scope} (h : Within w sc inner)
    (hreference : ∀ r ∈ sc.rules, r.reference = "")
    (hleaf : ∀ r ∈ sc.rules, ∀ child ∈ r.steps, child.isComposite = false) :
    inner = sc ∨ ∃ r ∈ sc.rules, inner.rules = r.steps := by
  cases h with
  | self => exact Or.inl rfl
  | down hr hbelow hinner =>
    rcases below?_cases hbelow with ⟨_, hfile, -⟩ | ⟨-, -, rfl⟩
    · exact absurd (hreference _ hr) hfile
    · exact Or.inr ⟨_, hr, congrArg rules (hinner.eq_of_leaves (hleaf _ hr))⟩

/-! ## Path ids -/

/-- The path ids of the rules of a scope and of all rules below them, each rule in front of those
below it. -/
def ids (w : Setting) (sc : Scope) : List String :=
  sc.rules.attach.flatMap fun ⟨r, _hr⟩ =>
    sc.pathId r :: match _h : sc.below? w r with
      | some c => c.ids w
      | none => []
termination_by sc.size w
decreasing_by exact size_lt _hr _h

/-- The path ids of a rule of a scope and of all rules below it. -/
def idsFrom (w : Setting) (sc : Scope) (r : Rule) : List String :=
  sc.pathId r :: match sc.below? w r with
    | some c => c.ids w
    | none => []

theorem ids_eq_flatMap (w : Setting) (sc : Scope) :
    sc.ids w = sc.rules.flatMap (sc.idsFrom w) := by
  rw [ids]
  conv => rhs; rw [← List.attach_map_subtype_val sc.rules, List.flatMap_map]
  refine List.flatMap_congr ?_
  rintro ⟨r, hr⟩ -
  simp only [idsFrom]
  split <;> simp_all

theorem pathId_mem_idsFrom (sc : Scope) (r : Rule) : sc.pathId r ∈ sc.idsFrom w r :=
  List.mem_cons_self

theorem idsFrom_of_below {sc c : Scope} {r : Rule} (h : sc.below? w r = some c) :
    sc.idsFrom w r = sc.pathId r :: c.ids w := by
  rw [idsFrom, h]

theorem idsFrom_sublist_ids {sc : Scope} {r : Rule} (hr : r ∈ sc.rules) :
    (sc.idsFrom w r).Sublist (sc.ids w) := by
  rw [ids_eq_flatMap]
  obtain ⟨before, behind, heq⟩ := List.append_of_mem hr
  rw [heq, List.flatMap_append, List.flatMap_cons]
  exact (List.sublist_append_left _ _).trans (List.sublist_append_right _ _)

/-- The path ids below a rule are among those of its scope. -/
theorem ids_sublist_of_below {sc c : Scope} {r : Rule} (hr : r ∈ sc.rules)
    (h : sc.below? w r = some c) : (c.ids w).Sublist (sc.ids w) := by
  have hfrom := idsFrom_sublist_ids (w := w) hr
  rw [idsFrom_of_below h] at hfrom
  exact (List.sublist_cons_self _ _).trans hfrom

/-- All path ids within a scope are among its path ids, in their order. -/
theorem Within.ids_sublist {sc inner : Scope} (h : Within w sc inner) :
    (inner.ids w).Sublist (sc.ids w) := by
  induction h with
  | self => exact List.Sublist.refl _
  | down hr hbelow _ ih => exact ih.trans (ids_sublist_of_below hr hbelow)

theorem Within.ids_subset {sc inner : Scope} (h : Within w sc inner) : inner.ids w ⊆ sc.ids w :=
  h.ids_sublist.subset

/-- Different rules of a scope have no path id in common, on their own or below them. -/
theorem eq_of_mem_idsFrom {sc : Scope} (hunique : (sc.ids w).Nodup) {r r' : Rule} {x : String}
    (hr : r ∈ sc.rules) (hr' : r' ∈ sc.rules) (hx : x ∈ sc.idsFrom w r)
    (hx' : x ∈ sc.idsFrom w r') : r = r' := by
  rw [ids_eq_flatMap, List.nodup_flatMap] at hunique
  by_contra hne
  have hsymm : Std.Symm (Function.onFun List.Disjoint (sc.idsFrom w)) :=
    ⟨fun a b hab x hb ha => hab ha hb⟩
  exact hunique.2.forall hr hr' hne hx hx'

theorem map_pathId_sublist (sc : Scope) (rules : List Rule) :
    (rules.map sc.pathId).Sublist (rules.flatMap (sc.idsFrom w)) := by
  induction rules with
  | nil => exact List.Sublist.refl _
  | cons r rest ih =>
    rw [List.map_cons, List.flatMap_cons, idsFrom, List.cons_append]
    exact (ih.trans (List.sublist_append_right _ _)).cons_cons _

/-- The rules of a scope have different path ids. -/
theorem nodup_map_pathId {sc : Scope} (hunique : (sc.ids w).Nodup) :
    (sc.rules.map sc.pathId).Nodup := by
  rw [ids_eq_flatMap] at hunique
  exact (map_pathId_sublist sc sc.rules).nodup hunique

/-- A rule has no path id only if it has no id. -/
theorem pathId_eq_empty_iff {sc : Scope} {r : Rule} : sc.pathId r = "" ↔ r.id = "" := by
  unfold pathId Frame.id
  split
  · exact Iff.rfl
  next h =>
    have hid : r.id ≠ "" := fun hempty => h (Or.inr hempty)
    simp [hid]

/-- All rules within a scope have ids if they have path ids. -/
theorem Within.id_ne_empty {sc inner : Scope} (h : Within w sc inner) (hids : "" ∉ sc.ids w)
    {r : Rule} (hr : r ∈ inner.rules) : r.id ≠ "" := by
  intro hempty
  have hmem := (idsFrom_sublist_ids (w := w) hr).subset (pathId_mem_idsFrom inner r)
  rw [pathId_eq_empty_iff.2 hempty] at hmem
  exact hids (h.ids_subset hmem)

/-- All rules within a scope have ids. -/
def Identified (w : Setting) (sc : Scope) : Prop :=
  ∀ inner, Within w sc inner → ∀ r ∈ inner.rules, r.id ≠ ""

theorem Identified.below {sc c : Scope} {r : Rule} (h : sc.Identified w) (hr : r ∈ sc.rules)
    (hbelow : sc.below? w r = some c) : c.Identified w :=
  fun inner hwithin => h inner (.down hr hbelow hwithin)

/-- An id below a rule is an id in the frame of the rule that goes on from its id behind a hyphen. -/
theorem id_of_below {sc c : Scope} {r : Rule} (h : sc.below? w r = some c) (hr : r.id ≠ "")
    {child : String} (hchild : child ≠ "") :
    c.frame.id child = sc.frame.id (r.id ++ "-" ++ child) := by
  have hparent : c.frame.parent = sc.frame.lead ++ r.id :=
    (parent_of_below h).trans (sc.frame.id_eq_lead_append hr)
  have hne : c.frame.parent ≠ "" := by simp [hparent, hr]
  have hpath : r.id ++ "-" ++ child ≠ "" := by simp [hr]
  rw [Frame.id_eq_lead_append _ hchild, Frame.id_eq_lead_append _ hpath, Frame.lead, if_neg hne,
    hparent]
  simp only [String.append_assoc]

/-! ## What siblings need -/

/-- A rule needs a sibling to come first: it names it, or it names none and is the next step behind
it. -/
inductive Needs (sc : Scope) (b a : Rule) : Prop where
  | named : b ∈ sc.rules → a ∈ sc.rules → a.id ∈ b.dependsOn → Needs sc b a
  | behind {before behind : List Rule} : sc.sequential = true → b.dependsOn = [] →
      sc.rules = before ++ a :: b :: behind → Needs sc b a

theorem Needs.mem_left {sc : Scope} {b a : Rule} (h : sc.Needs b a) : b ∈ sc.rules := by
  cases h with
  | named hb _ _ => exact hb
  | behind _ _ hsplit => simp [hsplit]

theorem Needs.mem_right {sc : Scope} {b a : Rule} (h : sc.Needs b a) : a ∈ sc.rules := by
  cases h with
  | named _ ha _ => exact ha
  | behind _ _ hsplit => simp [hsplit]

theorem mem_left_of_needs {sc : Scope} {b a : Rule} (h : TransGen sc.Needs b a) : b ∈ sc.rules := by
  induction h with
  | single h => exact h.mem_left
  | tail _ _ ih => exact ih

theorem mem_right_of_needs {sc : Scope} {b a : Rule} (h : TransGen sc.Needs b a) :
    a ∈ sc.rules := by
  cases h with
  | single h => exact h.mem_right
  | tail _ h => exact h.mem_right

end Scope

/-! ## Bare rules -/

/-- A rule of which only the id and the action are given. -/
def bareRule (id action : String) : Rule where
  id := id
  condition := ""
  reference := ""
  action := action
  reason := ""
  labels := []
  parameters := []
  dependsOn := []
  once := false
  steps := []
  outputRefs := []
  outputs := none

/-- Actions without parameters, and no other rule files. -/
def bareSetting : Setting where
  facts := []
  definition := fun name => .ok ⟨name, "", "", [], "", [], [], [], none⟩
  library := none

end Remediation.Expansion
