import Remediation.Proofs.Fault
import Remediation.RuleFile
/-!
# Names of placeholders

Names are gathered behind those that were found before, and each once.  So what is gathered from parts
is what each of them has, in order, and the names that the parameters of rules need are all different
(`RuleFile.nodup_required`).

What is reported missing when a value is filled are names of its placeholders that no fact has.
-/

set_option autoImplicit false

namespace Remediation

/-- Appending each once what was gathered each once is appending it each once. -/
theorem foldl_appendNew_foldl_appendNew {α : Type} [DecidableEq α] (found ys xs : List α) :
    (xs.foldl appendNew ys).foldl appendNew found =
      xs.foldl appendNew (ys.foldl appendNew found) := by
  induction xs generalizing ys with
  | nil => rfl
  | cons x xs ih =>
    rw [List.foldl_cons, List.foldl_cons, ih]
    congr 1
    by_cases hmem : x ∈ ys
    · have hgathered : x ∈ ys.foldl appendNew found := mem_foldl_appendNew.2 (Or.inr hmem)
      rw [appendNew, appendNew, if_pos hmem, if_pos hgathered]
    · rw [appendNew, if_neg hmem, List.foldl_append]
      rfl

/-! ## Values -/

namespace Value

variable {name : String}

/-- The names in a value, in its entries and in its items are gathered behind others. -/
theorem placeholdersFrom_eq_all :
    (∀ (_ : List String) (v : Value), ∀ found,
      v.placeholdersFrom found = v.placeholders.foldl appendNew found) ∧
    (∀ (_ : List String) (es : List (Scalar × Value)), ∀ found,
      placeholdersOfEntries found es = (placeholdersOfEntries [] es).foldl appendNew found) ∧
    ∀ (_ : List String) (vs : List Value), ∀ found,
      placeholdersOfItems found vs = (placeholdersOfItems [] vs).foldl appendNew found := by
  refine placeholdersFrom.mutual_induct _ _ _ ?text ?scalar ?list ?map ?set ?noItems ?item
    ?noEntries ?entry
  case text =>
    intro _ s found
    exact (foldl_appendNew_foldl_appendNew found [] _).symm
  case scalar =>
    intro _ s hs found
    cases s with
    | text s => exact absurd rfl (hs s)
    | null | bool | int | float | moment | bytes => rfl
  case list | map =>
    intro _ parts ih found
    exact ih found
  case set | noItems | noEntries =>
    intros
    rfl
  case item =>
    intro _ v vs hv hvs found
    rw [placeholdersOfItems, placeholdersOfItems, hvs (v.placeholdersFrom found),
      hvs (v.placeholdersFrom []), hv found, foldl_appendNew_foldl_appendNew]
    rfl
  case entry =>
    intro _ k v es hv hes found
    rw [placeholdersOfEntries, placeholdersOfEntries, hes (v.placeholdersFrom found),
      hes (v.placeholdersFrom []), hv found, foldl_appendNew_foldl_appendNew]
    rfl

theorem placeholdersFrom_eq (v : Value) (found : List String) :
    v.placeholdersFrom found = v.placeholders.foldl appendNew found :=
  placeholdersFrom_eq_all.1 found v found

theorem mem_placeholdersOfItems {vs : List Value} :
    name ∈ placeholdersOfItems [] vs ↔ ∃ v ∈ vs, name ∈ v.placeholders := by
  induction vs with
  | nil => simp [placeholdersOfItems]
  | cons v vs ih =>
    rw [placeholdersOfItems, placeholdersFrom_eq_all.2.2 [] vs, mem_foldl_appendNew, ih]
    simp [placeholders]

theorem mem_placeholdersOfEntries {es : List (Scalar × Value)} :
    name ∈ placeholdersOfEntries [] es ↔ ∃ e ∈ es, name ∈ e.2.placeholders := by
  induction es with
  | nil => simp [placeholdersOfEntries]
  | cons e es ih =>
    obtain ⟨k, v⟩ := e
    rw [placeholdersOfEntries, placeholdersFrom_eq_all.2.1 [] es, mem_foldl_appendNew, ih]
    simp [placeholders]

theorem mem_placeholders_ofFields {fields : Fields} :
    name ∈ (ofFields fields).placeholders ↔ ∃ f ∈ fields, name ∈ f.2.placeholders := by
  have hentries : (ofFields fields).placeholders =
      placeholdersOfEntries [] (fields.map fun f => (.text f.1, f.2)) := rfl
  rw [hentries, mem_placeholdersOfEntries]
  constructor
  · rintro ⟨e, he, hname⟩
    obtain ⟨f, hf, rfl⟩ := List.mem_map.1 he
    exact ⟨f, hf, hname⟩
  · rintro ⟨f, hf, hname⟩
    exact ⟨_, List.mem_map_of_mem hf, hname⟩

/-- The names in a value are those of the texts that stand in it. -/
theorem mem_placeholders_iff {v : Value} :
    name ∈ v.placeholders ↔ ∃ s, v.HasText s ∧ name ∈ Template.namesFrom [] s := by
  induction v using nestInduction with
  | scalar s =>
    cases s with
    | text s =>
      constructor
      · exact fun hname => ⟨s, .self s, hname⟩
      · rintro ⟨_, ⟨_⟩, hname⟩
        exact hname
    | null | bool | int | float | moment | bytes =>
      constructor
      · exact fun hname => absurd hname List.not_mem_nil
      · rintro ⟨_, ⟨⟩, -⟩
  | list items ih =>
    have hitems : (list items).placeholders = placeholdersOfItems [] items := rfl
    rw [hitems, mem_placeholdersOfItems]
    constructor
    · rintro ⟨v, hv, hname⟩
      obtain ⟨s, hs, hname⟩ := (ih v hv).1 hname
      exact ⟨s, .item hv hs, hname⟩
    · rintro ⟨s, ⟨_⟩ | ⟨hv, hs⟩, hname⟩
      exact ⟨_, hv, (ih _ hv).2 ⟨s, hs, hname⟩⟩
  | map entries ih =>
    have hentries : (map entries).placeholders = placeholdersOfEntries [] entries := rfl
    rw [hentries, mem_placeholdersOfEntries]
    constructor
    · rintro ⟨e, he, hname⟩
      obtain ⟨s, hs, hname⟩ := (ih e he).1 hname
      exact ⟨s, .entry he hs, hname⟩
    · rintro ⟨s, ⟨_⟩ | _ | ⟨he, hs⟩, hname⟩
      exact ⟨_, he, (ih _ he).2 ⟨s, hs, hname⟩⟩
  | set items =>
    constructor
    · exact fun hname => absurd hname List.not_mem_nil
    · rintro ⟨_, ⟨⟩, -⟩

end Value

/-! ## Rules -/

namespace Rule

theorem placeholdersFrom_eq_all :
    (∀ (_ : List String) (r : Rule), ∀ found,
      r.placeholdersFrom found = (r.placeholdersFrom []).foldl appendNew found) ∧
    ∀ (_ : List String) (rules : List Rule), ∀ found,
      placeholdersOf found rules = (placeholdersOf [] rules).foldl appendNew found := by
  refine placeholdersFrom.mutual_induct _ _ ?rule ?nil ?cons
  case rule =>
    intro _ id condition ref action reason labels parameters dependsOn once steps refs outputs ih found
    rw [placeholdersFrom, placeholdersFrom, ih ((Value.ofFields parameters).placeholdersFrom found),
      ih ((Value.ofFields parameters).placeholdersFrom []), Value.placeholdersFrom_eq _ found,
      foldl_appendNew_foldl_appendNew]
    rfl
  case nil =>
    intros
    rfl
  case cons =>
    intro _ r rs hr hrs found
    rw [placeholdersOf, placeholdersOf, hrs (r.placeholdersFrom found),
      hrs (r.placeholdersFrom []), hr found, foldl_appendNew_foldl_appendNew]

end Rule

namespace RuleFile

variable {rules : List Rule} {r : Rule} {name : String}

theorem mem_required : name ∈ required rules ↔ name ∈ Rule.placeholdersOf [] rules :=
  List.mem_mergeSort

/-- Rules need what the parameters of one of them name, and what its steps need. -/
theorem mem_required_iff : name ∈ required rules ↔ ∃ r ∈ rules,
    name ∈ (Value.ofFields r.parameters).placeholders ∨ name ∈ required r.steps := by
  rw [mem_required]
  induction rules with
  | nil => simp [Rule.placeholdersOf]
  | cons r rest ih =>
    have hown : r.placeholdersFrom [] =
        Rule.placeholdersOf (Value.ofFields r.parameters).placeholders r.steps := by
      cases r
      rfl
    rw [Rule.placeholdersOf, Rule.placeholdersFrom_eq_all.2 [], mem_foldl_appendNew, ih, hown,
      Rule.placeholdersFrom_eq_all.2 [], mem_foldl_appendNew, ← mem_required]
    simp

/-- Rules need each name once. -/
theorem nodup_required (rules : List Rule) : (required rules).Nodup := by
  have honce := Rule.placeholdersFrom_eq_all.2 [] rules []
  have hnodup : (Rule.placeholdersOf [] rules).Nodup := honce ▸ nodup_foldl_appendNew List.nodup_nil _
  exact (List.mergeSort_perm _ _).nodup_iff.2 hnodup

end RuleFile

/-! ## What is missing -/

variable {facts : Facts} {names : List String} {place : Whereabouts}

/-- Names that no fact has, of the placeholders in a value. -/
structure Missing (facts : Facts) (v : Value) (names : List String) : Prop where
  some : names ≠ []
  nodup : names.Nodup
  unknown : ∀ name ∈ names, entryAt? facts name = none
  spelled : ∀ name ∈ names, name ∈ v.placeholders

theorem Missing.of_part {v w : Value} (h : Missing facts v names)
    (hpart : ∀ name ∈ v.placeholders, name ∈ w.placeholders) : Missing facts w names where
  some := h.some
  nodup := h.nodup
  unknown := h.unknown
  spelled := fun name hname => hpart name (h.spelled name hname)

theorem Template.missing_of_substitute {s : String}
    (h : substitute s facts = .error (.missingParameters names place)) :
    Missing facts (.text s) names := by
  rcases substitute_eq_error h with hfill | ⟨hsome, he⟩
  · cases eq_longInteger_of_fill hfill
  · obtain ⟨rfl, -⟩ := Fault.missingParameters.inj he
    refine ⟨hsome, nodup_missing _ _, ?_, ?_⟩
    · exact fun name hname => (mem_missing.1 hname).2
    · exact fun name hname => mem_namesFrom.2 (mem_missing.1 hname).1

theorem exists_of_inParameter {name : String} {e : Fault}
    (h : e.inParameter name = .missingParameters names place) :
    ∃ inside, e = .missingParameters names inside := by
  cases e <;> simp_all [Fault.inParameter]

/-- Where parameters cannot be filled, names are missing in one of them. -/
theorem missing_of_materialize {schema fields : Fields}
    (h : materialize facts schema fields = .error (.missingParameters names place)) :
    Missing facts (.ofFields fields) names := by
  obtain ⟨f, hf, hfield⟩ := exists_of_materialize_eq_error h
  rcases exists_of_materializeParameter_eq_error hfield with
    ⟨s, inside, hs, hsubstitute, he⟩ | ⟨s, hcoerce⟩
  · obtain ⟨place, rfl⟩ := exists_of_inParameter he.symm
    refine (Template.missing_of_substitute hsubstitute).of_part fun name hname => ?_
    exact Value.mem_placeholders_iff.2 ⟨s, Value.hasText_ofFields_iff.2 ⟨f, hf, hs⟩, hname⟩
  · obtain ⟨count, -, he⟩ := Coercion.coerce_eq_error_iff.1 hcoerce
    cases he

end Remediation
