import Remediation.Parameters
import Remediation.Proofs.Parameters.Substitution
/-!
# Texts in a value

A value is filled by filling the texts that stand in it, at whatever depth.  So it cannot be filled only
if one of them cannot (`exists_of_fill_eq_error`), and facts that fill each of them alike fill it alike
(`fill_congr`).  The same holds of all parameters together, except that one that is a text itself is
read as what it is declared to be.
-/

set_option autoImplicit false

namespace Remediation

namespace Value

/-- Induction on how values nest. -/
theorem nestInduction {P : Value → Prop} (scalar : ∀ s, P (.scalar s))
    (list : ∀ items, (∀ v ∈ items, P v) → P (.list items))
    (map : ∀ entries, (∀ e ∈ entries, P e.2) → P (.map entries)) (set : ∀ items, P (.set items))
    (v : Value) : P v := by
  match v with
  | .scalar s => exact scalar s
  | .list items => exact list items fun v _ => nestInduction scalar list map set v
  | .map entries => exact map entries fun e _ => nestInduction scalar list map set e.2
  | .set items => exact set items
termination_by sizeOf v
decreasing_by
  · have hitem := List.sizeOf_lt_of_mem ‹v ∈ items›
    simp only [Value.list.sizeOf_spec]
    omega
  · have hentry := List.sizeOf_lt_of_mem ‹e ∈ entries›
    obtain ⟨k, v⟩ := e
    simp only [Value.map.sizeOf_spec, Prod.mk.sizeOf_spec] at hentry ⊢
    omega

/-- A text stands in a value.  The keys of maps do not count, nor do the members of sets. -/
inductive HasText : Value → String → Prop where
  | self (s : String) : HasText (.text s) s
  | item {items : List Value} {v : Value} {s : String} : v ∈ items → HasText v s →
      HasText (.list items) s
  | entry {entries : List (Scalar × Value)} {e : Scalar × Value} {s : String} : e ∈ entries →
      HasText e.2 s → HasText (.map entries) s

variable {facts other : Facts} {e : Fault} {v filled : Value} {s : String}

theorem hasText_ofFields_iff {fields : Fields} :
    (ofFields fields).HasText s ↔ ∃ f ∈ fields, f.2.HasText s := by
  constructor
  · intro h
    cases h with
    | entry hentry hs =>
      obtain ⟨f, hf, rfl⟩ := List.mem_map.1 hentry
      exact ⟨f, hf, hs⟩
  · rintro ⟨f, hf, hs⟩
    exact .entry (List.mem_map_of_mem hf) hs

/-! ## Items and entries -/

theorem fillItems_eq_mapM (facts : Facts) (items : List Value) :
    fillItems facts items = items.mapM (fill facts) := by
  induction items with
  | nil => rfl
  | cons v vs ih =>
    rw [fillItems, ih, List.mapM_cons]
    cases v.fill facts with
    | error e => rfl
    | ok w => cases vs.mapM (fill facts) <;> rfl

theorem fillEntries_eq_mapM (facts : Facts) (entries : List (Scalar × Value)) :
    fillEntries facts entries =
      entries.mapM fun entry => (entry.2.fill facts).map fun w => (entry.1, w) := by
  induction entries with
  | nil => rfl
  | cons entry es ih =>
    rw [fillEntries, ih, List.mapM_cons]
    cases entry.2.fill facts with
    | error e => rfl
    | ok w => cases es.mapM fun entry => (entry.2.fill facts).map fun w => (entry.1, w) <;> rfl

/-! ## Values -/

theorem fill_text (s : String) (facts : Facts) :
    (text s).fill facts = (Template.substitute s facts).map .text := by
  rw [fill]

theorem fill_of_ne_text {s : Scalar} (h : ∀ t, s ≠ .text t) (facts : Facts) :
    (scalar s).fill facts = .ok (.scalar s) := by
  rw [fill]
  exact h

/-- A scalar is a text, or it is left as it is. -/
theorem fill_scalar_cases (s : Scalar) :
    (∃ t, s = .text t) ∨ ∀ facts : Facts, (scalar s).fill facts = .ok (.scalar s) := by
  cases s with
  | text t => exact Or.inl ⟨t, rfl⟩
  | null | bool | int | float | moment | bytes =>
    exact Or.inr (fill_of_ne_text (by simp))

/-- A value cannot be filled because of one of its texts. -/
theorem exists_of_fill_eq_error (h : v.fill facts = .error e) :
    ∃ s, v.HasText s ∧ Template.substitute s facts = .error e := by
  induction v using nestInduction with
  | scalar s =>
    rcases fill_scalar_cases s with ⟨t, rfl⟩ | hkept
    · rw [fill_text] at h
      exact ⟨t, .self t, eq_error_of_map h⟩
    · cases (hkept facts).symm.trans h
  | list items ih =>
    rw [fill, fillItems_eq_mapM] at h
    obtain ⟨v, hv, hfill⟩ := exists_of_mapM_eq_error (eq_error_of_map h)
    obtain ⟨s, hs, hsubstitute⟩ := ih v hv hfill
    exact ⟨s, .item hv hs, hsubstitute⟩
  | map entries ih =>
    rw [fill, fillEntries_eq_mapM] at h
    obtain ⟨entry, hentry, hfill⟩ := exists_of_mapM_eq_error (eq_error_of_map h)
    obtain ⟨s, hs, hsubstitute⟩ := ih entry hentry (eq_error_of_map hfill)
    exact ⟨s, .entry hentry hs, hsubstitute⟩
  | set items =>
    rw [fill] at h
    cases h

/-- Of a value that is filled, all texts are. -/
theorem exists_of_fill_eq_ok (h : v.fill facts = .ok filled) (hs : v.HasText s) :
    ∃ t, Template.substitute s facts = .ok t := by
  induction hs generalizing filled with
  | self s =>
    rw [fill_text] at h
    exact exists_of_map_eq_ok h
  | item hv _ ih =>
    rw [fill, fillItems_eq_mapM] at h
    obtain ⟨ws, hitems⟩ := exists_of_map_eq_ok h
    obtain ⟨w, hw⟩ := exists_of_mapM_eq_ok hitems _ hv
    exact ih hw
  | entry hentry _ ih =>
    rw [fill, fillEntries_eq_mapM] at h
    obtain ⟨ws, hentries⟩ := exists_of_map_eq_ok h
    obtain ⟨pair, hpair⟩ := exists_of_mapM_eq_ok hentries _ hentry
    obtain ⟨w, hw⟩ := exists_of_map_eq_ok hpair
    exact ih hw

/-- Facts that fill the texts of a value alike fill the value alike. -/
theorem fill_congr (h : ∀ s, v.HasText s →
    Template.substitute s facts = Template.substitute s other) : v.fill facts = v.fill other := by
  induction v using nestInduction with
  | scalar s =>
    rcases fill_scalar_cases s with ⟨t, rfl⟩ | hkept
    · rw [fill_text, fill_text, h t (.self t)]
    · rw [hkept, hkept]
  | list items ih =>
    have hitems : ∀ v ∈ items, v.fill facts = v.fill other := fun v hv =>
      ih v hv fun s hs => h s (.item hv hs)
    rw [fill, fill, fillItems_eq_mapM, fillItems_eq_mapM, mapM_congr hitems]
  | map entries ih =>
    have hentries : ∀ entry ∈ entries, entry.2.fill facts = entry.2.fill other :=
      fun entry hentry => ih entry hentry fun s hs => h s (.entry hentry hs)
    rw [fill, fill, fillEntries_eq_mapM, fillEntries_eq_mapM,
      mapM_congr fun entry hentry => by rw [hentries entry hentry]]
  | set items => rw [fill, fill]

end Value

/-! ## Parameters -/

variable {facts other : Facts} {schema fields filled : Fields} {e : Fault} {name : String}
  {v w : Value}

/-- A parameter cannot be filled because of one of its texts, or what it is filled with cannot be read. -/
theorem exists_of_materializeParameter_eq_error
    (h : materializeParameter facts schema name v = .error e) :
    (∃ s inside, v.HasText s ∧ Template.substitute s facts = .error inside ∧
      e = inside.inParameter name) ∨
    ∃ s, coerce (declaredType schema name) s = .error e := by
  unfold materializeParameter at h
  split at h
  next s =>
    split at h
    next inside hsubstitute =>
      exact Or.inl ⟨s, inside, .self s, hsubstitute, (Except.error.inj h).symm⟩
    next filled _ => exact Or.inr ⟨filled, h⟩
  next =>
    split at h
    next inside hfill =>
      obtain ⟨s, hs, hsubstitute⟩ := Value.exists_of_fill_eq_error hfill
      exact Or.inl ⟨s, inside, hs, hsubstitute, (Except.error.inj h).symm⟩
    next => cases h

theorem exists_of_materializeParameter_eq_ok
    (h : materializeParameter facts schema name v = .ok w) {s : String} (hs : v.HasText s) :
    ∃ t, Template.substitute s facts = .ok t := by
  unfold materializeParameter at h
  split at h
  next t =>
    obtain _ | _ | _ := hs
    split at h
    next => cases h
    next filled hsubstitute => exact ⟨filled, hsubstitute⟩
  next =>
    split at h
    next => cases h
    next hfill => exact Value.exists_of_fill_eq_ok hfill hs

theorem materializeParameter_congr (h : ∀ s, v.HasText s →
    Template.substitute s facts = Template.substitute s other) :
    materializeParameter facts schema name v = materializeParameter other schema name v := by
  unfold materializeParameter
  split
  next s => rw [h s (.self s)]
  next => rw [Value.fill_congr h]

/-- Parameters are filled one by one. -/
theorem materialize_eq_mapM (facts : Facts) (schema fields : Fields) :
    materialize facts schema fields =
      fields.mapM fun f => (materializeParameter facts schema f.1 f.2).map fun w => (f.1, w) := by
  induction fields with
  | nil => rfl
  | cons f rest ih =>
    rw [materialize, ih, List.mapM_cons]
    cases materializeParameter facts schema f.1 f.2 with
    | error e => rfl
    | ok w =>
      cases rest.mapM fun f => (materializeParameter facts schema f.1 f.2).map fun w => (f.1, w) <;>
        rfl

theorem exists_of_materialize_eq_error (h : materialize facts schema fields = .error e) :
    ∃ f ∈ fields, materializeParameter facts schema f.1 f.2 = .error e := by
  rw [materialize_eq_mapM] at h
  obtain ⟨f, hf, hfails⟩ := exists_of_mapM_eq_error h
  exact ⟨f, hf, eq_error_of_map hfails⟩

theorem exists_of_materialize_eq_ok (h : materialize facts schema fields = .ok filled) :
    ∀ f ∈ fields, ∃ w, materializeParameter facts schema f.1 f.2 = .ok w := by
  intro f hf
  rw [materialize_eq_mapM] at h
  obtain ⟨pair, hpair⟩ := exists_of_mapM_eq_ok h f hf
  exact exists_of_map_eq_ok hpair

/-- Facts that fill all texts of the parameters alike fill the parameters alike. -/
theorem materialize_congr (h : ∀ s, (Value.ofFields fields).HasText s →
    Template.substitute s facts = Template.substitute s other) :
    materialize facts schema fields = materialize other schema fields := by
  have hall : ∀ f ∈ fields, materializeParameter facts schema f.1 f.2 =
      materializeParameter other schema f.1 f.2 := fun f hf =>
    materializeParameter_congr fun s hs => h s (Value.hasText_ofFields_iff.2 ⟨f, hf, hs⟩)
  rw [materialize_eq_mapM, materialize_eq_mapM, mapM_congr fun f hf => by rw [hall f hf]]

end Remediation
