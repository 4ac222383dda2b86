import Remediation.Proofs.Json.Screen
import Remediation.Proofs.Schedule.Sources
/-!
# References to outputs

A reference is read in two ways.  Steps are put in order by what stands before its first point, and a
run takes the two names that its only point is between.  Where a run can read a reference, both mean
the same step (`Refers.takesFrom`).

Filling in the outputs that references mean writes the parameters that they are for, and no others
(`lookupField_fill_of_notMem`).
-/

set_option autoImplicit false

namespace Remediation.Execution

variable {table : Outputs} {params : Fields} {refs : List (String × String)} {param ref : String}

/-- A reference to an output of a step: two names that have no points, with one between them. -/
structure Refers (ref source output : String) : Prop where
  source_ne : source ≠ ""
  output_ne : output ≠ ""
  source_points : '.' ∉ source.toList
  output_points : '.' ∉ output.toList
  eq : ref = source ++ "." ++ output

theorem readReference?_eq_some_iff {source output : String} :
    readReference? ref = some (source, output) ↔ Refers ref source output := by
  have hpieces : Text.split '.' ref = [source, output] ↔
      '.' ∉ source.toList ∧ '.' ∉ output.toList ∧ ref = source ++ "." ++ output :=
    Text.split_eq_pair_iff
  constructor
  · intro h
    unfold readReference? at h
    split at h
    next a b hsplit =>
      split at h
      next => cases h
      next hne =>
        obtain ⟨rfl, rfl⟩ := Prod.mk.inj (Option.some.inj h)
        obtain ⟨hsource, houtput, heq⟩ := hpieces.1 hsplit
        exact ⟨fun he => hne (Or.inl he), fun he => hne (Or.inr he), hsource, houtput, heq⟩
    next => cases h
  · intro h
    have hsplit := hpieces.2 ⟨h.source_points, h.output_points, h.eq⟩
    simp [readReference?, hsplit, h.source_ne, h.output_ne]

/-- A reference refers to one output only. -/
theorem Refers.unique {source output source' output' : String} (h : Refers ref source output)
    (h' : Refers ref source' output') : source = source' ∧ output = output' := by
  have hread := readReference?_eq_some_iff.2 h
  rw [readReference?_eq_some_iff.2 h'] at hread
  obtain ⟨hsource, houtput⟩ := Prod.mk.inj (Option.some.inj hread)
  exact ⟨hsource.symm, houtput.symm⟩

/-- The step that a run takes an output from is the one behind which the step that takes it is put. -/
theorem Refers.takesFrom {source output : String} (h : Refers ref source output) {s : Step}
    (hother : source ≠ s.id) : s.TakesFrom ref source :=
  ⟨h.source_ne, hother, h.source_points, output, h.eq⟩

/-- What a reference means that a run can read, or why it means nothing. -/
theorem resolve_of_refers {source output : String} (h : Refers ref source output) :
    (∃ fields v, lookupField table source = some fields ∧ lookupField fields output = some v ∧
      resolve table ref = .ok v) ∨
    ((lookupField table source).bind (lookupField · output) = none ∧
      ∃ e, (e = .step source ∨ e = .output output source) ∧ resolve table ref = .error e) := by
  have hread := readReference?_eq_some_iff.2 h
  cases hfields : lookupField table source with
  | none => exact Or.inr ⟨rfl, .step source, Or.inl rfl, by simp [resolve, hread, hfields]⟩
  | some fields =>
    cases hv : lookupField fields output with
    | none => exact Or.inr ⟨hv, .output output source, Or.inr rfl, by simp [resolve, hread, hfields, hv]⟩
    | some v => exact Or.inl ⟨fields, v, rfl, hv, by simp [resolve, hread, hfields, hv]⟩

/-- What a reference means is an output that is kept, under the two names that a run reads in it. -/
theorem exists_of_resolve {v : Value} (h : resolve table ref = .ok v) :
    ∃ source output fields, Refers ref source output ∧ lookupField table source = some fields ∧
      lookupField fields output = some v := by
  unfold resolve at h
  split at h
  next => cases h
  next source output hread =>
    split at h
    next => cases h
    next fields hfields =>
      split at h
      next => cases h
      next w hw =>
        obtain rfl := Except.ok.inj h
        exact ⟨source, output, fields, readReference?_eq_some_iff.1 hread, hfields, hw⟩

/-! ## Filling in what references mean -/

/-- If parameters are filled, every reference means an output. -/
theorem exists_of_fill_eq_none {filled : Fields} (h : fill table params refs = (filled, none))
    (href : (param, ref) ∈ refs) : ∃ v, resolve table ref = .ok v := by
  induction refs generalizing params with
  | nil => simp at href
  | cons first rest ih =>
    obtain ⟨p, r⟩ := first
    simp only [fill] at h
    split at h
    next => cases h
    next v hv =>
      rcases List.mem_cons.1 href with heq | hrest
      · obtain ⟨rfl, rfl⟩ := Prod.mk.inj heq
        exact ⟨v, hv⟩
      · exact ih h hrest

/-- If parameters are not filled, some reference means no output. -/
theorem exists_of_fill_eq_some {filled : Fields} {e : ReferenceFault}
    (h : fill table params refs = (filled, some e)) :
    ∃ param ref, (param, ref) ∈ refs ∧ resolve table ref = .error e := by
  induction refs generalizing params with
  | nil => simp [fill] at h
  | cons first rest ih =>
    obtain ⟨p, r⟩ := first
    simp only [fill] at h
    split at h
    next e' he =>
      cases h
      exact ⟨p, r, List.mem_cons_self, he⟩
    next =>
      obtain ⟨param, ref, hmem, he⟩ := ih h
      exact ⟨param, ref, List.mem_cons_of_mem _ hmem, he⟩

/-- A parameter that no reference is for stays as it is. -/
theorem lookupField_fill_of_notMem (h : param ∉ refs.map Prod.fst) :
    lookupField (fill table params refs).1 param = lookupField params param := by
  induction refs generalizing params with
  | nil => rfl
  | cons first rest ih =>
    obtain ⟨p, r⟩ := first
    obtain ⟨hp, hrest⟩ := List.ne_and_not_mem_of_not_mem_cons h
    simp only [fill]
    split
    next => rfl
    next v _ => rw [ih hrest, lookupField_setField_ne _ _ hp.symm]

/-- A parameter that a reference is for holds an output that such a reference means. -/
theorem exists_lookupField_fill {filled : Fields} (h : fill table params refs = (filled, none))
    (hparam : param ∈ refs.map Prod.fst) :
    ∃ ref v, (param, ref) ∈ refs ∧ resolve table ref = .ok v ∧ lookupField filled param = some v := by
  induction refs generalizing params with
  | nil => simp at hparam
  | cons first rest ih =>
    obtain ⟨p, r⟩ := first
    simp only [fill] at h
    split at h
    next => cases h
    next v hv =>
      by_cases hrest : param ∈ rest.map Prod.fst
      · obtain ⟨ref, w, href, hw, hlookup⟩ := ih h hrest
        exact ⟨ref, w, List.mem_cons_of_mem _ href, hw, hlookup⟩
      · -- No later reference is for the parameter, so that it keeps what the first one means.
        obtain rfl : param = p := by simpa [hrest] using hparam
        have hkept : lookupField (fill table (setField params param v) rest).1 param =
            lookupField (setField params param v) param := lookupField_fill_of_notMem hrest
        rw [h, lookupField_setField_self] at hkept
        exact ⟨r, v, List.mem_cons_self, hv, hkept⟩

/-- A parameter holds the output that its reference means, if it has only one. -/
theorem lookupField_fill {filled : Fields} (hkeys : (refs.map Prod.fst).Nodup)
    (h : fill table params refs = (filled, none)) (href : (param, ref) ∈ refs) {v : Value}
    (hv : resolve table ref = .ok v) : lookupField filled param = some v := by
  obtain ⟨ref', w, href', hw, hlookup⟩ := exists_lookupField_fill h (List.mem_map_of_mem href)
  obtain rfl : ref' = ref := congrArg Prod.snd (List.inj_on_of_nodup_map hkeys href' href rfl)
  rwa [Except.ok.inj (hv.symm.trans hw)]

/-! ## JSON values -/

/-- Outputs that are JSON values. -/
def Outputs.AreJson (table : Outputs) : Prop := ∀ e ∈ table, e.2.AreJson

theorem isJson_of_resolve (htable : table.AreJson) {v : Value} (h : resolve table ref = .ok v) :
    v.IsJson := by
  obtain ⟨source, output, fields, -, hfields, hv⟩ := exists_of_resolve h
  exact (htable _ (mem_of_lookupField hfields)).lookupField hv

theorem areJson_fill (htable : table.AreJson) (hparams : params.AreJson) :
    (fill table params refs).1.AreJson := by
  induction refs generalizing params with
  | nil => exact hparams
  | cons first rest ih =>
    obtain ⟨p, r⟩ := first
    simp only [fill]
    split
    next => exact hparams
    next v hv => exact ih (hparams.setField (isJson_of_resolve htable hv))

end Remediation.Execution
