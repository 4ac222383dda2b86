import Remediation.Plan.Document
import Remediation.Proofs.Checked
import Remediation.Proofs.Json.Data
/-!
# Plans that are stored and loaded

A plan that has been written as a document is read back as it was, with whatever indentation
(`parse_render`).  What a step does not have is left out, while null stays among its parameters and
outputs.

The reader goes through 200 lists and maps inside of each other and no further, where those that hold
nothing do not count; a document takes three of them before it comes to the parameters of a step.
-/

set_option autoImplicit false

namespace Remediation

/-- What a document can keep of a step: parameters and outputs that nest at most `limit` lists and maps
that hold something, and parameters that are taken from one output each. -/
structure Step.Storable (limit : Nat) (s : Step) : Prop where
  params : s.params.Storable limit
  outputs : ∀ fields ∈ s.outputs, fields.Storable limit
  outputRefs : (s.outputRefs.map Prod.fst).Nodup

namespace Step

variable {limit : Nat} {s : Step}

theorem fieldsJson_of_storable {fields : Fields} (h : fields.Storable limit) :
    ∃ j : Json, fieldsJson fields = .ok j ∧ j.toValue = Value.ofFields fields ∧ j.Fits limit := by
  obtain ⟨stored, hfits, rfl⟩ := h
  refine ⟨.map stored, ?_, (Json.ofFields_dataOf stored).symm, hfits⟩
  rw [fieldsJson, Json.ofFields_dataOf]
  exact hfits.toJson_toValue documentConvention

theorem toValue_textsJson (texts : List String) :
    (textsJson texts).toValue = .list (texts.map .text) := by
  rw [textsJson, Json.toValue]
  congr 1
  induction texts with
  | nil => rfl
  | cons s rest ih => simp [Json.toValues, Json.toValue, ih]

theorem mapM_fieldsJson {outputs : Option Fields}
    (h : ∀ fields ∈ outputs, fields.Storable limit) :
    ∃ js : Option Json, outputs.mapM fieldsJson = .ok js ∧
      js.map Json.toValue = outputs.map Value.ofFields ∧ ∀ j ∈ js, j.Fits limit := by
  cases outputs with
  | none => exact ⟨none, rfl, rfl, by simp⟩
  | some fields =>
    obtain ⟨j, hj, hvalue, hfits⟩ := fieldsJson_of_storable (h fields rfl)
    refine ⟨some j, ?_, by simp [hvalue], by simpa using hfits⟩
    rw [Option.mapM_some, hj]
    rfl

theorem toEntries_texts (refs : List (String × String)) :
    Json.toEntries (refs.map fun (param, ref) => (param, .text ref)) =
      Checked.entriesOf .text refs := by
  induction refs with
  | nil => rfl
  | cons e rest ih =>
    rw [List.map_cons, Json.toEntries, ih]
    rfl

/-- The fields of the record of a step. -/
def record (s : Step) (params : Json) (outputs : Option Json) : List (String × Json) :=
  [("id", .text s.id), ("actionName", .text s.action), ("params", params),
    ("reason", .text s.reason), ("dependsOn", textsJson s.dependsOn)] ++
  (outputs.map fun o => ("outputs", o)).toList ++
  [("outputRefs", .map (s.outputRefs.map fun (param, ref) => (param, .text ref))),
    ("status", .text s.status.word)] ++
  (s.error.map fun e => ("error", Json.text e)).toList

theorem toJson_eq_record {params : Json} {outputs : Option Json}
    (hparams : fieldsJson s.params = .ok params)
    (houtputs : s.outputs.mapM fieldsJson = .ok outputs) :
    s.toJson = .ok (.map (s.record params outputs)) := by
  rw [toJson, hparams, houtputs]
  rfl

theorem check_record {params : Json} {outputs : Option Json} (h : s.Storable limit)
    (hparams : params.toValue = Value.ofFields s.params)
    (houtputs : outputs.map Json.toValue = s.outputs.map Value.ofFields) :
    check (Json.map (s.record params outputs)).toValue = .ok s := by
  have hstatus : Status.check (.text s.status.word) = .ok s.status := by
    rw [Status.check, Status.ofWord?_word]
  have hrefs : Checked.table Checked.text (.map (Checked.entriesOf .text s.outputRefs)) =
      .ok s.outputRefs := Checked.table_entriesOf (fun _ _ => rfl) h.outputRefs
  have hfields := Checked.fields_ofFields h.params.nodup
  have hoptional (fields : Fields) (hsome : s.outputs = some fields) :
      Checked.optional Checked.fields (Value.ofFields fields) = .ok (some fields) :=
    Checked.optional_ofFields (h.outputs fields hsome).nodup
  obtain ⟨id, action, paramFields, reason, dependsOn, outputFields, outputRefs, status, error⟩ := s
  cases outputs with
  | none =>
    obtain rfl : outputFields = none := by simpa using houtputs.symm
    cases error <;>
      simp [record, check, Json.toValue, Json.toEntries, Checked.field, Checked.required,
        Checked.spelled?, entryAt?, Checked.text, Except.map,
        toValue_textsJson, Checked.list_texts, toEntries_texts, hparams, hfields, hrefs, hstatus]
  | some output =>
    obtain ⟨fields, rfl, houtput⟩ : ∃ fields, outputFields = some fields ∧
        Value.ofFields fields = output.toValue := by simpa using houtputs.symm
    have hoptional := hoptional fields rfl
    cases error <;>
      simp [record, check, Json.toValue, Json.toEntries, Checked.field, Checked.required,
        Checked.spelled?, entryAt?, Checked.text, Except.map,
        toValue_textsJson, Checked.list_texts, toEntries_texts, hparams, hfields, hrefs, hstatus,
        ← houtput, hoptional]

theorem fits_record {params : Json} {outputs : Option Json} (h : s.Storable (limit + 1))
    (hparams : params.Fits (limit + 1)) (houtputs : ∀ j ∈ outputs, j.Fits (limit + 1)) :
    (Json.map (s.record params outputs)).Fits (limit + 2) := by
  have htexts : (textsJson s.dependsOn).Fits (limit + 1) :=
    .list (List.forall_mem_map.2 fun text _ => .text text)
  have hrefs : (Json.map (s.outputRefs.map fun (param, ref) => (param, .text ref))).Fits (limit + 1) := by
    refine .map ?_ (List.forall_mem_map.2 fun e _ => .text e.2)
    simpa [Function.comp_def] using h.outputRefs
  refine .map ?_ ?_
  · unfold record
    cases outputs <;> cases s.error <;> simp
  · have houtput : ∀ e ∈ (outputs.map fun o => ("outputs", o)).toList, e.2.Fits (limit + 1) := by
      cases outputs with
      | none => exact List.forall_mem_nil _
      | some o => exact List.forall_mem_singleton.2 (houtputs o rfl)
    have herror : ∀ e ∈ (s.error.map fun e => ("error", Json.text e)).toList,
        e.2.Fits (limit + 1) := by
      cases s.error with
      | none => exact List.forall_mem_nil _
      | some e => exact List.forall_mem_singleton.2 (.text e)
    simp only [record, List.forall_mem_append, List.forall_mem_cons]
    exact ⟨⟨⟨⟨.text _, .text _, hparams, .text _, htexts, List.forall_mem_nil _⟩, houtput⟩,
      hrefs, .text _, List.forall_mem_nil _⟩, herror⟩

/-- A step is read back from its form. -/
theorem exists_toJson (h : s.Storable (limit + 1)) :
    ∃ j, s.toJson = .ok j ∧ check j.toValue = .ok s ∧ j.Fits (limit + 2) := by
  obtain ⟨params, hparams, hparamsValue, hparamsFits⟩ := fieldsJson_of_storable h.params
  obtain ⟨outputs, houtputs, houtputsValue, houtputsFits⟩ := mapM_fieldsJson h.outputs
  exact ⟨_, toJson_eq_record hparams houtputs, check_record h hparamsValue houtputsValue,
    fits_record h hparamsFits houtputsFits⟩

end Step

namespace Plan

variable {limit : Nat} {p : Plan} {steps : List Step}

theorem mapM_toJson (h : ∀ s ∈ steps, s.Storable (limit + 1)) :
    ∃ js, steps.mapM Step.toJson = .ok js ∧
      (∀ n, Checked.items Step.check n (Json.toValues js) = .ok steps) ∧
      ∀ j ∈ js, j.Fits (limit + 2) := by
  induction steps with
  | nil => exact ⟨[], rfl, fun _ => rfl, List.forall_mem_nil _⟩
  | cons s rest ih =>
    obtain ⟨hs, hrest⟩ := List.forall_mem_cons.1 h
    obtain ⟨j, hj, hcheck, hfits⟩ := Step.exists_toJson hs
    obtain ⟨js, hjs, hitems, hall⟩ := ih hrest
    refine ⟨j :: js, ?_, fun n => ?_, List.forall_mem_cons.2 ⟨hfits, hall⟩⟩
    · rw [List.mapM_cons, hj, hjs]
      rfl
    · rw [Json.toValues, Checked.items, hcheck, hitems]
      rfl

/-- A plan is read back from its form. -/
theorem exists_toJson (h : ∀ s ∈ p.steps, s.Storable (limit + 1)) :
    ∃ j, p.toJson = .ok j ∧ read j.toValue = .ok p ∧ j.Fits (limit + 4) := by
  obtain ⟨js, hjs, hitems, hfits⟩ := mapM_toJson h
  have hlist : Checked.list Step.check (.list (Json.toValues js)) = .ok p.steps := hitems 0
  refine ⟨_, by rw [toJson, hjs]; rfl, ?_, ?_⟩
  · simp [read, check, Json.toValue, Json.toEntries, Checked.field, Checked.spelled?, entryAt?,
      Checked.text, Except.map, hlist, Checked.named]
  · refine .map (by simp) ?_
    simp only [List.forall_mem_cons]
    exact ⟨.text _, .text _, .list hfits, List.forall_mem_nil _⟩

theorem legible_documentStyle (indent : Nat) : (documentStyle indent).Legible where
  itemGap := ⟨[' '], by simp [documentStyle], by simp [Json.AreGaps, Json.isGap]⟩
  keyGap := ⟨[' '], by simp [documentStyle], by simp [Json.AreGaps, Json.isGap]⟩

/-- How deep lists and maps may nest in the parameters and the outputs of a stored step. -/
def dataDepth : Nat := Json.documentDepth - 3

/-- A plan that has been written is read back as it was, with whatever indentation, if its parameters
and outputs nest no deeper than the reader goes. -/
theorem parse_render (h : ∀ s ∈ p.steps, s.Storable dataDepth) (indent : Nat) :
    ∃ text, p.render indent = .ok text ∧ parse text = .ok p := by
  obtain ⟨j, hj, hread, hfits⟩ := exists_toJson h
  refine ⟨_, by rw [render, hj]; rfl, ?_⟩
  have hparsed : Json.read Json.strict (j.render (documentStyle indent)) = .ok j :=
    Json.read_render (legible_documentStyle indent) hfits
  rw [parse, hparsed]
  exact hread

/-- A step that has failed, with null among its parameters and its outputs. -/
def reviewStep : Step where
  id := "review"
  action := "review"
  params := [("note", .null), ("tags", .list [.bool true, .int (-5), .text "two\nlines"])]
  reason := ""
  dependsOn := ["draft"]
  outputs := some [("page", .null)]
  outputRefs := [("from", "draft.page")]
  status := .failure
  error := some "offline"

theorem storable_reviewStep : reviewStep.Storable dataDepth where
  params := by
    refine ⟨[("note", .null), ("tags", .list [.bool true, .int (-5), .text "two\nlines"])],
      .map (by simp) ?_, rfl⟩
    have hshort : Decimal.isWritable (-5) = true := by decide +kernel
    simp only [List.forall_mem_cons]
    refine ⟨.null, .list ?_, List.forall_mem_nil _⟩
    simp only [List.forall_mem_cons]
    exact ⟨.bool true, .int hshort, .text _, List.forall_mem_nil _⟩
  outputs := by
    intro fields hfields
    obtain rfl := Option.some.inj hfields
    exact ⟨[("page", .null)], .map (by simp) (List.forall_mem_singleton.2 .null), rfl⟩
  outputRefs := by simp [reviewStep]

/-- A plan of that step comes back with all of this. -/
theorem parse_render_review : (∀ s ∈ [reviewStep], s.Storable dataDepth) ∧
    ∃ text, Plan.render ⟨"project", "repository", [reviewStep]⟩ 2 = .ok text ∧
      parse text = .ok ⟨"project", "repository", [reviewStep]⟩ := by
  have hstorable : ∀ s ∈ [reviewStep], s.Storable dataDepth :=
    List.forall_mem_singleton.2 storable_reviewStep
  exact ⟨hstorable, parse_render hstorable 2⟩

/-! ## Depth -/

/-- Lists inside of each other, with nothing in the innermost one but null. -/
def nested : Nat → Json
  | 0 => .null
  | n + 1 => .list [nested n]

theorem fits_nested_iff {n : Nat} : (nested n).Fits limit ↔ n ≤ limit := by
  induction n generalizing limit with
  | zero => exact ⟨fun _ => Nat.zero_le _, fun _ => .null⟩
  | succ n ih =>
    constructor
    · intro h
      cases h with
      | list hitems => exact Nat.succ_le_succ (ih.1 (hitems _ List.mem_cons_self))
    · intro h
      obtain _ | limit := limit
      · cases h
      · exact .list (List.forall_mem_singleton.2 (ih.2 (Nat.le_of_succ_le_succ h)))

/-- A step with lists inside of each other as its parameter. -/
def nestedStep (n : Nat) : Step :=
  ⟨"scan", "scan", Json.dataOf [("levels", nested n)], "", [], none, [], .pending, none⟩

/-- A plan with that step. -/
def nestedPlan (n : Nat) : Plan := ⟨"project", "repository", [nestedStep n]⟩

theorem fits_levels {n : Nat} (h : n ≤ limit) :
    (Json.map [("levels", nested n)]).Fits (limit + 1) :=
  .map (by simp) (List.forall_mem_singleton.2 (fits_nested_iff.2 h))

theorem storable_nestedPlan {n : Nat} (h : n ≤ limit) :
    ∀ s ∈ (nestedPlan n).steps, s.Storable (limit + 1) :=
  List.forall_mem_singleton.2 ⟨⟨_, fits_levels h, rfl⟩, by simp [nestedStep], List.nodup_nil⟩

theorem toJson_nestedPlan (n : Nat) : (nestedPlan n).toJson = .ok (.map
    [("projectName", .text "project"), ("repository", .text "repository"),
      ("steps", .list [.map ((nestedStep n).record (.map [("levels", nested n)]) none)])]) := by
  have hparams : fieldsJson (nestedStep n).params = .ok (.map [("levels", nested n)]) := by
    rw [fieldsJson, nestedStep, Json.ofFields_dataOf]
    exact (fits_levels (Nat.le_refl n)).toJson_toValue documentConvention
  rw [toJson, nestedPlan, List.mapM_cons, Step.toJson_eq_record hparams rfl]
  rfl

/-- A plan whose parameters nest one level too deep is written, but what has been written is not
read. -/
theorem parse_render_too_deep : (∀ s ∈ (nestedPlan 197).steps, s.Storable (dataDepth + 1)) ∧
    ∃ text, (nestedPlan 197).render 0 = .ok text ∧
      parse text = .error ⟨recordName, [⟨.notJson, []⟩]⟩ := by
  have hstorable : ∀ s ∈ (nestedPlan 197).steps, s.Storable (dataDepth + 1) :=
    storable_nestedPlan (Nat.le_refl 197)
  obtain ⟨j, hj, -, hfits⟩ := exists_toJson hstorable
  refine ⟨hstorable, j.render (documentStyle 0), by rw [render, hj]; rfl, ?_⟩
  have hdeep : ¬ j.Fits Json.documentDepth := by
    intro hplan
    rw [toJson_nestedPlan] at hj
    obtain rfl := Except.ok.inj hj
    -- Each list or map around the lists takes one from what the reader has left.
    have hsteps := hplan.of_map (List.mem_cons_of_mem _ (List.mem_cons_of_mem _ List.mem_cons_self))
    have hrecord := hsteps.of_list List.mem_cons_self
    have hmem : ("params", Json.map [("levels", nested 197)]) ∈
        (nestedStep 197).record (.map [("levels", nested 197)]) none := by simp [Step.record]
    have hlevels := (hrecord.of_map hmem).of_map List.mem_cons_self
    exact absurd (fits_nested_iff.1 hlevels) (by decide)
  rw [parse, Json.read_render_eq_error (d := Json.strict) (legible_documentStyle 0) hfits hdeep]

end Plan

end Remediation
