import Remediation.Proofs.Execution.Record
/-!
# What a step may touch

In whichever way starting a step ends, it changes nothing about the step but the parameters that
references are for, the outputs, the status and the error, and nothing about the outputs that are kept
but those of the step itself (`Confined`).  The error is written by a failure alone, and outputs by an
action that is done and has captured some.  This holds of any values; where they are JSON values, a
step has failed exactly if starting it is seen to fail (`step_confined`).
-/

set_option autoImplicit false

namespace Remediation.Execution

variable {σ : Type} {b : Backend σ} {o : RunOptions} {s : Step} {table : Outputs} {state : σ}
  {calls : List Call} {stage : Stage σ}

/-- The parameters are what references have made of them, also where one of the references failed. -/
theorem Ended.params_eq (h : Ended b o s table state calls stage) :
    stage.step.params = (fill table s.params s.outputRefs).1 := by
  cases h with
  | unfilled hfill | unshown _ hfill | refused _ hfill => exact (congrArg Prod.fst hfill).symm
  | shown _ hfill | unannounced _ hfill | carriedOut _ hfill => rw [hfill, succeeded_params]

/-- The error is that of a failure, or the one that the step came with. -/
theorem Ended.error_cases (h : Ended b o s table state calls stage) :
    stage.step.error = s.error ∨
      stage.step.status = .failure ∧ ∃ e : Fault, stage.step.error = some e.message := by
  cases h with
  | unfilled | refused => exact Or.inr ⟨rfl, _, rfl⟩
  | unshown => exact Or.inl rfl
  | shown | unannounced | carriedOut => exact Or.inl (succeeded_error ..)

/-- The outputs that are kept are those from before, with those of a step that has succeeded. -/
theorem Ended.kept_cases (h : Ended b o s table state calls stage) :
    stage.outputs = table ∨
      stage.step.status = .success ∧ stage.outputs = leave table stage.step := by
  cases h with
  | unfilled | unshown | refused => exact Or.inl rfl
  | shown | unannounced | carriedOut => exact Or.inr ⟨succeeded_status .., rfl⟩

/-- The action of a step is done, and has captured outputs, which the step has now.  Before that, things
were only said. -/
def Captured (b : Backend σ) (o : RunOptions) (s left : Step) (state : σ) : Prop :=
  o.dryRun = false ∧ left.status = .success ∧ ∃ f fs before after, b.Says state before ∧
    b.perform s.action left.params before = (.done (some (f :: fs)), after) ∧
      left.outputs = some (f :: fs)

/-- The outputs of the step are those that its action captured, or those that it came with. -/
theorem Ended.captured_of_outputs_ne (h : Ended b o s table state calls stage)
    (hne : stage.step.outputs ≠ s.outputs) : Captured b o s stage.step state := by
  have hdone {params : Fields} {captured : Option Fields} {before after : σ}
      (hreal : o.dryRun = false) (hsaid : b.Says state before)
      (hperform : b.perform s.action params before = (.done captured, after))
      (hne : (succeeded s params captured).outputs ≠ s.outputs) :
      Captured b o s (succeeded s params captured) state := by
    obtain ⟨f, fs, rfl, houtputs⟩ := (outputs_succeeded s params captured).resolve_left hne
    refine ⟨hreal, succeeded_status .., f, fs, before, after, hsaid, ?_, houtputs⟩
    rwa [succeeded_params]
  cases h with
  | unfilled | unshown | refused | shown => exact absurd rfl hne
  | unannounced hreal _ hsaid hperform => exact hdone hreal hsaid hperform hne
  | carriedOut hreal _ hsaid hperform => exact hdone hreal hsaid hperform hne

/-- A stage that the turn of a step has come to differs from how it began only where it may. -/
structure Confined (b : Backend σ) (o : RunOptions) (s : Step) (table : Outputs) (state : σ)
    (stage : Stage σ) : Prop where
  id : stage.step.id = s.id
  action : stage.step.action = s.action
  reason : stage.step.reason = s.reason
  dependsOn : stage.step.dependsOn = s.dependsOn
  outputRefs : stage.step.outputRefs = s.outputRefs
  /-- Parameters that no reference is for are what they were. -/
  params : ∀ param ∉ s.outputRefs.map Prod.fst,
    lookupField stage.step.params param = lookupField s.params param
  error : stage.step.error ≠ s.error → stage.step.status = .failure
  outputs : stage.step.outputs ≠ s.outputs → Captured b o s stage.step state
  /-- The outputs of other steps are what they were. -/
  others : ∀ id ≠ s.id, lookupField stage.outputs id = lookupField table id
  /-- A step that fails leaves nothing. -/
  failed : stage.step.status = .failure → stage.outputs = table

theorem Ended.confined (h : Ended b o s table state calls stage) :
    Confined b o s table state stage := by
  have haction := congrArg Step.action h.task_eq
  have hreason := congrArg Step.reason h.task_eq
  have hdependsOn := congrArg Step.dependsOn h.task_eq
  refine {
    id := h.id_eq
    action := haction
    reason := hreason
    dependsOn := hdependsOn
    outputRefs := h.outputRefs_eq
    params := ?params
    error := ?error
    outputs := h.captured_of_outputs_ne
    others := ?others
    failed := ?failed }
  case params =>
    intro param hparam
    rw [h.params_eq, lookupField_fill_of_notMem hparam]
  case error =>
    intro hne
    rcases h.error_cases with heq | ⟨hfailure, -⟩
    · exact absurd heq hne
    · exact hfailure
  case others =>
    intro id hid
    rcases h.kept_cases with heq | ⟨-, heq⟩
    · rw [heq]
    · rw [heq, lookupField_leave_ne table (h.id_eq ▸ hid)]
  case failed =>
    intro hfailure
    rcases h.kept_cases with heq | ⟨hsuccess, -⟩
    · exact heq
    · exact absurd hfailure (status_ne_failure hsuccess)

/-- Starting a step of JSON values touches only what it may, whether it is seen to fail, and the step
has failed for the fault that is seen, or not, and the step has succeeded. -/
theorem step_confined (hb : b.CapturesJson) (hs : s.IsJson) (htable : table.AreJson)
    (o : RunOptions) (state : σ) :
    Confined b o s table state (step b o s table state) ∧
    ((step b o s table state).result = .ok () ∧
        (step b o s table state).step.status = .success ∨
      ∃ e : Fault, (step b o s table state).result = .error e ∧
        (step b o s table state).step.status = .failure ∧
        (step b o s table state).step.error = some e.message) := by
  obtain ⟨calls, hended⟩ := step_ended b o s table state
  refine ⟨hended.confined, ?_⟩
  rcases hended.cases hs htable (hended.capturedJson hb) with
    ⟨params, captured, hstep, -, hresult⟩ | ⟨params, e, hstep, -, hresult, -⟩
  · exact Or.inl ⟨hresult, by rw [hstep, succeeded_status]⟩
  · exact Or.inr ⟨e, hresult, by rw [hstep, failed_status], by rw [hstep, failed_error]⟩

/-- The outputs behind a step that has rendered a page. -/
def drafted : Outputs := [("draft", [("page", .text "index")])]

/-- A step that takes a page that is there, and a cover that is not. -/
def bindStep : Step :=
  ⟨"bind", "upload", [("from", .text "title"), ("to", .text "shelf")], "", [], none,
    [("from", "draft.page"), ("cover", "draft.cover")], .pending, none⟩

/-- The step fails at its second reference; of its parameters, the one that the first reference is for
has been written by then. -/
theorem step_confined_bind :
    rendering.CapturesJson ∧ bindStep.IsJson ∧ drafted.AreJson ∧
    (step rendering .default bindStep drafted ()).step.params =
      [("from", .text "index"), ("to", .text "shelf")] ∧
    (step rendering .default bindStep drafted ()).step.status = .failure ∧
    Confined rendering .default bindStep drafted () (step rendering .default bindStep drafted ()) := by
  have hs : bindStep.IsJson := by
    refine ⟨?_, fun outputs h => nomatch h⟩
    intro e he
    simp only [bindStep, List.mem_cons, List.not_mem_nil, or_false] at he
    rcases he with rfl | rfl
    all_goals exact .text _
  have htable : drafted.AreJson := by
    intro e he
    obtain rfl := List.mem_singleton.1 he
    intro field hfield
    obtain rfl := List.mem_singleton.1 hfield
    exact .text _
  obtain ⟨hconfined, -⟩ := step_confined capturesJson_rendering hs htable .default ()
  exact ⟨capturesJson_rendering, hs, htable, rfl, rfl, hconfined⟩

end Remediation.Execution
