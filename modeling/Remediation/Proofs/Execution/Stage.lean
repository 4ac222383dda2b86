import Remediation.Proofs.Execution.Reference
/-!
# How a step ends

A step that is started takes the outputs that it refers to and is carried out.  All that can become of
it is listed once (`Ended`), with what has been done to the surroundings by then: its action is asked
for at most once, and all else is printed or reported.  Where parameters and outputs are JSON values,
it ends in success or, for a fault that is recorded on it, in failure (`Ended.cases`).
-/

set_option autoImplicit false

namespace Remediation

variable {σ : Type} {b : Backend σ} {o : RunOptions}

/-! ## Printing and reporting -/

namespace Backend

/-- A state comes about from another one by printing and reporting alone. -/
inductive Says (b : Backend σ) (state : σ) : σ → Prop where
  | nothing : Says b state state
  | line {last : σ} (line : String) : Says b state last → Says b state (b.printLine line last)
  | report {last : σ} (level : Level) (text : String) : Says b state last →
      Says b state (b.report level text last)

theorem Says.trans {state between last : σ} (h : b.Says state between) (h' : b.Says between last) :
    b.Says state last := by
  induction h' with
  | nothing => exact h
  | line text _ ih => exact .line text ih
  | report level text _ ih => exact .report level text ih

/-- Actions that capture JSON values alone. -/
def CapturesJson (b : Backend σ) : Prop :=
  ∀ action params state captured next,
    b.perform action params state = (.done (some captured), next) → captured.AreJson

end Backend

namespace Execution

theorem says_printLines (lines : List String) (state : σ) :
    b.Says state (printLines b lines state) := by
  have hall : ∀ last, b.Says state last → b.Says state (printLines b lines last) := by
    induction lines with
    | nil => exact fun last h => h
    | cons line rest ih => exact fun last h => ih _ (.line line h)
  exact hall state .nothing

/-! ## What becomes of a step -/

/-- A step that has failed, with the parameters that it had by then. -/
def failed (s : Step) (params : Fields) (e : Fault) : Step :=
  { s with params := params, status := .failure, error := some e.message }

/-- A step that has succeeded, with its parameters filled and what its action captured. -/
def succeeded (s : Step) (params : Fields) (captured : Option Fields) : Step :=
  adopt captured { s with params := params, status := .success }

section Fields

variable (s : Step) (params : Fields) (captured : Option Fields) (e : Fault)

@[simp] theorem failed_status : (failed s params e).status = .failure := rfl

@[simp] theorem failed_error : (failed s params e).error = some e.message := rfl

theorem succeeded_eq : succeeded s params captured =
    { s with params := params, status := .success,
             outputs := (succeeded s params captured).outputs } := by
  unfold succeeded adopt
  split <;> rfl

@[simp] theorem succeeded_id : (succeeded s params captured).id = s.id := by rw [succeeded_eq]

@[simp] theorem succeeded_action : (succeeded s params captured).action = s.action := by
  rw [succeeded_eq]

@[simp] theorem succeeded_params : (succeeded s params captured).params = params := by
  rw [succeeded_eq]

@[simp] theorem succeeded_outputRefs : (succeeded s params captured).outputRefs = s.outputRefs := by
  rw [succeeded_eq]

@[simp] theorem succeeded_status : (succeeded s params captured).status = .success := by
  rw [succeeded_eq]

@[simp] theorem succeeded_error : (succeeded s params captured).error = s.error := by
  rw [succeeded_eq]

/-- What a step has left is what its action captured, if that is something, or what was known
beforehand. -/
theorem outputs_succeeded :
    (succeeded s params captured).outputs = s.outputs ∨
      ∃ f fs, captured = some (f :: fs) ∧
        (succeeded s params captured).outputs = some (f :: fs) := by
  match captured with
  | none | some [] => exact Or.inl rfl
  | some (f :: fs) => exact Or.inr ⟨f, fs, rfl, rfl⟩

end Fields

/-- Outputs that are kept for other steps stay as they are. -/
theorem lookupField_leave_ne (table : Outputs) {s : Step} {id : String} (h : id ≠ s.id) :
    lookupField (leave table s) id = lookupField table id := by
  unfold leave
  split
  · exact lookupField_setField_ne _ _ h.symm
  · rfl

theorem status_ne_failure {s : Step} (h : s.status = .success) : s.status ≠ .failure := by
  simp [h]

/-- The fault that is recorded on a step for how carrying out its action ended. -/
def faultOf? (s : Step) : Attempt → Option Fault
  | .unresolved e => some (.stepAction s.action e s.id)
  | .failed e => some (.stepFailed e s.id)
  | .done _ => none

/-- A call of an action, and how it ended. -/
structure Call where
  action : String
  params : Fields
  attempt : Attempt

/-- All that can become of a step that is started, and the calls that are made for it. -/
inductive Ended (b : Backend σ) (o : RunOptions) (s : Step) (table : Outputs) (state : σ) :
    List Call → Stage σ → Prop where
  /-- One of its references means no output. -/
  | unfilled {params : Fields} {e : ReferenceFault} {last : σ} :
      fill table s.params s.outputRefs = (params, some e) → b.Says state last →
      Ended b o s table state []
        ⟨failed s params (.reference e s.id), table, .error (.reference e s.id), last⟩
  /-- It should be shown, but cannot be. -/
  | unshown {params : Fields} {e : Fault} {last : σ} : o.dryRun = true →
      fill table s.params s.outputRefs = (params, none) → b.Says state last →
      screenText params = .error e →
      Ended b o s table state []
        ⟨{ s with params := params, status := .running }, table, .error e, last⟩
  /-- It has been shown. -/
  | shown {params : Fields} {last : σ} : o.dryRun = true →
      fill table s.params s.outputRefs = (params, none) → b.Says state last →
      Ended b o s table state []
        ⟨succeeded s params none, leave table (succeeded s params none), .ok (), last⟩
  /-- Its action is not there or has failed. -/
  | refused {params : Fields} {attempt : Attempt} {e : Fault} {before after last : σ} :
      o.dryRun = false → fill table s.params s.outputRefs = (params, none) →
      b.Says state before → b.perform s.action params before = (attempt, after) →
      faultOf? s attempt = some e → b.Says after last →
      Ended b o s table state [⟨s.action, params, attempt⟩]
        ⟨failed s params e, table, .error e, last⟩
  /-- Its action is done, but what it has left cannot be shown. -/
  | unannounced {params outputs : Fields} {captured : Option Fields} {e : Fault}
      {before after last : σ} : o.dryRun = false →
      fill table s.params s.outputRefs = (params, none) → b.Says state before →
      b.perform s.action params before = (.done captured, after) →
      lookupField (leave table (succeeded s params captured)) s.id = some outputs →
      screenText outputs = .error e → b.Says after last →
      Ended b o s table state [⟨s.action, params, .done captured⟩]
        ⟨succeeded s params captured, leave table (succeeded s params captured), .error e, last⟩
  /-- Its action is done. -/
  | carriedOut {params : Fields} {captured : Option Fields} {before after last : σ} :
      o.dryRun = false → fill table s.params s.outputRefs = (params, none) →
      b.Says state before → b.perform s.action params before = (.done captured, after) →
      b.Says after last →
      Ended b o s table state [⟨s.action, params, .done captured⟩]
        ⟨succeeded s params captured, leave table (succeeded s params captured), .ok (), last⟩

/-- Announcing a step says something, unless what it has left cannot be shown. -/
theorem announce_cases (table : Outputs) (s : Step) (state : σ) :
    ∃ result last, announce b o table s state = (result, last) ∧ b.Says state last ∧
      (result = .ok () ∨ ∃ outputs e, lookupField table s.id = some outputs ∧
        screenText outputs = .error e ∧ result = .error e) := by
  unfold announce
  split
  next f fs _ hlookup =>
    cases hscreen : screenText (f :: fs) with
    | ok text => exact ⟨_, _, rfl, .line _ (.line _ .nothing), Or.inl rfl⟩
    | error e => exact ⟨_, _, rfl, .line _ .nothing, Or.inr ⟨_, _, hlookup, hscreen, rfl⟩⟩
  next => exact ⟨_, _, rfl, .nothing, Or.inl rfl⟩

theorem carryOut_ended {s : Step} {table : Outputs} {params : Fields} {state before : σ}
    (hreal : o.dryRun = false) (hfill : fill table s.params s.outputRefs = (params, none))
    (hsaid : b.Says state before) :
    ∃ calls, Ended b o s table state calls
      (carryOut b o { s with params := params, status := .running } table before) := by
  unfold carryOut
  split
  next e after hperform =>
    exact ⟨_, .refused hreal hfill hsaid hperform rfl (.report _ _ .nothing)⟩
  next e after hperform =>
    exact ⟨_, .refused hreal hfill hsaid hperform rfl (.report _ _ .nothing)⟩
  next captured after hperform =>
    obtain ⟨result, last, hannounce, hspoken, hresult⟩ :=
      announce_cases (b := b) (o := o) (leave table (succeeded s params captured))
        (succeeded s params captured) after
    have hstage : succeed b o { s with params := params, status := .running } table captured after =
        ⟨succeeded s params captured, leave table (succeeded s params captured), result, last⟩ := by
      unfold succeed
      exact congrArg (fun r : Except Fault Unit × σ => (⟨succeeded s params captured,
        leave table (succeeded s params captured), r.1, r.2⟩ : Stage σ)) hannounce
    rw [hstage]
    rcases hresult with rfl | ⟨outputs, e, hlookup, hscreen, rfl⟩
    · exact ⟨_, .carriedOut hreal hfill hsaid hperform hspoken⟩
    · rw [succeeded_id] at hlookup
      exact ⟨_, .unannounced hreal hfill hsaid hperform hlookup hscreen hspoken⟩

/-- Starting a step ends in one of the ways that are listed. -/
theorem step_ended (b : Backend σ) (o : RunOptions) (s : Step) (table : Outputs) (state : σ) :
    ∃ calls, Ended b o s table state calls (step b o s table state) := by
  obtain ⟨before, hbefore, hsaid⟩ : ∃ before, before = (if o.verbose then
      printLines b [s!"Executing step: {s.id} (Action: {s.action})", s!"Reason: {s.reason}"] state
      else state) ∧ b.Says state before := by
    refine ⟨_, rfl, ?_⟩
    split
    · exact says_printLines _ _
    · exact .nothing
  unfold step
  simp only [← hbefore, takeReferences]
  cases hfill : fill table s.params s.outputRefs with
  | mk params missing =>
    cases missing with
    | some e => exact ⟨_, .unfilled hfill (.report _ _ hsaid)⟩
    | none =>
      cases hdry : o.dryRun with
      | false => exact carryOut_ended hdry hfill hsaid
      | true =>
        simp only [if_true, pretend]
        cases hscreen : screenText params with
        | error e => exact ⟨_, .unshown hdry hfill hsaid hscreen⟩
        | ok text => exact ⟨_, .shown hdry hfill (hsaid.trans (says_printLines _ _))⟩

end Execution

/-- What a run never changes about a step. -/
def Step.task (s : Step) : Step :=
  { s with params := [], outputs := none, status := .pending, error := none }

namespace Execution

theorem Ended.task_eq {s : Step} {table : Outputs} {state : σ} {calls : List Call}
    {stage : Stage σ} (h : Ended b o s table state calls stage) : stage.step.task = s.task := by
  have hsucceeded (params : Fields) (captured : Option Fields) :
      (succeeded s params captured).task = s.task := by
    rw [succeeded_eq]
    rfl
  cases h with
  | unfilled | unshown | refused => rfl
  | shown => exact hsucceeded _ none
  | unannounced | carriedOut => exact hsucceeded _ _

theorem Ended.id_eq {s : Step} {table : Outputs} {state : σ} {calls : List Call}
    {stage : Stage σ} (h : Ended b o s table state calls stage) : stage.step.id = s.id := by
  have hid := congrArg Step.id h.task_eq
  exact hid

theorem Ended.outputRefs_eq {s : Step} {table : Outputs} {state : σ} {calls : List Call}
    {stage : Stage σ} (h : Ended b o s table state calls stage) :
    stage.step.outputRefs = s.outputRefs := by
  have hrefs := congrArg Step.outputRefs h.task_eq
  exact hrefs

/-! ## Steps of JSON values -/

end Execution

/-- A step whose parameters and outputs are JSON values. -/
structure Step.IsJson (s : Step) : Prop where
  params : s.params.AreJson
  outputs : ∀ outputs, s.outputs = some outputs → outputs.AreJson

theorem Step.IsJson.of_empty {s : Step} (hparams : s.params = []) (houtputs : s.outputs = none) :
    s.IsJson where
  params := by
    rw [hparams]
    exact List.forall_mem_nil _
  outputs := by
    intro outputs h
    rw [houtputs] at h
    cases h

namespace Execution

/-- A call that has captured JSON values, if anything. -/
def Call.CapturedJson (c : Call) : Prop :=
  ∀ captured, c.attempt = .done (some captured) → captured.AreJson

theorem areJson_leave {table : Outputs} (htable : table.AreJson) {s : Step}
    (houtputs : ∀ outputs, s.outputs = some outputs → outputs.AreJson) :
    (leave table s).AreJson := by
  unfold leave
  split
  next outputs heq =>
    intro e he
    rcases mem_setField he with rfl | hold
    · exact houtputs outputs heq
    · exact htable e hold
  next => exact htable

theorem outputs_succeeded_areJson {s : Step} (hs : s.IsJson) {params : Fields}
    {captured : Option Fields} (hcaptured : ∀ fields, captured = some fields → fields.AreJson)
    (outputs : Fields) (h : (succeeded s params captured).outputs = some outputs) :
    outputs.AreJson := by
  rcases outputs_succeeded s params captured with heq | ⟨f, fs, rfl, heq⟩
  · exact hs.outputs outputs (heq ▸ h)
  · exact hcaptured outputs (heq ▸ h)

variable {s : Step} {table : Outputs} {state : σ} {calls : List Call} {stage : Stage σ}

/-- The outputs that a step of JSON values leaves are JSON values, as those are that it finds. -/
theorem Ended.areJson (h : Ended b o s table state calls stage) (hs : s.IsJson)
    (htable : table.AreJson) (hcalls : ∀ c ∈ calls, c.CapturedJson) : stage.outputs.AreJson := by
  cases h with
  | unfilled | unshown | refused => exact htable
  | shown =>
    exact areJson_leave htable (outputs_succeeded_areJson hs (by simp))
  | unannounced | carriedOut =>
    refine areJson_leave htable (outputs_succeeded_areJson hs ?_)
    intro fields heq
    exact hcalls _ (List.mem_singleton_self _) fields (by rw [heq])

/-- A step of JSON values ends in success, or in failure for a fault that is recorded on it. -/
theorem Ended.cases (h : Ended b o s table state calls stage) (hs : s.IsJson)
    (htable : table.AreJson) (hcalls : ∀ c ∈ calls, c.CapturedJson) :
    (∃ params captured, stage.step = succeeded s params captured ∧
      stage.outputs = leave table stage.step ∧ stage.result = .ok ()) ∨
    ∃ params e, stage.step = failed s params e ∧ stage.outputs = table ∧
      stage.result = .error e ∧ e.kind.isExecution = true := by
  have hleft := h.areJson hs htable hcalls
  cases h with
  | unfilled => exact Or.inr ⟨_, _, rfl, rfl, rfl, rfl⟩
  | unshown _ hfill _ hscreen =>
    have hparams : (fill table s.params s.outputRefs).1.AreJson := areJson_fill htable hs.params
    rw [hfill] at hparams
    obtain ⟨text, htext⟩ := hparams.exists_screenText
    rw [htext] at hscreen
    cases hscreen
  | shown => exact Or.inl ⟨_, none, rfl, rfl, rfl⟩
  | @refused _ attempt _ _ _ _ _ _ _ _ hfault _ =>
    refine Or.inr ⟨_, _, rfl, rfl, rfl, ?_⟩
    cases attempt <;> cases hfault <;> rfl
  | unannounced _ _ _ _ hlookup hscreen _ =>
    obtain ⟨text, htext⟩ := Fields.AreJson.exists_screenText (hleft _ (mem_of_lookupField hlookup))
    rw [htext] at hscreen
    cases hscreen
  | carriedOut => exact Or.inl ⟨_, _, rfl, rfl, rfl⟩

end Execution

end Remediation
