import Remediation.Proofs.Execution.Record
/-!
# Rehearsals

A dry run is a rehearsal of a run.  Where no action captures anything, what becomes of a step depends
on the step and on the outputs that it finds alone (`Ended.eq_uncaptured`), so that a dry run and a
real one go through the same steps (`rehearsal_agrees`); but a dry run calls no action.
-/

set_option autoImplicit false

namespace Remediation

variable {σ τ : Type}

/-- Actions that are all there and succeed, and capture nothing. -/
def Backend.CapturesNothing (b : Backend σ) : Prop :=
  ∀ action params state, (b.perform action params state).1 = .done none ∨
    (b.perform action params state).1 = .done (some [])

namespace Execution

/-- Two runs leave the same steps and outputs and end in the same way. -/
structure Outcome.Agrees (r : Outcome σ) (r' : Outcome τ) : Prop where
  steps : r.steps = r'.steps
  outputs : r.outputs = r'.outputs
  result : r.result = r'.result

/-! ## One step -/

/-- What becomes of a step of JSON values from which nothing is captured, the outputs behind it, and
how it ends. -/
def uncaptured (table : Outputs) (s : Step) : Step × Outputs × Except Fault Unit :=
  match fill table s.params s.outputRefs with
  | (params, none) => (succeeded s params none, leave table (succeeded s params none), .ok ())
  | (params, some e) => (failed s params (.reference e s.id), table, .error (.reference e s.id))

section Step

variable {b : Backend σ} {o : RunOptions} {s : Step} {table : Outputs} {state : σ}
  {calls : List Call} {stage : Stage σ}

/-- An action that captures nothing leaves its step the outputs that it had. -/
theorem succeeded_of_capturesNothing (hnothing : b.CapturesNothing) {params : Fields}
    {captured : Option Fields} {before after : σ}
    (hcall : b.perform s.action params before = (.done captured, after)) :
    succeeded s params captured = succeeded s params none := by
  have hattempt := hnothing s.action params before
  rw [hcall] at hattempt
  rcases hattempt with hnone | hempty
  · rw [Attempt.done.inj hnone]
  · rw [Attempt.done.inj hempty]
    rfl

/-- Nothing is recorded on a step whose action captures nothing. -/
theorem faultOf?_of_capturesNothing (hnothing : b.CapturesNothing) {params : Fields}
    {attempt : Attempt} {before after : σ}
    (hcall : b.perform s.action params before = (attempt, after)) : faultOf? s attempt = none := by
  have hattempt := hnothing s.action params before
  rw [hcall] at hattempt
  rcases hattempt with rfl | rfl
  all_goals rfl

theorem Ended.eq_uncaptured (h : Ended b o s table state calls stage) (hs : s.IsJson)
    (htable : table.AreJson) (hnothing : o.dryRun = true ∨ b.CapturesNothing) :
    (stage.step, stage.outputs, stage.result) = uncaptured table s := by
  have hreal (hfalse : o.dryRun = false) : b.CapturesNothing := by
    simpa [hfalse] using hnothing
  have hleft (params : Fields) : (leave table (succeeded s params none)).AreJson :=
    areJson_leave htable (outputs_succeeded_areJson hs (by simp))
  cases h with
  | unfilled hfill => simp only [uncaptured, hfill]
  | unshown _ hfill _ hscreen =>
    have hparams : (fill table s.params s.outputRefs).1.AreJson := areJson_fill htable hs.params
    rw [hfill] at hparams
    obtain ⟨text, htext⟩ := hparams.exists_screenText
    rw [htext] at hscreen
    cases hscreen
  | shown _ hfill => simp only [uncaptured, hfill]
  | refused hdry _ _ hcall hfault =>
    rw [faultOf?_of_capturesNothing (hreal hdry) hcall] at hfault
    cases hfault
  | unannounced hdry _ _ hcall hlookup hscreen =>
    rw [succeeded_of_capturesNothing (hreal hdry) hcall] at hlookup
    obtain ⟨text, htext⟩ :=
      Fields.AreJson.exists_screenText (hleft _ _ (mem_of_lookupField hlookup))
    rw [htext] at hscreen
    cases hscreen
  | carriedOut hdry hfill _ hcall =>
    simp only [uncaptured, hfill, succeeded_of_capturesNothing (hreal hdry) hcall]

/-- A step of JSON values leaves JSON values if it captures nothing. -/
theorem areJson_uncaptured (hs : s.IsJson) (htable : table.AreJson) :
    (uncaptured table s).2.1.AreJson := by
  unfold uncaptured
  split
  next => exact areJson_leave htable (outputs_succeeded_areJson hs (by simp))
  next => exact htable

theorem step_uncaptured (b : Backend σ) (state : σ) (hs : s.IsJson) (htable : table.AreJson)
    (hnothing : o.dryRun = true ∨ b.CapturesNothing) :
    ((step b o s table state).step, (step b o s table state).outputs,
      (step b o s table state).result) = uncaptured table s := by
  obtain ⟨made, hended⟩ := step_ended b o s table state
  exact hended.eq_uncaptured hs htable hnothing

end Step

/-! ## A whole run -/

/-- How a run ends depends on how its steps have ended alone. -/
theorem conclude_result (b : Backend σ) (b' : Backend τ) (p : Progress) (state : σ) (state' : τ) :
    (conclude b p state).1 = (conclude b' p state').1 := by
  unfold conclude
  split <;> rfl

/-- Runs of which none captures anything go through the same steps from wherever they have come. -/
theorem agrees_runSteps {b : Backend σ} {b' : Backend τ} {o o' : RunOptions} {steps : List Step}
    (hpolicy : o.continueOnError = o'.continueOnError)
    (hnothing : o.dryRun = true ∨ b.CapturesNothing)
    (hnothing' : o'.dryRun = true ∨ b'.CapturesNothing) (hsteps : ∀ s ∈ steps, s.IsJson)
    {table : Outputs} (htable : table.AreJson) (p : Progress) (state : σ) (state' : τ) :
    (runSteps b o p table state steps).Agrees (runSteps b' o' p table state' steps) := by
  induction steps generalizing p table state state' with
  | nil => exact ⟨rfl, rfl, conclude_result b b' p state state'⟩
  | cons s rest ih =>
    obtain ⟨hs, hrest⟩ := List.forall_mem_cons.1 hsteps
    simp only [runSteps]
    generalize b.printLine _ state = before
    generalize b'.printLine _ state' = before'
    have hstage := step_uncaptured (o := o) b before hs htable hnothing
    have hstage' := step_uncaptured (o := o') b' before' hs htable hnothing'
    have hleft := areJson_uncaptured hs htable
    generalize step b o s table before = stage at hstage
    generalize step b' o' s table before' = stage' at hstage'
    rw [← hstage'] at hstage hleft
    obtain ⟨step, outputs, result, last⟩ := stage
    obtain ⟨step', outputs', result', last'⟩ := stage'
    obtain ⟨rfl, rfl, rfl⟩ : step = step' ∧ outputs = outputs' ∧ result = result' := by
      simpa using hstage
    have hbehind (p : Progress) := ih hrest hleft p last last'
    cases result with
    | ok _ =>
      exact ⟨congrArg (step :: ·) (hbehind _).steps, (hbehind _).outputs, (hbehind _).result⟩
    | error e =>
      simp only [← hpolicy]
      split
      · exact ⟨congrArg (step :: ·) (hbehind _).steps, (hbehind _).outputs, (hbehind _).result⟩
      · exact ⟨rfl, rfl, rfl⟩

/-- A dry run of steps of JSON values leaves the same steps and outputs, and ends in the same way, as a
real run whose actions succeed and capture nothing, and it calls no action. -/
theorem rehearsal_agrees {steps : List Step} {o o' : RunOptions} {b' : Backend τ}
    (hsteps : ∀ s ∈ steps, s.IsJson) (hdry : o.dryRun = true) (hnothing : b'.CapturesNothing)
    (hpolicy : o.continueOnError = o'.continueOnError) (b : Backend σ) (state : σ) (state' : τ) :
    (run b o steps [] state).Agrees (run b' o' steps [] state') ∧ calls b o steps [] state = [] := by
  constructor
  · exact agrees_runSteps hpolicy (Or.inl hdry) (Or.inr hnothing) hsteps (List.forall_mem_nil _) _
      state state'
  · obtain ⟨r, hfinished, -⟩ := exists_finished_calls b o steps [] state
    exact hfinished.calls_eq_nil hdry

/-- Actions that succeed and print nothing; one of them says that it has captured no fields. -/
def quiet : Backend Nat where
  perform action _ state := (.done (if action = "upload" then some [] else none), state + 1)
  printLine _ state := state
  report _ _ state := state

theorem capturesNothing_quiet : quiet.CapturesNothing := by
  intro action params state
  unfold quiet
  dsimp only
  split
  · exact Or.inr rfl
  · exact Or.inl rfl

/-- A page that is known beforehand is published, and then a sheet that nobody has drafted. -/
def pageSteps : List Step :=
  [{ draftStep with outputs := some [("page", .text "index")] }, publishStep,
    { publishStep with id := "print", outputRefs := [("from", "draft.sheet")] }]

theorem isJson_of_mem_pageSteps : ∀ s ∈ pageSteps, s.IsJson := by
  intro s hs
  simp only [pageSteps, List.mem_cons, List.not_mem_nil, or_false] at hs
  rcases hs with rfl | rfl | rfl
  · refine ⟨List.forall_mem_nil _, fun outputs heq e he => ?_⟩
    obtain rfl := Option.some.inj heq
    obtain rfl := List.mem_singleton.1 he
    exact .text _
  all_goals exact .of_empty rfl rfl

/-- A run that goes on behind failures. -/
def persistent : RunOptions := { RunOptions.default with continueOnError := true }

/-- A dry run that goes on behind failures. -/
def rehearsing : RunOptions := { persistent with dryRun := true }

/-- The dry run publishes the page and misses the sheet, as the real one does by two calls. -/
theorem rehearsal_agrees_pageSteps :
    (run idle rehearsing pageSteps [] ()).Agrees (run quiet persistent pageSteps [] 0) ∧
    calls idle rehearsing pageSteps [] () = [] ∧
    (run quiet persistent pageSteps [] 0).result = .error (.planFailed 2 1 3) ∧
    (run quiet persistent pageSteps [] 0).state = 2 := by
  have hpolicy : rehearsing.continueOnError = persistent.continueOnError := rfl
  obtain ⟨hagrees, hcalls⟩ :=
    rehearsal_agrees isJson_of_mem_pageSteps rfl capturesNothing_quiet hpolicy idle () 0
  exact ⟨hagrees, hcalls, rfl, rfl⟩

end Execution

end Remediation
