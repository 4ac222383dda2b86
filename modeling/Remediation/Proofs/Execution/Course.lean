import Remediation.Proofs.Execution.Stage
/-!
# The course of a run

A run starts its steps one after the other, in their order (`Reached`), until none is waiting or one
has failed that stops it (`Finished`).  What has become of the steps is counted on the way (`Tally`).

A run that stops at a failure leaves steps that have succeeded before it and changes none behind it; a
run that goes on behind failures ends every step and counts both kinds (`halted_or_completed`).
-/

set_option autoImplicit false

namespace Remediation.Execution

variable {σ : Type}

/-- Where a run stands between two steps. -/
structure Standing (σ : Type) where
  /-- The steps that have been started, as they have become. -/
  started : List Step
  /-- The steps that have not been started. -/
  waiting : List Step
  progress : Progress
  /-- The calls of actions that have been made. -/
  calls : List Call
  outputs : Outputs
  state : σ

/-- Where a run stands when the next step has ended. -/
def Standing.next (c : Standing σ) (rest : List Step) (progress : Progress) (calls : List Call)
    (stage : Stage σ) : Standing σ :=
  ⟨c.started ++ [stage.step], rest, progress, c.calls ++ calls, stage.outputs, stage.state⟩

/-- How the counts of a run decide on it. -/
def Progress.verdict (p : Progress) : Except Fault Summary :=
  if p.failures.isEmpty then .ok p.summary
  else .error (.planFailed p.succeeded p.failures.length p.total)

section Course

variable (b : Backend σ) (o : RunOptions) (steps : List Step) (table : Outputs) (state : σ)

/-- Where a run of steps comes by that finds some outputs: it goes on behind a step that has
succeeded, and behind one that has failed if the options say so. -/
inductive Reached : Standing σ → Prop where
  | start : Reached ⟨[], steps, .start steps.length, [], table, state⟩
  | passed {c : Standing σ} {s : Step} {rest : List Step} {calls : List Call} {stage : Stage σ} :
      Reached c → c.waiting = s :: rest → Ended b o s c.outputs c.state calls stage →
      stage.result = .ok () → Reached (c.next rest c.progress.succeed calls stage)
  | survived {c : Standing σ} {s : Step} {rest : List Step} {calls : List Call} {stage : Stage σ}
      {e : Fault} : Reached c → c.waiting = s :: rest →
      Ended b o s c.outputs c.state calls stage → stage.result = .error e →
      e.kind.isExecution = true → o.continueOnError = true →
      Reached (c.next rest (c.progress.fail s.id) calls stage)

/-- How a run of steps ends, and the calls that it has made. -/
inductive Finished : List Call → Outcome σ → Prop where
  /-- No step is waiting. -/
  | through {c : Standing σ} {last : σ} : Reached b o steps table state c → c.waiting = [] →
      b.Says c.state last → Finished c.calls ⟨c.started, c.outputs, c.progress.verdict, last⟩
  /-- A step has failed, and the run does not go on behind it. -/
  | stopped {c : Standing σ} {s : Step} {rest : List Step} {calls : List Call} {stage : Stage σ}
      {e : Fault} : Reached b o steps table state c → c.waiting = s :: rest →
      Ended b o s c.outputs c.state calls stage → stage.result = .error e →
      ¬ (e.kind.isExecution = true ∧ o.continueOnError = true) →
      Finished (c.calls ++ calls)
        ⟨c.started ++ stage.step :: rest, stage.outputs, .error e, stage.state⟩

end Course

variable {b : Backend σ} {o : RunOptions} {steps : List Step} {table : Outputs} {state : σ}

/-- What is said before a step is started does not matter for how it ends. -/
theorem Ended.of_spoken {s : Step} {table : Outputs} {before between : σ} {calls : List Call}
    {stage : Stage σ} (h : Ended b o s table between calls stage) (hspoken : b.Says before between) :
    Ended b o s table before calls stage := by
  cases h with
  | unfilled hfill hsaid => exact .unfilled hfill (hspoken.trans hsaid)
  | unshown hdry hfill hsaid hscreen => exact .unshown hdry hfill (hspoken.trans hsaid) hscreen
  | shown hdry hfill hsaid => exact .shown hdry hfill (hspoken.trans hsaid)
  | refused hreal hfill hsaid hperform hfault hlast =>
    exact .refused hreal hfill (hspoken.trans hsaid) hperform hfault hlast
  | unannounced hreal hfill hsaid hperform hlookup hscreen hlast =>
    exact .unannounced hreal hfill (hspoken.trans hsaid) hperform hlookup hscreen hlast
  | carriedOut hreal hfill hsaid hperform hlast =>
    exact .carriedOut hreal hfill (hspoken.trans hsaid) hperform hlast

theorem conclude_eq_verdict (p : Progress) (state : σ) :
    ∃ last, conclude b p state = (p.verdict, last) ∧ b.Says state last := by
  unfold conclude Progress.verdict
  simp only
  split
  · exact ⟨_, rfl, says_printLines _ _⟩
  · exact ⟨_, rfl, .report _ _ (says_printLines _ _)⟩

/-- From wherever it comes by, a run ends, whatever it counts from there; its counts decide only on how
it is summed up. -/
theorem exists_finished {waiting : List Step} {c : Standing σ}
    (h : Reached b o steps table state c) (hwaiting : c.waiting = waiting) (p : Progress) :
    ∃ calls result, Finished b o steps table state calls
        { runSteps b o p c.outputs c.state waiting with
          steps := c.started ++ (runSteps b o p c.outputs c.state waiting).steps, result := result } ∧
      (p = c.progress → result = (runSteps b o p c.outputs c.state waiting).result) := by
  induction waiting generalizing c p with
  | nil =>
    obtain ⟨last, hconclude, hspoken⟩ := conclude_eq_verdict (b := b) p c.state
    refine ⟨c.calls, c.progress.verdict, ?_, ?_⟩
    · simp only [runSteps, hconclude, List.append_nil]
      exact .through h hwaiting hspoken
    · rintro rfl
      simp only [runSteps, hconclude]
  | cons s rest ih =>
    rw [runSteps]
    generalize hheadline : b.printLine _ c.state = headline
    have hspoken : b.Says c.state headline := hheadline ▸ .line _ .nothing
    obtain ⟨calls, hended⟩ := step_ended b o s c.outputs headline
    replace hended := hended.of_spoken hspoken
    generalize step b o s c.outputs headline = stage at hended ⊢
    simp only
    cases hresult : stage.result with
    | ok _ =>
      obtain ⟨made, result, hfinished, heq⟩ := ih (.passed h hwaiting hended hresult) rfl p.succeed
      refine ⟨made, result, by simpa [Standing.next] using hfinished, ?_⟩
      rintro rfl
      exact heq rfl
    | error e =>
      by_cases hgoesOn : e.kind.isExecution = true ∧ o.continueOnError = true
      · obtain ⟨made, result, hfinished, heq⟩ :=
          ih (.survived h hwaiting hended hresult hgoesOn.1 hgoesOn.2) rfl (p.fail s.id)
        simp only [if_pos hgoesOn]
        refine ⟨made, result, by simpa [Standing.next] using hfinished, ?_⟩
        rintro rfl
        exact heq rfl
      · simp only [if_neg hgoesOn]
        exact ⟨_, .error e, .stopped h hwaiting hended hresult hgoesOn, fun _ => rfl⟩

/-- Every run ends. -/
theorem run_finished (b : Backend σ) (o : RunOptions) (steps : List Step) (table : Outputs)
    (state : σ) : ∃ calls, Finished b o steps table state calls (run b o steps table state) := by
  have hstart : Reached b o steps table state ⟨[], steps, .start steps.length, [], table, state⟩ :=
    .start
  obtain ⟨calls, result, hfinished, heq⟩ := exists_finished hstart rfl (.start steps.length)
  rw [heq rfl] at hfinished
  exact ⟨calls, hfinished⟩

/-- What holds at the start, and goes on behind every step that is started, holds all along a run: for
what the counts have no part in, it does not matter whether the step has passed. -/
@[elab_as_elim]
theorem Reached.step_induction {motive : (c : Standing σ) → Reached b o steps table state c → Prop}
    (start : motive _ .start)
    (next : ∀ {c : Standing σ} {s : Step} {rest : List Step} {p : Progress} {calls : List Call}
      {stage : Stage σ} (hreached : Reached b o steps table state c), c.waiting = s :: rest →
      Ended b o s c.outputs c.state calls stage →
      (hnext : Reached b o steps table state (c.next rest p calls stage)) →
      motive c hreached → motive _ hnext)
    {c : Standing σ} (h : Reached b o steps table state c) : motive c h := by
  induction h with
  | start => exact start
  | passed hreached hwaiting hended hok ih =>
    exact next hreached hwaiting hended (.passed hreached hwaiting hended hok) ih
  | survived hreached hwaiting hended herror hexecution hgoesOn ih =>
    exact next hreached hwaiting hended
      (.survived hreached hwaiting hended herror hexecution hgoesOn) ih

/-! ## Steps in their order -/

variable {c : Standing σ}

/-- The steps that are waiting are the last ones of the run. -/
theorem Reached.waiting_eq (h : Reached b o steps table state c) :
    c.waiting = steps.drop c.started.length := by
  induction h using Reached.step_induction with
  | start => rfl
  | next _ hwaiting _ _ ih =>
    have hdrop := congrArg (List.drop 1) (hwaiting.symm.trans ih)
    simpa [Standing.next, List.drop_drop] using hdrop

/-- What no step of a run changes stays what it is, in the order of the steps. -/
theorem Reached.map_eq {α : Type} {f : Step → α} (h : Reached b o steps table state c)
    (hkept : ∀ {s : Step} {table : Outputs} {state : σ} {calls : List Call} {stage : Stage σ},
      Ended b o s table state calls stage → f stage.step = f s) :
    (c.started ++ c.waiting).map f = steps.map f := by
  induction h using Reached.step_induction with
  | start => rfl
  | next _ hwaiting hended _ ih =>
    rw [← ih, hwaiting]
    simp [Standing.next, hkept hended]

theorem Reached.tasks_eq (h : Reached b o steps table state c) :
    (c.started ++ c.waiting).map Step.task = steps.map Step.task :=
  h.map_eq Ended.task_eq

theorem Finished.map_eq {α : Type} {f : Step → α} {calls : List Call} {r : Outcome σ}
    (h : Finished b o steps table state calls r)
    (hkept : ∀ {s : Step} {table : Outputs} {state : σ} {calls : List Call} {stage : Stage σ},
      Ended b o s table state calls stage → f stage.step = f s) :
    r.steps.map f = steps.map f := by
  cases h with
  | through hreached hwaiting _ => simpa [hwaiting] using hreached.map_eq hkept
  | stopped hreached hwaiting hended _ _ =>
    rw [← hreached.map_eq hkept, hwaiting]
    simp [hkept hended]

theorem Reached.length_eq (h : Reached b o steps table state c) :
    c.started.length + c.waiting.length = steps.length := by
  simpa using congrArg List.length h.tasks_eq

/-- The next step stands in the run where it has come to. -/
theorem Reached.split (h : Reached b o steps table state c) {s : Step} {rest : List Step}
    (hwaiting : c.waiting = s :: rest) :
    ∃ before, steps = before ++ s :: rest ∧ before.map Step.task = c.started.map Step.task := by
  have hdrop : steps.drop c.started.length = s :: rest := h.waiting_eq ▸ hwaiting
  have hsteps : steps = steps.take c.started.length ++ s :: rest := by
    rw [← hdrop, List.take_append_drop]
  have htasks := h.tasks_eq
  rw [hwaiting, hsteps, List.map_append, List.map_append] at htasks
  exact ⟨_, hsteps, (List.append_cancel_right htasks).symm⟩

theorem Reached.mem_of_waiting (h : Reached b o steps table state c) {s : Step}
    (hs : s ∈ c.waiting) : s ∈ steps :=
  List.mem_of_mem_drop (h.waiting_eq ▸ hs)

/-! ## Steps of JSON values -/

theorem Ended.capturedJson (hb : b.CapturesJson) {s : Step} {table : Outputs} {state : σ}
    {calls : List Call} {stage : Stage σ} (h : Ended b o s table state calls stage) :
    ∀ call ∈ calls, call.CapturedJson := by
  have hcall : ∀ {action : String} {params : Fields} {attempt : Attempt} {before after : σ},
      b.perform action params before = (attempt, after) →
      ∀ call ∈ [(⟨action, params, attempt⟩ : Call)], call.CapturedJson := by
    intro action params attempt before after hperform call hmem captured hdone
    obtain rfl := List.mem_singleton.1 hmem
    obtain rfl : attempt = .done (some captured) := hdone
    exact hb _ _ _ _ _ hperform
  cases h with
  | unfilled | unshown | shown => simp
  | refused _ _ _ hperform => exact hcall hperform
  | unannounced _ _ _ hperform => exact hcall hperform
  | carriedOut _ _ _ hperform => exact hcall hperform

theorem Reached.capturedJson (hb : b.CapturesJson) (h : Reached b o steps table state c) :
    ∀ call ∈ c.calls, call.CapturedJson := by
  induction h using Reached.step_induction with
  | start => simp
  | next _ _ hended _ ih => exact List.forall_mem_append.2 ⟨ih, hended.capturedJson hb⟩

theorem Finished.capturedJson (hb : b.CapturesJson) {made : List Call} {r : Outcome σ}
    (h : Finished b o steps table state made r) : ∀ call ∈ made, call.CapturedJson := by
  cases h with
  | through hreached _ _ => exact hreached.capturedJson hb
  | stopped hreached _ hended _ _ =>
    exact List.forall_mem_append.2 ⟨hreached.capturedJson hb, hended.capturedJson hb⟩

/-- The outputs that a run finds on its way are JSON values if all that comes in are. -/
theorem Reached.areJson (h : Reached b o steps table state c) (hsteps : ∀ s ∈ steps, s.IsJson)
    (htable : table.AreJson) (hcalls : ∀ call ∈ c.calls, call.CapturedJson) :
    c.outputs.AreJson := by
  induction h using Reached.step_induction with
  | start => exact htable
  | next hreached hwaiting hended _ ih =>
    obtain ⟨hold, hnew⟩ := List.forall_mem_append.1 hcalls
    have hs := hreached.mem_of_waiting (hwaiting ▸ List.mem_cons_self)
    exact hended.areJson (hsteps _ hs) (ih hold) hnew

section Next

variable {s : Step} {rest : List Step} {calls : List Call} {stage : Stage σ}

/-- The next step has succeeded, or it has failed for the fault that its stage gives. -/
theorem Reached.next_cases (h : Reached b o steps table state c) (hsteps : ∀ s ∈ steps, s.IsJson)
    (htable : table.AreJson) (hwaiting : c.waiting = s :: rest)
    (hended : Ended b o s c.outputs c.state calls stage)
    (hcalls : ∀ call ∈ c.calls ++ calls, call.CapturedJson) :
    (∃ params captured, stage.step = succeeded s params captured ∧ stage.result = .ok ()) ∨
    ∃ params e, stage.step = failed s params e ∧ stage.result = .error e ∧
      e.kind.isExecution = true := by
  obtain ⟨hold, hnew⟩ := List.forall_mem_append.1 hcalls
  have hs : s.IsJson := hsteps s (h.mem_of_waiting (hwaiting ▸ List.mem_cons_self))
  have houtputs : c.outputs.AreJson := h.areJson hsteps htable hold
  rcases hended.cases hs houtputs hnew with
    ⟨params, captured, hstep, -, hok⟩ | ⟨params, e, hstep, -, herror, hexecution⟩
  · exact Or.inl ⟨params, captured, hstep, hok⟩
  · exact Or.inr ⟨params, e, hstep, herror, hexecution⟩

theorem Reached.next_of_ok (h : Reached b o steps table state c) (hsteps : ∀ s ∈ steps, s.IsJson)
    (htable : table.AreJson) (hwaiting : c.waiting = s :: rest)
    (hended : Ended b o s c.outputs c.state calls stage)
    (hcalls : ∀ call ∈ c.calls ++ calls, call.CapturedJson) (hok : stage.result = .ok ()) :
    ∃ params captured, stage.step = succeeded s params captured := by
  rcases h.next_cases hsteps htable hwaiting hended hcalls with
    ⟨params, captured, hstep, -⟩ | ⟨_, _, -, herror, -⟩
  · exact ⟨params, captured, hstep⟩
  · rw [hok] at herror
    cases herror

theorem Reached.next_of_error (h : Reached b o steps table state c)
    (hsteps : ∀ s ∈ steps, s.IsJson) (htable : table.AreJson) (hwaiting : c.waiting = s :: rest)
    (hended : Ended b o s c.outputs c.state calls stage)
    (hcalls : ∀ call ∈ c.calls ++ calls, call.CapturedJson) {e : Fault}
    (herror : stage.result = .error e) :
    ∃ params, stage.step = failed s params e ∧ e.kind.isExecution = true := by
  rcases h.next_cases hsteps htable hwaiting hended hcalls with
    ⟨_, _, -, hok⟩ | ⟨params, e', hstep, herror', hexecution⟩
  · rw [hok] at herror
    cases herror
  · obtain rfl := Except.error.inj (herror'.symm.trans herror)
    exact ⟨params, hstep, hexecution⟩

end Next

/-! ## Dry runs -/

/-- A step that is only shown makes no call and leaves the outputs that were known beforehand. -/
theorem Ended.of_dry (hdry : o.dryRun = true) {s : Step} {table : Outputs} {state : σ}
    {calls : List Call} {stage : Stage σ} (h : Ended b o s table state calls stage) :
    calls = [] ∧ stage.step.outputs = s.outputs := by
  have hfalse : o.dryRun ≠ false := by simp [hdry]
  cases h with
  | unfilled | unshown | shown => exact ⟨rfl, rfl⟩
  | refused hreal => exact absurd hreal hfalse
  | unannounced hreal => exact absurd hreal hfalse
  | carriedOut hreal => exact absurd hreal hfalse

theorem Reached.calls_eq_nil (hdry : o.dryRun = true) (h : Reached b o steps table state c) :
    c.calls = [] := by
  induction h using Reached.step_induction with
  | start => rfl
  | next _ _ hended _ ih => simp [Standing.next, ih, (hended.of_dry hdry).1]

/-- A dry run calls no action. -/
theorem Finished.calls_eq_nil (hdry : o.dryRun = true) {calls : List Call} {r : Outcome σ}
    (h : Finished b o steps table state calls r) : calls = [] := by
  cases h with
  | through hreached _ _ => exact hreached.calls_eq_nil hdry
  | stopped hreached _ hended _ _ =>
    rw [hreached.calls_eq_nil hdry, (hended.of_dry hdry).1, List.append_nil]

/-! ## Counting the steps -/

/-- What has become of the steps that a run has started agrees with its counts. -/
structure Tally (steps : List Step) (c : Standing σ) : Prop where
  ended : ∀ s ∈ c.started, s.status = .success ∨ s.status = .failure
  succeeded : c.progress.succeeded = c.started.countP (·.status = .success)
  failed : c.progress.failures.length = c.started.countP (·.status = .failure)
  total : c.progress.total = steps.length

theorem Tally.next (h : Tally steps c) {t : Step} {p : Progress} (rest : List Step)
    (calls : List Call) {stage : Stage σ} (ht : stage.step = t) (htotal : p.total = c.progress.total)
    (hcount : t.status = .success ∧ p.succeeded = c.progress.succeeded + 1 ∧
        p.failures = c.progress.failures ∨
      t.status = .failure ∧ p.succeeded = c.progress.succeeded ∧
        ∃ id, p.failures = c.progress.failures ++ [id]) :
    Tally steps (c.next rest p calls stage) where
  ended := by
    intro s hs
    rcases List.mem_append.1 hs with hold | hnew
    · exact h.ended s hold
    · rw [List.mem_singleton.1 hnew, ht]
      exact hcount.imp And.left And.left
  succeeded := by
    rcases hcount with ⟨hstatus, hsucceeded, -⟩ | ⟨hstatus, hsucceeded, -⟩
    all_goals simp [Standing.next, hsucceeded, h.succeeded, ht, hstatus]
  failed := by
    rcases hcount with ⟨hstatus, -, hfailures⟩ | ⟨hstatus, -, id, hfailures⟩
    all_goals simp [Standing.next, hfailures, h.failed, ht, hstatus]
  total := htotal.trans h.total

theorem Reached.tally (h : Reached b o steps table state c) (hsteps : ∀ s ∈ steps, s.IsJson)
    (htable : table.AreJson) (hcalls : ∀ call ∈ c.calls, call.CapturedJson) : Tally steps c := by
  induction h with
  | start => exact ⟨by simp, by simp [Progress.start], by simp [Progress.start], rfl⟩
  | passed hreached hwaiting hended hok ih =>
    obtain ⟨_, _, hstep⟩ := hreached.next_of_ok hsteps htable hwaiting hended hcalls hok
    have hold := (List.forall_mem_append.1 hcalls).1
    exact (ih hold).next _ _ hstep rfl (Or.inl ⟨by simp, rfl, rfl⟩)
  | survived hreached hwaiting hended herror _ _ ih =>
    obtain ⟨_, hstep, -⟩ := hreached.next_of_error hsteps htable hwaiting hended hcalls herror
    have hold := (List.forall_mem_append.1 hcalls).1
    exact (ih hold).next _ _ hstep rfl (Or.inr ⟨rfl, rfl, _, rfl⟩)

/-- A run that does not go on behind a failure has no failures on its way. -/
theorem Reached.failures_eq_nil (h : Reached b o steps table state c)
    (hstop : o.continueOnError = false) : c.progress.failures = [] := by
  induction h with
  | start => rfl
  | passed _ _ _ _ ih => exact ih
  | survived _ _ _ _ _ hgoesOn =>
    rw [hstop] at hgoesOn
    cases hgoesOn

theorem Tally.success_of_failures_eq_nil (h : Tally steps c) (hnone : c.progress.failures = []) :
    ∀ s ∈ c.started, s.status = .success := by
  intro s hs
  have hcount : c.started.countP (·.status = .failure) = 0 := by
    rw [← h.failed, hnone, List.length_nil]
  refine (h.ended s hs).resolve_right fun hfailure => ?_
  exact List.countP_eq_zero.1 hcount s hs (by simp [hfailure])

theorem Tally.length_eq (h : Tally steps c) :
    c.progress.succeeded + c.progress.failures.length = c.started.length := by
  have hrest : c.started.countP (fun s => ¬ decide (s.status = .success) = true) =
      c.started.countP (·.status = .failure) := by
    refine List.countP_congr fun s hs => ?_
    rcases h.ended s hs with hstatus | hstatus <;> simp [hstatus]
  have hall := List.length_eq_countP_add_countP (fun s : Step => decide (s.status = .success))
    (l := c.started)
  rw [hrest, ← h.succeeded, ← h.failed] at hall
  exact hall.symm

/-! ## What a run leaves behind -/

/-- What a run leaves that does not go on behind a failure and has come to step `k`. -/
structure Halted (steps : List Step) (k : Nat) (r : Outcome σ) : Prop where
  succeeded : ∀ s ∈ r.steps.take k, s.status = .success
  /-- There is no step `k`, or it has failed and those behind it are as they were. -/
  ended : k = steps.length ∧ r.steps.length = k ∧ r.result = .ok ⟨k, 0, k⟩ ∨
    ∃ s e, r.steps[k]? = some s ∧ s.status = .failure ∧ s.error = some e.message ∧
      r.result = .error e ∧ e.kind.isExecution = true ∧
      r.steps.drop (k + 1) = steps.drop (k + 1)
  settled : ∀ s ∈ r.steps.take (k + 1), s.status ≠ .running

/-- What a run leaves that goes on behind failures. -/
structure Completed (steps : List Step) (succeeded failed : Nat) (r : Outcome σ) : Prop where
  length : r.steps.length = steps.length
  ended : ∀ s ∈ r.steps, s.status = .success ∨ s.status = .failure
  succeeded_eq : succeeded = r.steps.countP (·.status = .success)
  failed_eq : failed = r.steps.countP (·.status = .failure)
  total : succeeded + failed = steps.length
  result : r.result = if 0 < failed then .error (.planFailed succeeded failed steps.length)
    else .ok ⟨succeeded, failed, steps.length⟩

section Leaving

variable {outputs : Outputs} {last : σ}

theorem Tally.verdict_eq (h : Tally steps c) (hall : c.started.length = steps.length)
    (hnone : c.progress.failures = []) :
    c.progress.verdict = .ok ⟨steps.length, 0, steps.length⟩ := by
  have hsum := h.length_eq
  rw [hnone, List.length_nil, Nat.add_zero, hall] at hsum
  simp [Progress.verdict, Progress.summary, hnone, hsum, h.total]

/-- A run without failures that has started all its steps has come to its end. -/
theorem Tally.halted (h : Tally steps c) (hall : c.started.length = steps.length)
    (hnone : c.progress.failures = []) :
    Halted steps steps.length (⟨c.started, outputs, c.progress.verdict, last⟩ : Outcome σ) where
  succeeded := fun s hs => h.success_of_failures_eq_nil hnone s (List.mem_of_mem_take hs)
  ended := Or.inl ⟨rfl, hall, h.verdict_eq hall hnone⟩
  settled := by
    intro s hs
    simp [h.success_of_failures_eq_nil hnone s (List.mem_of_mem_take hs)]

theorem Tally.completed (h : Tally steps c) (hall : c.started.length = steps.length) :
    Completed steps c.progress.succeeded c.progress.failures.length
      (⟨c.started, outputs, c.progress.verdict, last⟩ : Outcome σ) where
  length := hall
  ended := h.ended
  succeeded_eq := h.succeeded
  failed_eq := h.failed
  total := h.length_eq.trans hall
  result := by
    unfold Progress.verdict
    cases hfailures : c.progress.failures with
    | nil => simp [Progress.summary, hfailures, h.total]
    | cons id ids => simp [h.total]

/-- A run stops at a step that has failed and leaves those behind it as they were. -/
theorem Reached.halted (h : Reached b o steps table state c) {s t : Step} {rest : List Step}
    {e : Fault} {params : Fields} (hwaiting : c.waiting = s :: rest) (ht : t = failed s params e)
    (hexecution : e.kind.isExecution = true) (hstarted : ∀ s ∈ c.started, s.status = .success) :
    Halted steps c.started.length
      (⟨c.started ++ t :: rest, outputs, .error e, last⟩ : Outcome σ) where
  succeeded := by simpa using hstarted
  ended := by
    have hbehind : rest = steps.drop (c.started.length + 1) := by
      rw [← List.drop_drop, ← h.waiting_eq, hwaiting, List.drop_one, List.tail_cons]
    exact Or.inr ⟨t, e, by simp [ht, hexecution, ← hbehind]⟩
  settled := by
    intro u hu
    have hcases : u ∈ c.started ∨ u = t := by
      simpa [List.take_append, List.take_of_length_le] using hu
    rcases hcases with hold | rfl
    · simp [hstarted u hold]
    · simp [ht]

end Leaving

/-- A run of JSON values halts at the first step that fails, or else completes its steps, as the
options say; no step that it has started is left running. -/
theorem halted_or_completed (hb : b.CapturesJson) (hsteps : ∀ s ∈ steps, s.IsJson)
    (htable : table.AreJson) (o : RunOptions) (state : σ) :
    (o.continueOnError = false → ∃ k, Halted steps k (run b o steps table state)) ∧
    (o.continueOnError = true →
      ∃ succeeded failed, Completed steps succeeded failed (run b o steps table state)) := by
  obtain ⟨calls, hfinished⟩ := run_finished b o steps table state
  generalize run b o steps table state = r at hfinished
  cases hfinished with
  | through hreached hwaiting _ =>
    have htally := hreached.tally hsteps htable (hreached.capturedJson hb)
    have hall := hreached.length_eq
    rw [hwaiting, List.length_nil, Nat.add_zero] at hall
    constructor
    · intro hstop
      exact ⟨_, htally.halted hall (hreached.failures_eq_nil hstop)⟩
    · intro _
      exact ⟨_, _, htally.completed hall⟩
  | stopped hreached hwaiting hended herror hno =>
    have hcaptured := hreached.capturedJson hb
    have hcalls := List.forall_mem_append.2 ⟨hcaptured, hended.capturedJson hb⟩
    obtain ⟨params, hstep, hexecution⟩ :=
      hreached.next_of_error hsteps htable hwaiting hended hcalls herror
    constructor
    · intro hstop
      have htally := hreached.tally hsteps htable hcaptured
      have hnone := hreached.failures_eq_nil hstop
      exact ⟨_, hreached.halted hwaiting hstep hexecution (htally.success_of_failures_eq_nil hnone)⟩
    · intro hgoesOn
      exact absurd ⟨hexecution, hgoesOn⟩ hno

/-- Actions that do nothing. -/
def idle : Backend Unit where
  perform _ _ state := (.done none, state)
  printLine _ state := state
  report _ _ state := state

theorem capturesJson_idle : idle.CapturesJson := by
  intro action params state captured next h
  cases h

/-- Two steps: the first one refers to an output that nothing leaves, the second one is said to be
running beforehand. -/
def resumed : List Step :=
  [⟨"fetch", "copy", [], "", [], none, [("from", "release.page")], .pending, none⟩,
   ⟨"publish", "upload", [], "", [], none, [], .running, none⟩]

theorem isJson_of_mem_resumed : ∀ s ∈ resumed, s.IsJson := by
  intro s hs
  simp only [resumed, List.mem_cons, List.not_mem_nil, or_false] at hs
  rcases hs with rfl | rfl
  all_goals exact .of_empty rfl rfl

theorem halted_or_completed_resumed :
    idle.CapturesJson ∧ (∀ s ∈ resumed, s.IsJson) ∧ Outputs.AreJson [] ∧
    RunOptions.default.continueOnError = false ∧
    ∃ k, Halted resumed k (run idle .default resumed [] ()) := by
  have htable : Outputs.AreJson [] := List.forall_mem_nil _
  have hleft := halted_or_completed capturesJson_idle isJson_of_mem_resumed htable .default ()
  exact ⟨capturesJson_idle, isJson_of_mem_resumed, htable, rfl, hleft.1 rfl⟩

/-- A step that is said to be running beforehand stays so if the run stops before it. -/
theorem exists_running_resumed :
    idle.CapturesJson ∧ (∀ s ∈ resumed, s.IsJson) ∧
    ∃ s ∈ (run idle .default resumed [] ()).steps, s.status = .running :=
  ⟨capturesJson_idle, isJson_of_mem_resumed, by decide +kernel⟩

end Remediation.Execution
