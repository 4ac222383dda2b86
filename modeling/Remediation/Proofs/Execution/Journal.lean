import Remediation.Proofs.Execution.Course
/-!
# The calls of a run

A backend can keep a journal of the calls that are made of its actions (`Backend.journalled`).  A run
does with it what it does without (`plain_run`), and its journal holds the calls of its course
(`exists_finished_calls`).
-/

set_option autoImplicit false

namespace Remediation

variable {σ : Type}

/-- Actions that keep a journal of their calls. -/
def Backend.journalled (b : Backend σ) : Backend (σ × List Execution.Call) where
  perform action params state :=
    let (attempt, next) := b.perform action params state.1
    (attempt, next, state.2 ++ [⟨action, params, attempt⟩])
  printLine line state := (b.printLine line state.1, state.2)
  report level text state := (b.report level text state.1, state.2)

theorem Backend.CapturesJson.journalled {b : Backend σ} (h : b.CapturesJson) :
    b.journalled.CapturesJson := by
  intro action params state captured next hperform
  obtain ⟨hattempt, -⟩ := Prod.mk.inj hperform
  exact h action params state.1 captured _ (Prod.ext hattempt rfl)

/-- What is printed and reported does not get into the journal. -/
theorem Backend.Says.journal_eq {b : Backend σ} {before last : σ × List Execution.Call}
    (h : b.journalled.Says before last) : last.2 = before.2 := by
  induction h with
  | nothing => rfl
  | line text _ ih => exact ih
  | report level text _ ih => exact ih

namespace Execution

/-- The calls that a run makes of actions, one after the other. -/
def calls (b : Backend σ) (o : RunOptions) (steps : List Step) (table : Outputs) (state : σ) :
    List Call :=
  (run b.journalled o steps table (state, [])).state.2

/-- What has become of a step, without the journal. -/
def Stage.plain (stage : Stage (σ × List Call)) : Stage σ :=
  ⟨stage.step, stage.outputs, stage.result, stage.state.1⟩

/-- What has become of steps, without the journal. -/
def Outcome.plain (r : Outcome (σ × List Call)) : Outcome σ :=
  ⟨r.steps, r.outputs, r.result, r.state.1⟩

variable {b : Backend σ} {o : RunOptions} {state : σ × List Call}

/-! ## Runs without the journal -/

theorem printLines_journalled (lines : List String) (state : σ × List Call) :
    (printLines b.journalled lines state).1 = printLines b lines state.1 := by
  unfold printLines
  induction lines generalizing state with
  | nil => rfl
  | cons line rest ih => exact ih (b.printLine line state.1, state.2)

theorem plain_pretend (s : Step) (table : Outputs) :
    (pretend b.journalled s table state).plain = pretend b s table state.1 := by
  unfold pretend
  cases screenText s.params with
  | error e => rfl
  | ok params => simp only [Stage.plain, printLines_journalled]

theorem announce_journalled (table : Outputs) (s : Step) (state : σ × List Call) :
    ((announce b.journalled o table s state).1, (announce b.journalled o table s state).2.1) =
      announce b o table s state.1 := by
  unfold announce
  split
  next f fs _ _ => cases screenText (f :: fs) <;> rfl
  next => rfl

theorem plain_succeed (s : Step) (table : Outputs) (captured : Option Fields) :
    (succeed b.journalled o s table captured state).plain =
      succeed b o s table captured state.1 := by
  have hannounce (table : Outputs) (s : Step) :=
    announce_journalled (b := b) (o := o) table s state
  simp only [succeed, Stage.plain, ← hannounce]

theorem plain_carryOut (s : Step) (table : Outputs) :
    (carryOut b.journalled o s table state).plain = carryOut b o s table state.1 := by
  unfold carryOut
  cases hcall : b.perform s.action s.params state.1 with
  | mk attempt next =>
    have hjournalled : b.journalled.perform s.action s.params state =
        (attempt, next, state.2 ++ [⟨s.action, s.params, attempt⟩]) := by
      simp only [Backend.journalled, hcall]
    rw [hjournalled]
    cases attempt with
    | unresolved e => rfl
    | failed e => rfl
    | done captured => exact plain_succeed s table captured

theorem plain_step (s : Step) (table : Outputs) (state : σ × List Call) :
    (step b.journalled o s table state).plain = step b o s table state.1 := by
  have hheadlines (lines : List String) :
      (if o.verbose then printLines b.journalled lines state else state).1 =
        if o.verbose then printLines b lines state.1 else state.1 := by
    split
    · exact printLines_journalled lines state
    · rfl
  unfold step
  simp only [← hheadlines]
  split
  next => rfl
  next =>
    split
    · exact plain_pretend _ table
    · exact plain_carryOut _ table

theorem conclude_journalled (p : Progress) (state : σ × List Call) :
    ((conclude b.journalled p state).1, (conclude b.journalled p state).2.1) =
      conclude b p state.1 := by
  unfold conclude
  simp only [← printLines_journalled]
  split <;> rfl

theorem plain_runSteps (p : Progress) (table : Outputs) (state : σ × List Call)
    (steps : List Step) :
    (runSteps b.journalled o p table state steps).plain =
      runSteps b o p table state.1 steps := by
  induction steps generalizing p table state with
  | nil => simp only [runSteps, Outcome.plain, ← conclude_journalled]
  | cons s rest ih =>
    simp only [runSteps]
    generalize hheadline : b.journalled.printLine _ state = headline
    have hplain : b.printLine _ state.1 = headline.1 := congrArg Prod.fst hheadline
    rw [hplain, ← plain_step]
    cases hresult : (step b.journalled o s table headline).result with
    | ok _ => simp [Outcome.plain, Stage.plain, hresult, ← ih]
    | error e =>
      by_cases hgoesOn : e.kind.isExecution = true ∧ o.continueOnError = true
      · simp [Outcome.plain, Stage.plain, hresult, hgoesOn, ← ih]
      · simp [Outcome.plain, Stage.plain, hresult, hgoesOn]

/-- Keeping a journal changes nothing about a run. -/
theorem plain_run (b : Backend σ) (o : RunOptions) (steps : List Step) (table : Outputs)
    (state : σ) :
    (run b.journalled o steps table (state, [])).plain = run b o steps table state :=
  plain_runSteps _ _ _ _

/-! ## The journal -/

/-- The calls that are made for a step are added to the journal. -/
theorem Ended.journal_eq {s : Step} {table : Outputs} {before : σ × List Call} {made : List Call}
    {stage : Stage (σ × List Call)} (h : Ended b.journalled o s table before made stage) :
    stage.state.2 = before.2 ++ made := by
  have hperform : ∀ {action : String} {params : Fields} {attempt : Attempt}
      {said after last : σ × List Call}, b.journalled.Says before said →
      b.journalled.perform action params said = (attempt, after) →
      b.journalled.Says after last → last.2 = before.2 ++ [⟨action, params, attempt⟩] := by
    intro action params attempt said after last hsaid hperform hlast
    obtain ⟨rfl, rfl⟩ := Prod.mk.inj hperform
    rw [hlast.journal_eq, ← hsaid.journal_eq]
  cases h with
  | unfilled _ hsaid => rw [List.append_nil, hsaid.journal_eq]
  | unshown _ _ hsaid _ => rw [List.append_nil, hsaid.journal_eq]
  | shown _ _ hsaid => rw [List.append_nil, hsaid.journal_eq]
  | refused _ _ hsaid hcall _ hlast => exact hperform hsaid hcall hlast
  | unannounced _ _ hsaid hcall _ _ hlast => exact hperform hsaid hcall hlast
  | carriedOut _ _ hsaid hcall hlast => exact hperform hsaid hcall hlast

variable {steps : List Step} {table : Outputs}

theorem Reached.journal_eq {start : σ} {c : Standing (σ × List Call)}
    (h : Reached b.journalled o steps table (start, []) c) : c.state.2 = c.calls := by
  induction h using Reached.step_induction with
  | start => rfl
  | next _ _ hended _ ih => exact hended.journal_eq.trans (by rw [ih]; rfl)

/-- When a run has ended, its journal holds the calls of its course. -/
theorem Finished.journal_eq {start : σ} {made : List Call} {r : Outcome (σ × List Call)}
    (h : Finished b.journalled o steps table (start, []) made r) : r.state.2 = made := by
  cases h with
  | through hreached _ hspoken => exact hspoken.journal_eq.trans hreached.journal_eq
  | stopped hreached _ hended _ _ => exact hended.journal_eq.trans (by rw [hreached.journal_eq])

/-- A run ends as its course does, and its calls are those of the course. -/
theorem exists_finished_calls (b : Backend σ) (o : RunOptions) (steps : List Step)
    (table : Outputs) (start : σ) :
    ∃ r, Finished b.journalled o steps table (start, []) (calls b o steps table start) r ∧
      r.plain = run b o steps table start := by
  obtain ⟨made, hfinished⟩ := run_finished b.journalled o steps table (start, [])
  have hjournal : calls b o steps table start = made := hfinished.journal_eq
  exact ⟨_, hjournal ▸ hfinished, plain_run b o steps table start⟩

end Execution

end Remediation
