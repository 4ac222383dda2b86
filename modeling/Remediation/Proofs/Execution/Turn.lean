import Remediation.Proofs.Execution.Journal
import Remediation.Proofs.Schedule.Sources
/-!
# Steps taken in turn

A run takes its steps in turn.  A turn is a step as the run has found it and as it has left it, with
the calls of actions that were made for it (`Turn`).  Where parameters and outputs are JSON values,
there are four kinds of turns (`Turn.Taken`), and what a run does to its steps and to the outputs that
it keeps is the list of its turns (`Finished.exists_turns`).
-/

set_option autoImplicit false

namespace Remediation.Execution

open Schedule (ids)

variable {σ : Type} {b : Backend σ} {o : RunOptions} {steps : List Step} {table last : Outputs}
  {state : σ}

/-! ## Turns -/

/-- What a run does with one of its steps. -/
structure Turn where
  /-- The step as the run finds it. -/
  found : Step
  /-- The step as the run leaves it. -/
  left : Step
  /-- The calls of actions that are made for it. -/
  calls : List Call

namespace Turn

/-- The outputs that the action of the step captured, if it captured any. -/
def captured (turn : Turn) : Option Fields :=
  match turn.calls with
  | [⟨_, _, .done (some (f :: fs))⟩] => some (f :: fs)
  | _ => none

/-- The outputs that are kept behind a turn. -/
def keep (turn : Turn) (table : Outputs) : Outputs :=
  if turn.left.status = .success then leave table turn.left else table

/-- How a turn is taken that finds some outputs. -/
inductive Taken (o : RunOptions) (table : Outputs) : Turn → Prop where
  /-- One of the step's references means no output. -/
  | unfilled {s : Step} {params : Fields} {e : ReferenceFault} :
      fill table s.params s.outputRefs = (params, some e) →
      Taken o table ⟨s, failed s params (.reference e s.id), []⟩
  /-- The step's action is not there or has failed. -/
  | refused {s : Step} {params : Fields} {attempt : Attempt} {e : Fault} : o.dryRun = false →
      fill table s.params s.outputRefs = (params, none) → faultOf? s attempt = some e →
      Taken o table ⟨s, failed s params e, [⟨s.action, params, attempt⟩]⟩
  /-- The step has been shown. -/
  | shown {s : Step} {params : Fields} : o.dryRun = true →
      fill table s.params s.outputRefs = (params, none) →
      Taken o table ⟨s, succeeded s params none, []⟩
  /-- The step's action is done. -/
  | carriedOut {s : Step} {params : Fields} {captured : Option Fields} : o.dryRun = false →
      fill table s.params s.outputRefs = (params, none) →
      Taken o table ⟨s, succeeded s params captured, [⟨s.action, params, .done captured⟩]⟩

variable {turn : Turn}

theorem Taken.id_eq (h : turn.Taken o table) : turn.left.id = turn.found.id := by
  cases h with
  | unfilled | refused => rfl
  | shown | carriedOut => exact succeeded_id ..

/-- A step ends in success with the error that it came with, or in failure with that of a fault. -/
theorem Taken.ended (h : turn.Taken o table) :
    turn.left.status = .success ∧ turn.left.error = turn.found.error ∨
      turn.left.status = .failure ∧ ∃ e : Fault, turn.left.error = some e.message := by
  cases h with
  | unfilled | refused => exact Or.inr ⟨rfl, _, rfl⟩
  | shown | carriedOut => exact Or.inl ⟨succeeded_status .., succeeded_error ..⟩

/-- A step ends with the outputs that its action captured, or else with those that it came with. -/
theorem Taken.outputs_eq (h : turn.Taken o table) :
    turn.left.outputs = turn.captured.or turn.found.outputs := by
  cases h with
  | unfilled | shown => rfl
  | @refused _ _ attempt _ _ _ hfault => cases attempt <;> cases hfault <;> rfl
  | @carriedOut _ _ captured =>
    match captured with
    | none | some [] => rfl
    | some (f :: fs) => rfl

/-- A step that fails has captured nothing. -/
theorem Taken.captured_eq_none (h : turn.Taken o table) (hfailure : turn.left.status = .failure) :
    turn.captured = none := by
  cases h with
  | unfilled | shown => rfl
  | @refused _ _ attempt _ _ _ hfault => cases attempt <;> cases hfault <;> rfl
  | carriedOut => simp at hfailure

/-- The action of a step is called with what has become of its parameters, if it is called at all; in a
real run, it has been called for every step that has succeeded. -/
theorem Taken.calls_cases (h : turn.Taken o table) :
    turn.calls = [] ∧ (o.dryRun = true ∨ turn.left.status = .failure) ∨
      o.dryRun = false ∧ ∃ attempt, turn.calls = [⟨turn.found.action, turn.left.params, attempt⟩] := by
  cases h with
  | unfilled => exact Or.inl ⟨rfl, Or.inr rfl⟩
  | refused hreal => exact Or.inr ⟨hreal, _, rfl⟩
  | shown hdry => exact Or.inl ⟨rfl, Or.inl hdry⟩
  | carriedOut hreal => exact Or.inr ⟨hreal, _, by rw [succeeded_params]⟩

/-- A step that succeeds, or for which an action is called, has been filled before. -/
theorem Taken.fill_eq (h : turn.Taken o table)
    (hpast : turn.left.status = .success ∨ turn.calls ≠ []) :
    fill table turn.found.params turn.found.outputRefs = (turn.left.params, none) := by
  cases h with
  | unfilled => simp at hpast
  | refused _ hfill _ => exact hfill
  | shown _ hfill => rwa [succeeded_params]
  | carriedOut _ hfill => rwa [succeeded_params]

end Turn

/-- A step of JSON values that has ended has taken a turn. -/
theorem Ended.taken {s : Step} {made : List Call} {stage : Stage σ}
    (h : Ended b o s table state made stage) (hs : s.IsJson) (htable : table.AreJson)
    (hmade : ∀ call ∈ made, call.CapturedJson) :
    Turn.Taken o table ⟨s, stage.step, made⟩ ∧
      stage.outputs = Turn.keep ⟨s, stage.step, made⟩ table ∧
      (∀ e, stage.result = .error e → stage.step.status = .failure) := by
  have hcases := h.cases hs htable hmade
  have hkeep : ∀ {params : Fields} {captured : Option Fields},
      leave table (succeeded s params captured) =
        Turn.keep ⟨s, succeeded s params captured, made⟩ table := by
    intro params captured
    rw [Turn.keep, if_pos (succeeded_status ..)]
  cases h with
  | unfilled hfill _ => exact ⟨.unfilled hfill, rfl, fun _ _ => rfl⟩
  | unshown =>
    -- JSON values can be shown, so that neither end of such a step is left.
    rcases hcases with ⟨_, _, -, -, hok⟩ | ⟨_, _, hstep, -⟩
    · cases hok
    · cases congrArg Step.status hstep
  | shown hdry hfill _ => exact ⟨.shown hdry hfill, hkeep, fun _ herror => nomatch herror⟩
  | refused hreal hfill _ _ hfault _ =>
    exact ⟨.refused hreal hfill hfault, rfl, fun _ _ => rfl⟩
  | unannounced =>
    rcases hcases with ⟨_, _, -, -, hok⟩ | ⟨_, _, hstep, -⟩
    · cases hok
    · have hstatus := congrArg Step.status hstep
      rw [succeeded_status, failed_status] at hstatus
      cases hstatus
  | carriedOut hreal hfill _ _ _ =>
    exact ⟨.carriedOut hreal hfill, hkeep, fun _ herror => nomatch herror⟩

/-! ## The turns of a run -/

/-- Turns taken one after the other, from some outputs to those that are kept in the end. -/
inductive Turns (o : RunOptions) (table : Outputs) : List Turn → Outputs → Prop where
  | nil : Turns o table [] table
  | concat {turns : List Turn} {between : Outputs} {turn : Turn} : Turns o table turns between →
      turn.Taken o between → Turns o table (turns ++ [turn]) (turn.keep between)

/-- What splits a list with one more item splits it behind the others, or splits the others. -/
theorem split_of_concat_eq {α : Type} {xs before behind : List α} {x y : α}
    (h : xs ++ [x] = before ++ y :: behind) :
    before = xs ∧ y = x ∧ behind = [] ∨ ∃ rest, behind = rest ++ [x] ∧ xs = before ++ y :: rest := by
  rcases List.eq_nil_or_concat behind with rfl | ⟨rest, z, rfl⟩
  · obtain ⟨hbefore, hlast⟩ := List.append_inj' h rfl
    exact Or.inl ⟨hbefore.symm, (List.singleton_inj.1 hlast).symm, rfl⟩
  · have hrest : xs ++ [x] = (before ++ y :: rest) ++ [z] := by simpa using h
    obtain ⟨hxs, hlast⟩ := List.append_inj' hrest rfl
    obtain rfl := List.singleton_inj.1 hlast
    exact Or.inr ⟨rest, by simp, hxs⟩

/-- Every turn finds the outputs that are kept behind those before it. -/
theorem Turns.exists_taken {turns : List Turn} (h : Turns o table turns last) {front behind : List Turn}
    {turn : Turn} (hsplit : turns = front ++ turn :: behind) :
    ∃ between, Turns o table front between ∧ turn.Taken o between := by
  induction h generalizing behind with
  | nil => simp at hsplit
  | concat hturns htaken ih =>
    rcases split_of_concat_eq hsplit with ⟨rfl, rfl, -⟩ | ⟨rest, -, hrest⟩
    · exact ⟨_, hturns, htaken⟩
    · exact ih hrest

theorem Turns.taken {turns : List Turn} (h : Turns o table turns last) {turn : Turn}
    (hturn : turn ∈ turns) : ∃ between, turn.Taken o between := by
  obtain ⟨front, behind, hsplit⟩ := List.append_of_mem hturn
  obtain ⟨between, -, htaken⟩ := h.exists_taken hsplit
  exact ⟨between, htaken⟩

/-- Steps have been taken in turn, but for the last ones, which are as they were.  There are such steps
only behind one that has failed, if the run does not go on behind it. -/
def InTurn (o : RunOptions) (steps left : List Step) (turns : List Turn) : Prop :=
  ∃ rest, steps = turns.map Turn.found ++ rest ∧ left = turns.map Turn.left ++ rest ∧
    (rest = [] ∨ o.continueOnError = false ∧
      ∃ turn, turns.getLast? = some turn ∧ turn.left.status = .failure)

/-- Up to any point of its course, a run of JSON values has taken steps in turn. -/
theorem Reached.exists_turns {c : Standing σ} (h : Reached b o steps table state c)
    (hsteps : ∀ s ∈ steps, s.IsJson) (htable : table.AreJson)
    (hcalls : ∀ call ∈ c.calls, call.CapturedJson) :
    ∃ turns, Turns o table turns c.outputs ∧ steps = turns.map Turn.found ++ c.waiting ∧
      c.started = turns.map Turn.left ∧ c.calls = turns.flatMap Turn.calls := by
  induction h using Reached.step_induction with
  | start => exact ⟨[], .nil, rfl, rfl, rfl⟩
  | @next c s rest p made stage hreached hwaiting hended _ ih =>
    obtain ⟨hold, hmade⟩ := List.forall_mem_append.1 hcalls
    obtain ⟨turns, hturns, hfound, hleft, hcalled⟩ := ih hold
    have hs : s.IsJson := hsteps s (hreached.mem_of_waiting (hwaiting ▸ List.mem_cons_self))
    have houtputs : c.outputs.AreJson := hreached.areJson hsteps htable hold
    obtain ⟨htaken, hkeep, -⟩ := hended.taken hs houtputs hmade
    refine ⟨turns ++ [⟨s, stage.step, made⟩], hkeep ▸ hturns.concat htaken, ?_, ?_, ?_⟩
    · simpa [Standing.next, hwaiting] using hfound
    · simp [Standing.next, hleft]
    · simp [Standing.next, hcalled]

/-- A run of JSON values takes its steps in turn. -/
theorem Finished.exists_turns {made : List Call} {r : Outcome σ}
    (h : Finished b o steps table state made r) (hsteps : ∀ s ∈ steps, s.IsJson)
    (htable : table.AreJson) (hmade : ∀ call ∈ made, call.CapturedJson) :
    ∃ turns, Turns o table turns r.outputs ∧ InTurn o steps r.steps turns ∧
      made = turns.flatMap Turn.calls := by
  cases h with
  | through hreached hwaiting _ =>
    obtain ⟨turns, hturns, hfound, hleft, hcalled⟩ := hreached.exists_turns hsteps htable hmade
    rw [hwaiting] at hfound
    exact ⟨turns, hturns, ⟨[], hfound, by simpa using hleft, Or.inl rfl⟩, hcalled⟩
  | @stopped c s rest calls stage e hreached hwaiting hended herror hno =>
    obtain ⟨hold, hnew⟩ := List.forall_mem_append.1 hmade
    obtain ⟨turns, hturns, hfound, hleft, hcalled⟩ := hreached.exists_turns hsteps htable hold
    have hs : s.IsJson := hsteps s (hreached.mem_of_waiting (hwaiting ▸ List.mem_cons_self))
    have houtputs : c.outputs.AreJson := hreached.areJson hsteps htable hold
    obtain ⟨htaken, hkeep, hfailure⟩ := hended.taken hs houtputs hnew
    obtain ⟨_, -, hexecution⟩ :=
      hreached.next_of_error hsteps htable hwaiting hended hmade herror
    refine ⟨turns ++ [⟨s, stage.step, calls⟩], hkeep ▸ hturns.concat htaken, ?_, by simp [hcalled]⟩
    refine ⟨rest, ?_, ?_, Or.inr ⟨?_, ?_⟩⟩
    · simpa [hwaiting] using hfound
    · simp [hleft]
    · exact Bool.eq_false_iff.2 fun hgoesOn => hno ⟨hexecution, hgoesOn⟩
    · exact ⟨_, List.getLast?_concat, hfailure e herror⟩

end Remediation.Execution
