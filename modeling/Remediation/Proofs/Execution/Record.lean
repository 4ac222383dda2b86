import Remediation.Proofs.Execution.Turn
import Remediation.Proofs.Schedule.Sort
/-!
# What a run records

A run keeps outputs for later steps and writes errors on its steps.  Behind each of its steps, it keeps
the outputs of those steps that it has ended in success and that have any, and no others (`Recorded`);
whatever a reference has put into the parameters of a step has been left by a step before it that the
run has ended in success (`exists_account`).  Behind its first steps, a run has done what it does with
these alone (`take_steps_run`).

A step that fails has an error.  A step that succeeds has the error that it came with, so that it has
none only if it came without one (`error_recorded`).
-/

set_option autoImplicit false

namespace Remediation

/-- A step ends with an output. -/
def Step.Holds (s : Step) (output : String) (v : Value) : Prop :=
  ∃ fields, s.outputs = some fields ∧ lookupField fields output = some v

namespace Execution

open Schedule (ids eq_of_id_eq)

variable {σ : Type} {b : Backend σ} {o : RunOptions} {steps : List Step} {table : Outputs}

/-! ## The outputs that are kept -/

/-- What is kept of outputs is what the steps have left that have succeeded. -/
def Recorded (started : List Step) (table : Outputs) : Prop :=
  ∀ id fields, lookupField table id = some fields ↔
    ∃ t ∈ started, t.id = id ∧ t.status = .success ∧ t.outputs = some fields

namespace Recorded

variable {started : List Step} {t : Step}

theorem nil : Recorded [] [] := by simp [Recorded, lookupField]

/-- What a step leaves is recorded if it has another id than those before it. -/
theorem leave (h : Recorded started table) (hnew : t.id ∉ ids started)
    (hstatus : t.status = .success) : Recorded (started ++ [t]) (leave table t) := by
  intro id fields
  have hold : lookupField table t.id = none := by
    cases hlookup : lookupField table t.id with
    | none => rfl
    | some found =>
      obtain ⟨u, hu, hid, -⟩ := (h t.id found).1 hlookup
      exact absurd (hid ▸ List.mem_map_of_mem hu) hnew
  have hsplit : (∃ u ∈ started ++ [t], u.id = id ∧ u.status = .success ∧ u.outputs = some fields) ↔
      lookupField table id = some fields ∨ t.id = id ∧ t.outputs = some fields := by
    rw [h]
    simp [or_and_right, exists_or, hstatus]
  rw [hsplit]
  by_cases hid : t.id = id
  · subst hid
    unfold Execution.leave
    cases houtputs : t.outputs with
    | none => simp [hold]
    | some left => simp [hold, lookupField_setField_self]
  · rw [lookupField_leave_ne table (Ne.symm hid)]
    simp [hid]

/-- A step that fails leaves nothing. -/
theorem failed (h : Recorded started table) (hstatus : t.status = .failure) :
    Recorded (started ++ [t]) table := by
  intro id fields
  rw [h]
  simp [or_and_right, exists_or, hstatus]

/-- Nothing is kept under an id that no step has which has succeeded. -/
theorem lookupField_eq_none (h : Recorded started table) {id : String}
    (hnone : ∀ t ∈ started, t.id = id → t.status ≠ .success) : lookupField table id = none := by
  cases hlookup : lookupField table id with
  | none => rfl
  | some fields =>
    obtain ⟨t, ht, hid, hsuccess, -⟩ := (h id fields).1 hlookup
    exact absurd hsuccess (hnone t ht hid)

end Recorded

/-- Taking turns changes no ids. -/
theorem Turns.ids_eq {turns : List Turn} {last : Outputs} (h : Turns o table turns last) :
    ids (turns.map Turn.left) = ids (turns.map Turn.found) := by
  simp only [ids, List.map_map]
  refine List.map_congr_left fun turn hturn => ?_
  obtain ⟨_, htaken⟩ := h.taken hturn
  exact htaken.id_eq

/-- Turns of steps that have different ids keep what the steps have left. -/
theorem Turns.recorded {turns : List Turn} {last : Outputs} (h : Turns o [] turns last)
    (hunique : (ids (turns.map Turn.found)).Nodup) : Recorded (turns.map Turn.left) last := by
  induction h with
  | nil => exact .nil
  | @concat turns between turn hturns htaken ih =>
    have hsplit : (ids (turns.map Turn.found) ++ turn.found.id :: []).Nodup := by
      simpa [ids] using hunique
    have hrecorded := ih (List.nodup_append.1 hsplit).1
    have hnew : turn.left.id ∉ ids (turns.map Turn.left) := by
      rw [hturns.ids_eq, htaken.id_eq]
      exact notMem_before hsplit
    rw [List.map_append, List.map_singleton, Turn.keep]
    rcases htaken.ended with ⟨hsuccess, -⟩ | ⟨hfailure, -⟩
    · rw [if_pos hsuccess]
      exact hrecorded.leave hnew hsuccess
    · rw [if_neg (by simp [hfailure])]
      exact hrecorded.failed hfailure

/-- A parameter of a step that has been filled is as it was, or holds an output that a step has left
which has succeeded before. -/
theorem Recorded.lookupField_fill {started : List Step} (h : Recorded started table)
    {params filled : Fields} {refs : List (String × String)}
    (hfill : fill table params refs = (filled, none)) (param : String) :
    param ∉ refs.map Prod.fst ∧ lookupField filled param = lookupField params param ∨
      ∃ ref source output v, (param, ref) ∈ refs ∧ Refers ref source output ∧
        lookupField filled param = some v ∧
        ∃ s ∈ started, s.id = source ∧ s.status = .success ∧ s.Holds output v := by
  by_cases hparam : param ∈ refs.map Prod.fst
  · obtain ⟨ref, v, href, hresolve, hlookup⟩ := exists_lookupField_fill hfill hparam
    obtain ⟨source, output, fields, hrefers, hfields, hv⟩ := exists_of_resolve hresolve
    obtain ⟨s, hs, hid, hstatus, houtputs⟩ := (h source fields).1 hfields
    exact Or.inr ⟨ref, source, output, v, href, hrefers, hlookup, s, hs, hid, hstatus, fields,
      houtputs, hv⟩
  · have hkept : lookupField (fill table params refs).1 param = lookupField params param :=
      lookupField_fill_of_notMem hparam
    rw [hfill] at hkept
    exact Or.inl ⟨hparam, hkept⟩

/-! ## Runs behind each of their steps -/

section Cut

variable (b : Backend σ) (o : RunOptions) (steps : List Step) (table : Outputs) (state : σ) (k : Nat)

/-- What a run has done when it has come behind its first `k` steps, or has ended before. -/
def upTo : Outcome σ := runSteps b o (.start steps.length) table state (steps.take k)

/-- The calls that a run has made of actions by then. -/
def callsUpTo : List Call := (upTo b.journalled o steps table (state, []) k).state.2

theorem upTo_length : upTo b o steps table state steps.length = run b o steps table state := by
  rw [upTo, List.take_length, run]

end Cut

/-- What a run does with its first steps does not depend on those behind them. -/
theorem take_steps_runSteps (p : Progress) (table : Outputs) (state : σ) (front behind : List Step) :
    (runSteps b o p table state (front ++ behind)).steps.take front.length =
      (runSteps b o p table state front).steps := by
  induction front generalizing p table state with
  | nil => rfl
  | cons s rest ih =>
    simp only [List.cons_append, runSteps, List.length_cons]
    split
    next => rw [List.take_succ_cons, ih]
    next e _ =>
      split
      · rw [List.take_succ_cons, ih]
      · simp

/-- A whole run leaves its first `k` steps as it has when it has come behind them. -/
theorem take_steps_run (b : Backend σ) (o : RunOptions) (steps : List Step) (table : Outputs)
    (state : σ) (k : Nat) :
    (run b o steps table state).steps.take k = (upTo b o steps table state k).steps := by
  have hfront := take_steps_runSteps (b := b) (o := o) (.start steps.length) table state
    (steps.take k) (steps.drop k)
  rw [List.take_append_drop] at hfront
  rw [upTo, ← hfront, ← run, List.length_take]
  rcases Nat.le_total k steps.length with hk | hk
  · rw [Nat.min_eq_left hk]
  · obtain ⟨_, hfinished⟩ := run_finished b o steps table state
    have hlength : (run b o steps table state).steps.length = steps.length := by
      simpa using congrArg List.length (hfinished.map_eq Ended.task_eq)
    rw [Nat.min_eq_right hk, List.take_of_length_le (hlength.trans_le hk),
      List.take_of_length_le hlength.le]

/-- Behind each of its steps, a run of JSON values has taken steps in turn. -/
theorem exists_turns_upTo (hb : b.CapturesJson) (hsteps : ∀ s ∈ steps, s.IsJson)
    (htable : table.AreJson) (o : RunOptions) (state : σ) (k : Nat) :
    ∃ turns, Turns o table turns (upTo b o steps table state k).outputs ∧
      InTurn o (steps.take k) (upTo b o steps table state k).steps turns ∧
      callsUpTo b o steps table state k = turns.flatMap Turn.calls := by
  have hstart : Reached b.journalled o (steps.take k) table (state, [])
      ⟨[], steps.take k, .start (steps.take k).length, [], table, (state, [])⟩ := .start
  obtain ⟨made, result, hfinished, -⟩ := exists_finished hstart rfl (.start steps.length)
  have hplain : (upTo b.journalled o steps table (state, []) k).plain =
      upTo b o steps table state k := plain_runSteps _ _ _ _
  have hmade : callsUpTo b o steps table state k = made := hfinished.journal_eq
  rw [← hplain, hmade]
  exact hfinished.exists_turns (fun s hs => hsteps s (List.mem_of_mem_take hs)) htable
    (hfinished.capturedJson hb.journalled)

/-! ## What a run has recorded -/

/-- What has become of steps turn by turn, with the outputs that are kept behind them and the calls that
have been made. -/
structure Account (o : RunOptions) (steps left : List Step) (outputs : Outputs) (calls : List Call)
    (turns : List Turn) : Prop where
  inTurn : InTurn o steps left turns
  calls_eq : calls = turns.flatMap Turn.calls
  /-- The action of a step is called with the parameters that the step ends with, if at all. -/
  called : ∀ turn ∈ turns, turn.calls = [] ∧ (o.dryRun = true ∨ turn.left.status = .failure) ∨
    o.dryRun = false ∧ ∃ attempt, turn.calls = [⟨turn.found.action, turn.left.params, attempt⟩]
  /-- What is kept are the outputs of the steps that have succeeded. -/
  recorded : Recorded (turns.map Turn.left) outputs
  /-- A step ends with what its action has captured, or else with the outputs that it came with. -/
  outputs_eq : ∀ turn ∈ turns, turn.left.outputs = turn.captured.or turn.found.outputs
  /-- A step that has not succeeded has failed; it ends with the outputs that it came with, and none
  are kept for it. -/
  ended : ∀ turn ∈ turns, turn.left.status = .success ∨ turn.left.status = .failure ∧
    turn.left.outputs = turn.found.outputs ∧ lookupField outputs turn.found.id = none
  /-- A step whose references could all be followed has in its parameters what it came with, or an
  output that a step before it has left which has succeeded. -/
  supplied : ∀ front turn behind, turns = front ++ turn :: behind →
    (turn.left.status = .success ∨ turn.calls ≠ []) → ∀ param,
      param ∉ turn.found.outputRefs.map Prod.fst ∧
        lookupField turn.left.params param = lookupField turn.found.params param ∨
      ∃ ref source output v, (param, ref) ∈ turn.found.outputRefs ∧ Refers ref source output ∧
        lookupField turn.left.params param = some v ∧
        ∃ earlier ∈ front, earlier.found.id = source ∧ earlier.left.status = .success ∧
          earlier.left.Holds output v

/-- Turns of steps that have different ids, one after the other, give an account. -/
theorem Turns.account {turns : List Turn} {left : List Step} {last : Outputs} {made : List Call}
    (h : Turns o [] turns last) (hinTurn : InTurn o steps left turns)
    (hcalls : made = turns.flatMap Turn.calls) (hunique : (ids (turns.map Turn.found)).Nodup) :
    Account o steps left last made turns where
  inTurn := hinTurn
  calls_eq := hcalls
  called := by
    intro turn hturn
    obtain ⟨_, htaken⟩ := h.taken hturn
    exact htaken.calls_cases
  recorded := h.recorded hunique
  outputs_eq := by
    intro turn hturn
    obtain ⟨_, htaken⟩ := h.taken hturn
    exact htaken.outputs_eq
  ended := by
    intro turn hturn
    obtain ⟨_, htaken⟩ := h.taken hturn
    rcases htaken.ended with ⟨hsuccess, -⟩ | ⟨hfailure, -⟩
    · exact Or.inl hsuccess
    · refine Or.inr ⟨hfailure, ?_, ?_⟩
      · rw [htaken.outputs_eq, htaken.captured_eq_none hfailure, Option.none_or]
      · -- Only the step itself has its id, and it has failed.
        refine (h.recorded hunique).lookupField_eq_none fun t ht hid hsuccess => ?_
        have hleft : turn.left ∈ turns.map Turn.left := List.mem_map_of_mem hturn
        obtain rfl := eq_of_id_eq (h.ids_eq ▸ hunique) ht hleft (hid.trans htaken.id_eq.symm)
        exact status_ne_failure hsuccess hfailure
  supplied := by
    intro front turn behind hsplit hpast param
    obtain ⟨between, hfront, htaken⟩ := h.exists_taken hsplit
    have hfirst : (ids (front.map Turn.found)).Nodup := by
      refine List.Sublist.nodup ?_ hunique
      rw [hsplit, List.map_append]
      exact (List.sublist_append_left _ _).map _
    refine ((hfront.recorded hfirst).lookupField_fill (htaken.fill_eq hpast) param).imp_right ?_
    rintro ⟨ref, source, output, v, href, hrefers, hparam, s, hs, hid, hstatus, hholds⟩
    obtain ⟨earlier, hearlier, rfl⟩ := List.mem_map.1 hs
    obtain ⟨_, hbefore⟩ := hfront.taken hearlier
    exact ⟨ref, source, output, v, href, hrefers, hparam, earlier, hearlier,
      hbefore.id_eq.symm.trans hid, hstatus, hholds⟩

/-- Behind each of its steps, a run of JSON values whose steps have different ids has kept the outputs
of those that it has ended in success, and no others; what references have put into the parameters of
a step has been left by steps before it that the run has ended in success. -/
theorem exists_account (hb : b.CapturesJson) (hsteps : ∀ s ∈ steps, s.IsJson)
    (hunique : (ids steps).Nodup) (o : RunOptions) (state : σ) (k : Nat) :
    (run b o steps [] state).steps.take k = (upTo b o steps [] state k).steps ∧
    ∃ turns, Account o (steps.take k) (upTo b o steps [] state k).steps
      (upTo b o steps [] state k).outputs (callsUpTo b o steps [] state k) turns := by
  obtain ⟨turns, hturns, hinTurn, hcalls⟩ :=
    exists_turns_upTo hb hsteps (List.forall_mem_nil _) o state k
  have hfirst : (turns.map Turn.found).Sublist (steps.take k) := by
    obtain ⟨rest, hsplit, -⟩ := hinTurn
    exact hsplit ▸ List.sublist_append_left _ rest
  have hnodup : (ids (turns.map Turn.found)).Nodup :=
    ((hfirst.trans (List.take_sublist k steps)).map _).nodup hunique
  exact ⟨take_steps_run b o steps [] state k, turns, hturns.account hinTurn hcalls hnodup⟩

/-- One action that captures a page, and others that do nothing. -/
def rendering : Backend Unit where
  perform action _ state :=
    (.done (if action = "render" then some [("page", .text "index")] else none), state)
  printLine _ state := state
  report _ _ state := state

theorem capturesJson_rendering : rendering.CapturesJson := by
  intro action params state captured next h
  obtain ⟨hdone, -⟩ := Prod.mk.inj h
  have hcaptured := Attempt.done.inj hdone
  split at hcaptured
  next =>
    obtain rfl := Option.some.inj hcaptured
    intro e he
    obtain rfl := List.mem_singleton.1 he
    exact .text "index"
  next => cases hcaptured

/-- A step that publishes the page of another one. -/
def publishStep : Step :=
  ⟨"publish", "upload", [], "", [], none, [("from", "draft.page")], .pending, none⟩

/-- The step that renders the page. -/
def draftStep : Step := ⟨"draft", "render", [], "", [], none, [], .pending, none⟩

theorem isJson_of_mem_draftStep_publishStep : ∀ s ∈ [draftStep, publishStep], s.IsJson := by
  intro s hs
  simp only [List.mem_cons, List.not_mem_nil, or_false] at hs
  rcases hs with rfl | rfl
  all_goals exact .of_empty rfl rfl

/-- Behind the first step, the page is kept; behind the second one, it has been put into that step. -/
theorem exists_account_publish :
    rendering.CapturesJson ∧ (∀ s ∈ [draftStep, publishStep], s.IsJson) ∧
    (ids [draftStep, publishStep]).Nodup ∧
    (upTo rendering .default [draftStep, publishStep] [] () 1).outputs =
      [("draft", [("page", .text "index")])] ∧
    ∃ turns, Account .default [draftStep, publishStep]
      (upTo rendering .default [draftStep, publishStep] [] () 2).steps
      [("draft", [("page", .text "index")])]
      [⟨"render", [], .done (some [("page", .text "index")])⟩,
        ⟨"upload", [("from", .text "index")], .done none⟩] turns := by
  have hunique : (ids [draftStep, publishStep]).Nodup := by decide
  obtain ⟨-, haccount⟩ := exists_account capturesJson_rendering
    isJson_of_mem_draftStep_publishStep hunique .default () 2
  exact ⟨capturesJson_rendering, isJson_of_mem_draftStep_publishStep, hunique, rfl, haccount⟩

/-! ## Errors -/

/-- A step that a run of JSON values has taken up has failed with the error of a fault, or has succeeded
with the error that it came with.  It has an error exactly if it has failed, unless it has succeeded and
came with one. -/
theorem error_recorded (hb : b.CapturesJson) (hsteps : ∀ s ∈ steps, s.IsJson)
    (htable : table.AreJson) (o : RunOptions) (state : σ) :
    ∃ turns, InTurn o steps (run b o steps table state).steps turns ∧ ∀ turn ∈ turns,
      (turn.left.status = .failure ∧ (∃ e : Fault, turn.left.error = some e.message) ∨
        turn.left.status = .success ∧ turn.left.error = turn.found.error) ∧
      ((turn.left.error ≠ none ↔ turn.left.status = .failure) ↔
        turn.left.status = .failure ∨ turn.found.error = none) := by
  obtain ⟨turns, hturns, hinTurn, -⟩ := exists_turns_upTo hb hsteps htable o state steps.length
  rw [upTo_length, List.take_length] at hinTurn
  refine ⟨turns, hinTurn, fun turn hturn => ?_⟩
  obtain ⟨_, htaken⟩ := hturns.taken hturn
  rcases htaken.ended with ⟨hsuccess, herror⟩ | ⟨hfailure, e, herror⟩
  · exact ⟨Or.inr ⟨hsuccess, herror⟩, by simp [hsuccess, herror]⟩
  · exact ⟨Or.inl ⟨hfailure, e, herror⟩, by simp [hfailure, herror]⟩

/-- Actions that cannot be started. -/
def offline : Backend Unit where
  perform _ _ state := (.failed (.command (.launch "offline")), state)
  printLine _ state := state
  report _ _ state := state

/-- A step that has not been run. -/
def fetchStep : Step := ⟨"fetch", "copy", [], "", [], none, [], .pending, none⟩

/-- The step when its action could not be started. -/
def retriedStep : Step := { fetchStep with
  status := .failure, error := some "execution failed: command execution failed: offline" }

theorem isJson_of_mem_retriedStep : ∀ s ∈ [retriedStep], s.IsJson := by
  intro s hs
  obtain rfl := List.mem_singleton.1 hs
  exact .of_empty rfl rfl

theorem error_recorded_retried :
    idle.CapturesJson ∧ (∀ s ∈ [retriedStep], s.IsJson) ∧ Outputs.AreJson [] ∧
    ∃ turns, InTurn .default [retriedStep] (run idle .default [retriedStep] [] ()).steps turns ∧
      ∀ turn ∈ turns, turn.left.status = .success → turn.left.error = turn.found.error := by
  have htable : Outputs.AreJson [] := List.forall_mem_nil _
  obtain ⟨turns, hinTurn, hturns⟩ :=
    error_recorded capturesJson_idle isJson_of_mem_retriedStep htable .default ()
  refine ⟨capturesJson_idle, isJson_of_mem_retriedStep, htable, turns, hinTurn, ?_⟩
  intro turn hturn hsuccess
  rcases (hturns turn hturn).1 with ⟨hfailure, -⟩ | ⟨-, herror⟩
  · exact absurd hfailure (status_ne_failure hsuccess)
  · exact herror

/-- A step that has failed in one run and succeeds in the next one keeps its error. -/
theorem exists_error_of_success :
    (run offline .default [fetchStep] [] ()).steps = [retriedStep] ∧
    (run idle .default [retriedStep] [] ()).result = .ok ⟨1, 0, 1⟩ ∧
    ∃ s ∈ (run idle .default [retriedStep] [] ()).steps, s.status = .success ∧ s.error ≠ none :=
  ⟨rfl, rfl, by decide +kernel⟩

end Execution

end Remediation
