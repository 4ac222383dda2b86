import Mathlib.Data.List.Permutation
import Remediation.Proofs.Execution.Record
import Remediation.Proofs.Schedule.Sort
/-!
# Outputs handed from step to step

Where every step stands behind those whose outputs it takes, a run hands each output over: what it
keeps for later steps is at any time what the steps have left that have succeeded (`Ledger`).  A step
whose action does not fail can then only fail for an output that a step before it has not left
(`Wanting`), and never for one that has not been started.  If no output is wanting, the run succeeds
and every action has been called with the outputs that its step refers to (`run_sorted_supplied`).
-/

set_option autoImplicit false

namespace Remediation.Execution

open Schedule

variable {σ : Type} {b : Backend σ} {o : RunOptions} {steps : List Step} {state : σ}

/-! ## Steps and what stands before them -/

/-- A step has succeeded, with every output that it refers to from a step before it. -/
structure Supplied (before : List Step) (t : Step) : Prop where
  status : t.status = .success
  params : ∀ param ref source output, (param, ref) ∈ t.outputRefs → Refers ref source output →
    ∃ s ∈ before, s.id = source ∧ s.status = .success ∧
      ∃ v, s.Holds output v ∧ lookupField t.params param = some v

/-- A step has failed for an output that a step before it has not left: that step has been started,
and it has failed or does not hold the output. -/
structure Wanting (before : List Step) (t : Step) : Prop where
  status : t.status = .failure
  missing : ∃ param ref source output e, (param, ref) ∈ t.outputRefs ∧
    Refers ref source output ∧ (e = .step source ∨ e = .output output source) ∧
    t.error = some (Fault.reference e t.id).message ∧
    ∃ s ∈ before, s.id = source ∧ (s.status = .success ∨ s.status = .failure) ∧
      (s.status = .success → ∀ v, ¬ s.Holds output v)

/-- A call that has been carried out, and has captured JSON values if anything. -/
def Call.Done (c : Call) : Prop :=
  ∃ captured, c.attempt = .done captured ∧ ∀ fields, captured = some fields → fields.AreJson

theorem Call.Done.capturedJson {c : Call} (h : c.Done) : c.CapturedJson := by
  obtain ⟨captured, hdone, hjson⟩ := h
  intro fields hfields
  rw [hdone] at hfields
  exact hjson fields (Attempt.done.inj hfields)

/-- What an action is called with. -/
def Call.request (c : Call) : String × Fields := (c.action, c.params)

/-- What the action of a step is called with. -/
def request (s : Step) : String × Fields := (s.action, s.params)

/-- What has happened by some point of a run: what is kept of outputs is what the steps have left that
have succeeded; each step has been supplied or is wanting; and the calls are those of the steps that
have succeeded, in a real run. -/
structure Ledger (o : RunOptions) (started : List Step) (table : Outputs) (calls : List Call) :
    Prop where
  table : Recorded started table
  steps : ∀ before t behind, started = before ++ t :: behind → Supplied before t ∨ Wanting before t
  calls : calls.map Call.request =
    if o.dryRun then [] else (started.filter (·.status = .success)).map request

namespace Ledger

variable {started : List Step} {table : Outputs} {calls : List Call}

theorem nil (o : RunOptions) : Ledger o [] [] [] where
  table := .nil
  steps := by simp
  calls := by simp

theorem ended (h : Ledger o started table calls) {t : Step} (ht : t ∈ started) :
    t.status = .success ∨ t.status = .failure := by
  obtain ⟨before, behind, hsplit⟩ := List.append_of_mem ht
  exact (h.steps before t behind hsplit).imp Supplied.status Wanting.status

/-- All steps have succeeded, or there is a first one that is wanting. -/
theorem all_success_or_wanting (h : Ledger o started table calls) :
    (∀ t ∈ started, t.status = .success) ∨ ∃ before t behind, started = before ++ t :: behind ∧
      (∀ s ∈ before, s.status = .success) ∧ Wanting before t := by
  cases hfind : started.find? (·.status = .failure) with
  | none =>
    refine Or.inl fun t ht => (h.ended ht).resolve_right fun hfailure => ?_
    exact List.find?_eq_none.1 hfind t ht (by simp [hfailure])
  | some t =>
    obtain ⟨hfailure, before, behind, hsplit, hbefore⟩ := List.find?_eq_some_iff_append.1 hfind
    have hstatus : t.status = .failure := by simpa using hfailure
    refine Or.inr ⟨before, t, behind, hsplit, ?_, ?_⟩
    · intro s hs
      refine (h.ended (hsplit ▸ List.mem_append_left _ hs)).resolve_right fun hfailed => ?_
      simpa [hfailed] using hbefore s hs
    · refine (h.steps before t behind hsplit).resolve_left fun hsupplied => ?_
      exact status_ne_failure hsupplied.status hstatus

/-! ### Another step -/

/-- A step that can be filled is supplied. -/
theorem supplied (h : Ledger o started table calls) {s : Step} {params : Fields}
    {captured : Option Fields} (hkeys : (s.outputRefs.map Prod.fst).Nodup)
    (hfill : fill table s.params s.outputRefs = (params, none)) :
    Supplied started (succeeded s params captured) where
  status := succeeded_status s params captured
  params := by
    intro param ref source output href hrefers
    rw [succeeded_outputRefs] at href
    rw [succeeded_params]
    obtain ⟨v, hv⟩ := exists_of_fill_eq_none hfill href
    rcases resolve_of_refers hrefers with ⟨fields, w, hfields, hw, hresolve⟩ | ⟨-, e, -, herror⟩
    · obtain rfl := Except.ok.inj (hv.symm.trans hresolve)
      obtain ⟨t, ht, hid, hstatus, houtputs⟩ := (h.table source fields).1 hfields
      exact ⟨t, ht, hid, hstatus, v, ⟨fields, houtputs, hw⟩, lookupField_fill hkeys hfill href hv⟩
    · rw [hv] at herror
      cases herror

/-- A step that cannot be filled is wanting. -/
theorem wanting (h : Ledger o started table calls) {s : Step} {params : Fields}
    {e : ReferenceFault} (hrefers : ∀ param ref, (param, ref) ∈ s.outputRefs →
      ∃ source output, Refers ref source output ∧ source ∈ ids started)
    (hfill : fill table s.params s.outputRefs = (params, some e)) :
    Wanting started (failed s params (.reference e s.id)) where
  status := rfl
  missing := by
    obtain ⟨param, ref, href, herror⟩ := exists_of_fill_eq_some hfill
    obtain ⟨source, output, hreads, hsource⟩ := hrefers param ref href
    obtain ⟨t, ht, hid⟩ := List.mem_map.1 hsource
    rcases resolve_of_refers hreads with ⟨fields, v, -, -, hok⟩ | ⟨hnone, e', hform, herror'⟩
    · rw [herror] at hok
      cases hok
    · obtain rfl := Except.error.inj (herror.symm.trans herror')
      refine ⟨param, ref, source, output, e, href, hreads, hform, rfl, t, ht, hid, h.ended ht, ?_⟩
      rintro hstatus v ⟨fields, houtputs, hv⟩
      have hfields := (h.table source fields).2 ⟨t, ht, hid, hstatus, houtputs⟩
      rw [hfields, Option.bind_some, hv] at hnone
      cases hnone

theorem append_steps (h : Ledger o started table calls) {t : Step}
    (ht : Supplied started t ∨ Wanting started t) (before : List Step) (u : Step)
    (behind : List Step) (hsplit : started ++ [t] = before ++ u :: behind) :
    Supplied before u ∨ Wanting before u := by
  rcases split_of_concat_eq hsplit with ⟨rfl, rfl, -⟩ | ⟨rest, -, hrest⟩
  · exact ht
  · exact h.steps before u rest hrest

end Ledger

/-! ## Steps that have been started -/

/-- A step whose calls are all carried out ends supplied or unfilled. -/
theorem Ended.of_done {s : Step} {table : Outputs} {made : List Call} {stage : Stage σ}
    (h : Ended b o s table state made stage) (hs : s.IsJson) (htable : table.AreJson)
    (hmade : ∀ call ∈ made, call.Done) :
    (∃ params captured, fill table s.params s.outputRefs = (params, none) ∧
      stage.step = succeeded s params captured ∧ stage.outputs = leave table stage.step ∧
      made.map Call.request = if o.dryRun then [] else [(s.action, params)]) ∨
    ∃ params e, fill table s.params s.outputRefs = (params, some e) ∧
      stage.step = failed s params (.reference e s.id) ∧ stage.outputs = table ∧ made = [] := by
  have hcases := h.cases hs htable fun call hcall => (hmade call hcall).capturedJson
  cases h with
  | unfilled hfill _ => exact Or.inr ⟨_, _, hfill, rfl, rfl, rfl⟩
  | unshown =>
    rcases hcases with ⟨_, _, -, -, hok⟩ | ⟨_, _, hstep, -⟩
    · cases hok
    · cases congrArg Step.status hstep
  | shown hdry hfill _ => exact Or.inl ⟨_, none, hfill, rfl, rfl, by simp [hdry]⟩
  | refused hreal _ _ _ hfault _ =>
    obtain ⟨captured, hdone, -⟩ := hmade _ (List.mem_singleton_self _)
    obtain rfl := hdone
    cases hfault
  | unannounced =>
    rcases hcases with ⟨_, _, -, -, hok⟩ | ⟨_, _, hstep, -⟩
    · cases hok
    · have hstatus := congrArg Step.status hstep
      rw [succeeded_status, failed_status] at hstatus
      cases hstatus
  | carriedOut hreal hfill _ _ _ =>
    exact Or.inl ⟨_, _, hfill, rfl, rfl, by simp [hreal, Call.request]⟩

/-- A ledger goes on behind a step that can read its references, has an id of its own and takes
outputs only from steps that have been started. -/
theorem Ledger.next {started : List Step} {table : Outputs} {calls made : List Call} {s : Step}
    {stage : Stage σ} (h : Ledger o started table calls)
    (hended : Ended b o s table state made stage) (hs : s.IsJson) (htable : table.AreJson)
    (hmade : ∀ call ∈ made, call.Done) (hkeys : (s.outputRefs.map Prod.fst).Nodup)
    (hnew : s.id ∉ ids started) (hrefers : ∀ param ref, (param, ref) ∈ s.outputRefs →
      ∃ source output, Refers ref source output ∧ source ∈ ids started) :
    Ledger o (started ++ [stage.step]) stage.outputs (calls ++ made) := by
  rcases hended.of_done hs htable hmade with
    ⟨params, captured, hfill, hstep, houtputs, hcalls⟩ | ⟨params, e, hfill, hstep, houtputs, rfl⟩
  · have hsupplied : Supplied started (succeeded s params captured) := h.supplied hkeys hfill
    have hsid : stage.step.id = s.id := by rw [hstep, succeeded_id]
    have hstatus : stage.step.status = .success := by rw [hstep, succeeded_status]
    have hrequest : request stage.step = (s.action, params) := by
      rw [request, hstep, succeeded_action, succeeded_params]
    rw [← hstep] at hsupplied
    refine ⟨?_, h.append_steps (Or.inl hsupplied), ?_⟩
    · rw [houtputs]
      exact h.table.leave (hsid ▸ hnew) hstatus
    · rw [List.map_append, h.calls, hcalls]
      split
      · rfl
      · simp [List.filter_append, hstatus, hrequest]
  · have hwanting := h.wanting hrefers hfill
    have hstatus : stage.step.status = .failure := by rw [hstep, failed_status]
    rw [← hstep] at hwanting
    refine ⟨?_, h.append_steps (Or.inr hwanting), ?_⟩
    · rw [houtputs]
      exact h.table.failed hstatus
    · rw [List.append_nil, h.calls, List.filter_append]
      simp [hstatus]

/-- Steps of JSON values that have different ids, each behind those that it takes outputs from; a run
can read all their references. -/
structure Chained (steps : List Step) : Prop where
  nodup : (ids steps).Nodup
  inOrder : InOrder steps
  refers : ∀ s ∈ steps, ∀ param ref, (param, ref) ∈ s.outputRefs →
    ∃ source output, Refers ref source output ∧ source ≠ s.id
  keys : ∀ s ∈ steps, (s.outputRefs.map Prod.fst).Nodup
  json : ∀ s ∈ steps, s.IsJson

theorem ids_eq_of_tasks_eq {xs ys : List Step} (h : xs.map Step.task = ys.map Step.task) :
    ids xs = ids ys := by
  have hids (zs : List Step) : ids zs = (zs.map Step.task).map (·.id) := by
    rw [List.map_map]
    rfl
  rw [hids, h, ← hids]

/-- The ledger goes on behind the next step of a run. -/
theorem Reached.ledger_append {c : Standing σ} (h : Reached b o steps [] state c)
    (hsteps : Chained steps) {s : Step} {rest : List Step} {made : List Call} {stage : Stage σ}
    (hwaiting : c.waiting = s :: rest) (hended : Ended b o s c.outputs c.state made stage)
    (hdone : ∀ call ∈ c.calls ++ made, call.Done)
    (hledger : Ledger o c.started c.outputs c.calls) :
    Ledger o (c.started ++ [stage.step]) stage.outputs (c.calls ++ made) := by
  obtain ⟨hold, hmade⟩ := List.forall_mem_append.1 hdone
  obtain ⟨before, hsplit, htasks⟩ := h.split hwaiting
  have hs : s ∈ steps := hsplit ▸ List.mem_append_right _ List.mem_cons_self
  have hids : ids before = ids c.started := ids_eq_of_tasks_eq htasks
  have hnodup : (ids before ++ s.id :: ids rest).Nodup := by
    have hall := hsplit ▸ hsteps.nodup
    simpa [ids] using hall
  have houtputs := h.areJson hsteps.json (List.forall_mem_nil _)
    fun call hcall => (hold call hcall).capturedJson
  refine hledger.next hended (hsteps.json s hs) houtputs hmade (hsteps.keys s hs) ?_ ?_
  · exact hids ▸ notMem_before hnodup
  · intro param ref href
    obtain ⟨source, output, hrefers, hother⟩ := hsteps.refers s hs param ref href
    have hrequires : s.Requires source := Or.inr ⟨param, ref, href, hrefers.takesFrom hother⟩
    exact ⟨source, output, hrefers, hids ▸ hsteps.inOrder before s rest hsplit source hrequires⟩

/-- A run keeps its ledger. -/
theorem Reached.ledger {c : Standing σ} (h : Reached b o steps [] state c) (hsteps : Chained steps)
    (hdone : ∀ call ∈ c.calls, call.Done) : Ledger o c.started c.outputs c.calls := by
  induction h using Reached.step_induction with
  | start => exact .nil o
  | next hreached hwaiting hended _ ih =>
    have hledger := ih (List.forall_mem_append.1 hdone).1
    exact hreached.ledger_append hsteps hwaiting hended hdone hledger

/-- A run of chained steps whose calls are all carried out starts its first steps, and keeps the
ledger of them: it starts all steps, or it stops at a failure; it succeeds if all that it has started
have. -/
theorem Finished.exists_ledger {made : List Call} {r : Outcome σ}
    (h : Finished b o steps [] state made r) (hsteps : Chained steps)
    (hmade : ∀ call ∈ made, call.Done) :
    ∃ started rest, r.steps = started ++ rest ∧ Ledger o started r.outputs made ∧
      r.steps.map Step.task = steps.map Step.task ∧
      (rest = [] ∨ o.continueOnError = false ∧ ∃ t ∈ started, t.status = .failure) ∧
      ((∀ t ∈ started, t.status = .success) → r.result = .ok ⟨steps.length, 0, steps.length⟩) := by
  have htasks := h.map_eq Ended.task_eq
  cases h with
  | @through c last hreached hwaiting hspoken =>
    have hall := hreached.length_eq
    rw [hwaiting, List.length_nil, Nat.add_zero] at hall
    refine ⟨c.started, [], by simp, hreached.ledger hsteps hmade, htasks, Or.inl rfl, ?_⟩
    intro hsuccess
    have htally := hreached.tally hsteps.json (List.forall_mem_nil _)
      fun call hcall => (hmade call hcall).capturedJson
    have hnone : c.progress.failures.length = 0 := by
      rw [htally.failed, List.countP_eq_zero]
      intro t ht
      simp [hsuccess t ht]
    exact htally.verdict_eq hall (List.length_eq_zero_iff.1 hnone)
  | @stopped c s rest calls stage e hreached hwaiting hended herror hno =>
    have hledger := hreached.ledger_append hsteps hwaiting hended hmade
      (hreached.ledger hsteps (List.forall_mem_append.1 hmade).1)
    obtain ⟨params, hstep, hexecution⟩ :=
      hreached.next_of_error hsteps.json (List.forall_mem_nil _) hwaiting hended
        (fun call hcall => (hmade call hcall).capturedJson) herror
    have hstatus : stage.step.status = .failure := by rw [hstep, failed_status]
    have hlast : stage.step ∈ c.started ++ [stage.step] := by simp
    refine ⟨c.started ++ [stage.step], rest, by simp, hledger, htasks,
      Or.inr ⟨?_, _, hlast, hstatus⟩, ?_⟩
    · exact Bool.eq_false_iff.2 fun hgoesOn => hno ⟨hexecution, hgoesOn⟩
    · intro hsuccess
      exact absurd hstatus (status_ne_failure (hsuccess _ hlast))

/-- Steps that could be sorted are chained if a run can read their references. -/
theorem chained_of_sorted {sorted : List Step} (hsort : (sort steps).sorted = .ok sorted)
    (hrefers : ∀ s ∈ steps, ∀ param ref, (param, ref) ∈ s.outputRefs →
      ∃ source output, Refers ref source output ∧ source ≠ s.id)
    (hkeys : ∀ s ∈ steps, (s.outputRefs.map Prod.fst).Nodup) (hjson : ∀ s ∈ steps, s.IsJson) :
    Chained sorted := by
  obtain ⟨hperm, horder⟩ := perm_and_inOrder_of_sorted hsort
  have hfrom : ∀ t ∈ sorted, ∃ s ∈ steps, s.withSources = t := fun t ht =>
    List.mem_map.1 (hperm.mem_iff.1 ht)
  refine ⟨nodup_ids_of_sorted hsort, horder, ?_, ?_, ?_⟩
  · intro t ht
    obtain ⟨s, hs, rfl⟩ := hfrom t ht
    exact hrefers s hs
  · intro t ht
    obtain ⟨s, hs, rfl⟩ := hfrom t ht
    exact hkeys s hs
  · intro t ht
    obtain ⟨s, hs, rfl⟩ := hfrom t ht
    exact ⟨(hjson s hs).params, (hjson s hs).outputs⟩

section Finished

variable {made : List Call} {r : Outcome σ}

/-- A step that the run has come to, as it stops only at a failure, is supplied or wanting. -/
theorem Finished.supplied_or_wanting (h : Finished b o steps [] state made r)
    (hsteps : Chained steps) (hmade : ∀ call ∈ made, call.Done) {before : List Step} {t : Step}
    {behind : List Step} (hsplit : r.steps = before ++ t :: behind)
    (hcome : o.continueOnError = true ∨ ∀ s ∈ before, s.status = .success) :
    Supplied before t ∨ Wanting before t := by
  obtain ⟨started, rest, hall, hledger, -, hend, -⟩ := h.exists_ledger hsteps hmade
  have hpast : ∀ between, before = started ++ between → rest ≠ [] → False := by
    rintro between rfl hne
    obtain ⟨hstop, u, hu, hfailure⟩ := hend.resolve_left hne
    rcases hcome with hgoesOn | hsuccess
    · rw [hstop] at hgoesOn
      cases hgoesOn
    · exact status_ne_failure (hsuccess u (List.mem_append_left _ hu)) hfailure
  rcases List.append_eq_append_iff.1 (hall.symm.trans hsplit) with
    ⟨between, hbefore, hrest⟩ | ⟨front, hstarted, hbehind⟩
  · exact (hpast between hbefore (by simp [hrest])).elim
  · cases front with
    | nil =>
      have hbefore : before = started ++ [] := by rw [hstarted, List.append_nil, List.append_nil]
      have hrest : rest ≠ [] := by
        rintro rfl
        cases hbehind
      exact (hpast [] hbefore hrest).elim
    | cons u front =>
      obtain ⟨rfl, -⟩ := List.cons_eq_cons.1 hbehind
      exact hledger.steps before t front hstarted

/-- A run succeeds, or there is a first step that is wanting. -/
theorem Finished.ok_or_wanting (h : Finished b o steps [] state made r) (hsteps : Chained steps)
    (hmade : ∀ call ∈ made, call.Done) :
    r.result = .ok ⟨steps.length, 0, steps.length⟩ ∨
      ∃ before t behind, r.steps = before ++ t :: behind ∧
        (∀ s ∈ before, s.status = .success) ∧ Wanting before t := by
  obtain ⟨started, rest, hall, hledger, -, -, hresult⟩ := h.exists_ledger hsteps hmade
  rcases hledger.all_success_or_wanting with hsuccess | ⟨before, t, behind, hsplit, hbefore, hwanting⟩
  · exact Or.inl (hresult hsuccess)
  · refine Or.inr ⟨before, t, behind ++ rest, ?_, hbefore, hwanting⟩
    rw [hall, hsplit, List.append_assoc, List.cons_append]

/-- If the step of every reference ends with the output that is meant, every step is supplied. -/
theorem Finished.supplied (h : Finished b o steps [] state made r) (hsteps : Chained steps)
    (hmade : ∀ call ∈ made, call.Done)
    (hheld : ∀ t ∈ r.steps, ∀ param ref source output, (param, ref) ∈ t.outputRefs →
      Refers ref source output → ∃ s ∈ r.steps, s.id = source ∧ ∃ v, s.Holds output v) :
    r.result = .ok ⟨steps.length, 0, steps.length⟩ ∧
    (∀ before t behind, r.steps = before ++ t :: behind → Supplied before t) ∧
    made.map Call.request = if o.dryRun then [] else r.steps.map request := by
  obtain ⟨started, rest, hall, hledger, htasks, hend, hresult⟩ := h.exists_ledger hsteps hmade
  have hnodup : (ids r.steps).Nodup := ids_eq_of_tasks_eq htasks ▸ hsteps.nodup
  have hsuccess : ∀ t ∈ started, t.status = .success := by
    refine hledger.all_success_or_wanting.resolve_right ?_
    rintro ⟨before, t, behind, hsplit, hbefore, hwanting⟩
    obtain ⟨param, ref, source, output, e, href, hrefers, -, -, s, hs, hid, -, hlacks⟩ :=
      hwanting.missing
    have ht : t ∈ r.steps := by simp [hall, hsplit]
    have hs' : s ∈ r.steps := by simp [hall, hsplit, hs]
    obtain ⟨s', hmem, hid', v, hholds⟩ := hheld t ht param ref source output href hrefers
    obtain rfl : s' = s := eq_of_id_eq hnodup hmem hs' (hid'.trans hid.symm)
    exact hlacks (hbefore s' hs) v hholds
  obtain rfl : rest = [] := by
    refine hend.resolve_right ?_
    rintro ⟨-, t, ht, hfailure⟩
    exact status_ne_failure (hsuccess t ht) hfailure
  rw [List.append_nil] at hall
  refine ⟨hresult hsuccess, ?_, ?_⟩
  · intro before t behind hsplit
    rw [hall] at hsplit
    refine (hledger.steps before t behind hsplit).resolve_right fun hwanting => ?_
    exact status_ne_failure (hsuccess t (hsplit ▸ by simp)) hwanting.status
  · have hkept : started.filter (·.status = .success) = started :=
      List.filter_eq_self.2 fun t ht => by simp [hsuccess t ht]
    rw [hledger.calls, hkept, hall]

end Finished

/-- A dry run of chained steps succeeds if every output that they refer to has been declared, and fills
it in. -/
theorem Chained.run_dry (hsteps : Chained steps) (b : Backend σ) (state : σ)
    (hdry : o.dryRun = true)
    (hdeclared : ∀ t ∈ steps, ∀ param ref source output, (param, ref) ∈ t.outputRefs →
      Refers ref source output → ∃ s ∈ steps, s.id = source ∧ ∃ v, s.Holds output v) :
    (run b o steps [] state).result = .ok ⟨steps.length, 0, steps.length⟩ ∧
    ∀ t ∈ steps, ∃ t' ∈ (run b o steps [] state).steps, t'.id = t.id ∧
      ∀ param ref source output, (param, ref) ∈ t.outputRefs → Refers ref source output →
        ∃ s ∈ steps, s.id = source ∧ ∃ v, s.Holds output v ∧ lookupField t'.params param = some v := by
  obtain ⟨made, hfinished⟩ := run_finished b o steps [] state
  obtain rfl := hfinished.calls_eq_nil hdry
  generalize run b o steps [] state = r at hfinished ⊢
  have hkept : r.steps.map (fun s => (s.id, s.outputRefs, s.outputs)) =
      steps.map fun s => (s.id, s.outputRefs, s.outputs) := by
    refine hfinished.map_eq fun hended => ?_
    rw [hended.id_eq, hended.outputRefs_eq, (hended.of_dry hdry).2]
  have hforth : ∀ t ∈ steps, ∃ t' ∈ r.steps, t'.id = t.id ∧ t'.outputRefs = t.outputRefs ∧
      t'.outputs = t.outputs := by
    intro t ht
    obtain ⟨t', ht', heq⟩ := List.mem_map.1 (hkept ▸ List.mem_map_of_mem ht)
    exact ⟨t', ht', by simpa using heq⟩
  have hback : ∀ t' ∈ r.steps, ∃ t ∈ steps, t.id = t'.id ∧ t.outputRefs = t'.outputRefs ∧
      t.outputs = t'.outputs := by
    intro t' ht'
    obtain ⟨t, ht, heq⟩ := List.mem_map.1 (hkept ▸ List.mem_map_of_mem ht')
    exact ⟨t, ht, by simpa using heq⟩
  obtain ⟨hresult, hsupplied, -⟩ := hfinished.supplied hsteps (List.forall_mem_nil _) (by
    intro t' ht' param ref source output href hrefers
    obtain ⟨t, ht, -, hrefs, -⟩ := hback t' ht'
    obtain ⟨s, hs, hid, v, fields, houtputs, hv⟩ :=
      hdeclared t ht param ref source output (hrefs ▸ href) hrefers
    obtain ⟨s', hs', hid', -, houtputs'⟩ := hforth s hs
    exact ⟨s', hs', hid'.trans hid, v, fields, houtputs'.trans houtputs, hv⟩)
  refine ⟨hresult, fun t ht => ?_⟩
  obtain ⟨t', ht', hid, hrefs, -⟩ := hforth t ht
  refine ⟨t', ht', hid, fun param ref source output href hrefers => ?_⟩
  obtain ⟨before, behind, hsplit⟩ := List.append_of_mem ht'
  obtain ⟨s', hs', hsource, -, v, ⟨fields, houtputs, hv⟩, hparam⟩ :=
    (hsupplied before t' behind hsplit).params param ref source output (hrefs ▸ href) hrefers
  obtain ⟨s, hs, hid', -, houtputs'⟩ := hback s' (hsplit ▸ List.mem_append_left _ hs')
  exact ⟨s, hs, hid'.trans hsource, v, ⟨fields, houtputs'.trans houtputs, hv⟩, hparam⟩

/-- A run of sorted steps whose references can be read, and whose actions are all there and do not
fail, hands their outputs over.  Each step that it comes to has been supplied, or it fails for an
output that a step before it has not left; nothing else fails.  If every output that is referred to
is held in the end by its step, the run succeeds and calls every action with what its step has been
supplied with. -/
theorem run_sorted_supplied {sorted : List Step} {r : Outcome σ}
    (hsort : (sort steps).sorted = .ok sorted)
    (hrefers : ∀ s ∈ steps, ∀ param ref, (param, ref) ∈ s.outputRefs →
      ∃ source output, Refers ref source output ∧ source ≠ s.id)
    (hkeys : ∀ s ∈ steps, (s.outputRefs.map Prod.fst).Nodup) (hjson : ∀ s ∈ steps, s.IsJson)
    (hreal : o.dryRun = false) (hdone : ∀ call ∈ calls b o sorted [] state, call.Done)
    (hrun : run b o sorted [] state = r) :
    r.steps.map Step.task = sorted.map Step.task ∧
    (∀ before t behind, r.steps = before ++ t :: behind →
      (o.continueOnError = true ∨ ∀ s ∈ before, s.status = .success) →
      Supplied before t ∨ Wanting before t) ∧
    (r.result = .ok ⟨sorted.length, 0, sorted.length⟩ ∨
      ∃ before t behind, r.steps = before ++ t :: behind ∧
        (∀ s ∈ before, s.status = .success) ∧ Wanting before t) ∧
    ((∀ t ∈ r.steps, ∀ param ref source output, (param, ref) ∈ t.outputRefs →
        Refers ref source output → ∃ s ∈ r.steps, s.id = source ∧ ∃ v, s.Holds output v) →
      r.result = .ok ⟨sorted.length, 0, sorted.length⟩ ∧
      (∀ before t behind, r.steps = before ++ t :: behind → Supplied before t) ∧
      (calls b o sorted [] state).map Call.request = r.steps.map request) := by
  have hchained := chained_of_sorted hsort hrefers hkeys hjson
  obtain ⟨r', hfinished, hplain⟩ := exists_finished_calls b o sorted [] state
  obtain rfl : r'.plain = r := hplain.trans hrun
  obtain ⟨-, -, -, -, htasks, -⟩ := hfinished.exists_ledger hchained hdone
  refine ⟨htasks, ?_, hfinished.ok_or_wanting hchained hdone, ?_⟩
  · intro before t behind hsplit hcome
    exact hfinished.supplied_or_wanting hchained hdone hsplit hcome
  · intro hheld
    obtain ⟨hresult, hsupplied, hcalls⟩ := hfinished.supplied hchained hdone hheld
    rw [hreal, if_neg Bool.false_ne_true] at hcalls
    exact ⟨hresult, hsupplied, hcalls⟩

theorem refers_publishStep : Refers "draft.page" "draft" "page" :=
  ⟨by decide, by decide, by decide, by decide, by decide⟩

theorem sort_publishStep_draftStep :
    (sort [publishStep, draftStep]).sorted = .ok [draftStep, publishStep.withSources] := by
  have hsources : publishStep.withSources =
      ⟨"publish", "upload", [], "", ["draft"], none, [("from", "draft.page")], .pending, none⟩ := rfl
  have hsort : (sort [publishStep, draftStep]).sorted =
      arrange [publishStep.withSources, draftStep] := rfl
  rw [hsort, hsources]
  cbv

/-- The page is rendered first, though its step comes last, and is published. -/
theorem run_sorted_supplied_publish :
    (sort [publishStep, draftStep]).sorted = .ok [draftStep, publishStep.withSources] ∧
    (run rendering .default [draftStep, publishStep.withSources] [] ()).result = .ok ⟨2, 0, 2⟩ ∧
    (calls rendering .default [draftStep, publishStep.withSources] [] ()).map Call.request =
      [("render", []), ("upload", [("from", .text "index")])] := by
  have hsort := sort_publishStep_draftStep
  have hrefers : ∀ s ∈ [publishStep, draftStep], ∀ param ref, (param, ref) ∈ s.outputRefs →
      ∃ source output, Refers ref source output ∧ source ≠ s.id := by
    intro s hs param ref href
    rcases List.mem_cons.1 hs with rfl | hs
    · obtain ⟨-, rfl⟩ := Prod.mk.inj (List.mem_singleton.1 href)
      exact ⟨"draft", "page", refers_publishStep, by decide⟩
    · obtain rfl := List.mem_singleton.1 hs
      cases href
  have hkeys : ∀ s ∈ [publishStep, draftStep], (s.outputRefs.map Prod.fst).Nodup := by decide
  have hjson : ∀ s ∈ [publishStep, draftStep], s.IsJson := by
    intro s hs
    rcases List.mem_cons.1 hs with rfl | hs
    · exact .of_empty rfl rfl
    · obtain rfl := List.mem_singleton.1 hs
      exact .of_empty rfl rfl
  have hdone : ∀ call ∈ calls rendering .default [draftStep, publishStep.withSources] [] (),
      call.Done := by
    intro call hcall
    have hcalls : call ∈ [(⟨"render", [], .done (some [("page", .text "index")])⟩ : Call),
        ⟨"upload", [("from", .text "index")], .done none⟩] := hcall
    rcases List.mem_cons.1 hcalls with rfl | hcalls
    · refine ⟨_, rfl, ?_⟩
      intro fields hfields e he
      obtain rfl := Option.some.inj hfields
      obtain rfl := List.mem_singleton.1 he
      exact .text "index"
    · obtain rfl := List.mem_singleton.1 hcalls
      refine ⟨none, rfl, fun fields hnone => ?_⟩
      cases hnone
  obtain ⟨-, -, -, hsupplied⟩ :=
    run_sorted_supplied hsort hrefers hkeys hjson rfl hdone rfl
  have hheld := hsupplied (by
    intro t ht param ref source output href hreads
    have hsteps : t ∈ [succeeded draftStep [] (some [("page", .text "index")]),
        succeeded publishStep.withSources [("from", .text "index")] none] := ht
    rcases List.mem_cons.1 hsteps with rfl | hsteps
    · cases href
    · obtain rfl := List.mem_singleton.1 hsteps
      obtain ⟨-, rfl⟩ := Prod.mk.inj (List.mem_singleton.1 href)
      obtain ⟨rfl, rfl⟩ := hreads.unique refers_publishStep
      exact ⟨_, List.mem_cons_self, rfl, _, _, rfl, rfl⟩)
  exact ⟨hsort, hheld.1, hheld.2.2⟩

end Remediation.Execution
