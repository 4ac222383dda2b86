import Remediation.Execution.Live
import Remediation.Plan.Storage
import Remediation.Proofs.Building.Documents
import Remediation.Proofs.Checked
import Remediation.Proofs.Execution.Course
import Remediation.Proofs.Json.Reading
import Remediation.Proofs.Plan.Document
/-!
# Stored plans that are run

The steps of a plan that is read from a document have JSON values for parameters and outputs, and
command line tools capture JSON values alone.  So a run of a stored plan fails for no other reason than
a fault of execution (`isJson_and_failsAs_runPlan`), and what has become of the plan can be stored again, however
the run has ended (`exists_fileText`).
-/

set_option autoImplicit false

namespace Remediation

/-! ## Plans that are read -/

namespace Checked

variable {v : Value} {fields : Fields}

theorem areJson_of_fields (hv : v.IsJson) (h : Checked.fields v = .ok fields) : fields.AreJson := by
  unfold Checked.fields table at h
  split at h
  next es =>
    cases hv with
    | map _ hvalues =>
      intro f hf
      rcases exists_of_mem_entries h f hf with hnone | ⟨e, he, hany⟩
      · cases hnone
      · exact Except.ok.inj hany ▸ hvalues e he
  next => cases h

theorem areJson_of_optional (hv : v.IsJson) (h : optional Checked.fields v = .ok (some fields)) :
    fields.AreJson := by
  unfold optional at h
  split at h
  · cases h
  · obtain ⟨found, hfound, heq⟩ := map_eq_ok_iff.1 h
    obtain rfl := Option.some.inj heq
    exact areJson_of_fields hv hfound

end Checked

/-- A step that is read from JSON values has no others. -/
theorem Step.isJson_of_check {v : Value} {s : Step} (hv : v.IsJson) (h : Step.check v = .ok s) :
    s.IsJson := by
  unfold Step.check at h
  split at h
  next es =>
    have hvalues : ∀ e ∈ es, e.2.IsJson := by
      cases hv with
      | map _ hvalues => exact hvalues
    simp only [Checked.apply_eq_ok_iff] at h
    obtain ⟨_, error, ⟨_, status, ⟨_, refs, ⟨_, outputs, ⟨_, deps, ⟨_, reason, ⟨_, params,
      ⟨_, action, hid, -, rfl⟩, hparams, rfl⟩, -, rfl⟩, -, rfl⟩, houtputs, rfl⟩, -, rfl⟩, -, rfl⟩,
      -, rfl⟩ := h
    obtain ⟨id, -, rfl⟩ := Checked.map_eq_ok_iff.1 hid
    constructor
    · rcases Checked.eq_absent_or_of_field hparams with rfl | ⟨e, he, hfields⟩
      · exact List.forall_mem_nil _
      · exact Checked.areJson_of_fields (hvalues e he) hfields
    · rintro found rfl
      rcases Checked.eq_absent_or_of_field houtputs with hnone | ⟨e, he, hfields⟩
      · cases hnone
      · exact Checked.areJson_of_optional (hvalues e he) hfields
  next => cases h

namespace Plan

variable {p : Plan}

theorem isJson_of_read {v : Value} (hv : v.IsJson) (h : Plan.read v = .ok p) :
    ∀ s ∈ p.steps, s.IsJson := by
  cases hcheck : Plan.check v with
  | error problems =>
    rw [Plan.read, hcheck] at h
    cases h
  | ok found =>
    rw [Plan.read, hcheck] at h
    obtain rfl := Except.ok.inj h
    unfold Plan.check at hcheck
    split at hcheck
    next es =>
      simp only [Checked.apply_eq_ok_iff] at hcheck
      obtain ⟨_, steps, ⟨_, repository, hproject, -, rfl⟩, hsteps, rfl⟩ := hcheck
      obtain ⟨project, -, rfl⟩ := Checked.map_eq_ok_iff.1 hproject
      rcases Checked.eq_absent_or_of_field hsteps with rfl | ⟨⟨k, w⟩, he, hlist⟩
      · exact List.forall_mem_nil _
      · cases hv with
        | map _ hvalues =>
          have hw : w.IsJson := hvalues _ he
          cases hw with
          | list hitems =>
            intro s hs
            obtain ⟨u, hu, hstep⟩ := Checked.exists_of_mem_items hlist s hs
            exact Step.isJson_of_check (hitems u hu) hstep
          | _ => cases hlist
    next => cases hcheck

/-- The steps of a stored plan hold JSON values alone. -/
theorem isJson_of_load {w : Workspace} {path : String} (h : Plan.load w path = .ok p) :
    ∀ s ∈ p.steps, s.IsJson := by
  simp only [Plan.load] at h
  split at h
  next => cases h
  next =>
    split at h
    next => cases h
    next hparse =>
      obtain rfl := Except.ok.inj h
      unfold Plan.parse at hparse
      split at hparse
      next hread => exact isJson_of_read (Json.isJson_of_read hread) hparse
      next => cases hparse

/-- A plan is loaded from a file, or its fault is one of plans, or the file has no text. -/
theorem failsAs_load (w : Workspace) (path : String) :
    FailsAs (fun e => e.kind = .plan ∨
      w.readText (Path.parse path) = .error e ∧ Workspace.Illegible e) (Plan.load w path) := by
  unfold Plan.load
  dsimp only
  split
  next e hread =>
    split
    · exact .error (.inl rfl)
    next hfile =>
      exact .error (.inr ⟨hread, (w.failsAs_readText _ e hread).resolve_left hfile⟩)
  next =>
    split
    · exact .error (.inl rfl)
    · exact .ok _

/-! ## Plans that are written -/

theorem exists_mapM_toJson {steps : List Step} (h : ∀ s ∈ steps, s.IsJson) :
    ∃ js, steps.mapM Step.toJson = .ok js := by
  induction steps with
  | nil => exact ⟨[], rfl⟩
  | cons s rest ih =>
    obtain ⟨hs, hrest⟩ := List.forall_mem_cons.1 h
    obtain ⟨params, hparams⟩ := hs.params.ofFields.exists_toJson (c := documentConvention)
    obtain ⟨outputs, houtputs⟩ : ∃ outputs, s.outputs.mapM fieldsJson = .ok outputs := by
      cases hsome : s.outputs with
      | none => exact ⟨none, rfl⟩
      | some fields =>
        obtain ⟨j, hj⟩ := (hs.outputs fields hsome).ofFields.exists_toJson (c := documentConvention)
        exact ⟨some j, by rw [Option.mapM_some, fieldsJson, hj]; rfl⟩
    obtain ⟨js, hjs⟩ := ih hrest
    refine ⟨.map (s.record params outputs) :: js, ?_⟩
    rw [List.mapM_cons, Step.toJson_eq_record hparams houtputs, hjs]
    rfl

/-- A plan of JSON values can be stored. -/
theorem exists_fileText (h : ∀ s ∈ p.steps, s.IsJson) : ∃ text, p.fileText = .ok text := by
  obtain ⟨js, hjs⟩ := exists_mapM_toJson h
  exact ⟨_, by rw [fileText, render, toJson, hjs]; rfl⟩

end Plan

/-! ## Actions -/

namespace Action

variable {s later : Session}

/-- An action that captures JSON values alone, if it captures anything. -/
def CapturesJson (a : Action) : Prop :=
  ∀ capture, a.capture = some capture → ∀ params s captured later,
    (capture params).run.run s = (.ok captured, later) → captured.AreJson

theorem OutputParser.isJson_of_parse {p : OutputParser} {printed : String} {v : Value}
    (h : p.parse printed = .ok v) : v.IsJson := by
  cases p with
  | json path =>
    unfold parse parseJson at h
    simp only at h
    split at h
    next => cases h
    next j hread =>
      have hj := Json.isJson_of_read hread
      split at h
      next => exact Except.ok.inj h ▸ hj
      next =>
        split at h
        next path _ =>
          cases hfollow : j.follow path with
          | error e =>
            rw [hfollow] at h
            cases h
          | ok found =>
            rw [hfollow] at h
            exact Except.ok.inj h ▸ Json.isJson_of_follow hj hfollow
        next => cases h
  | text pattern =>
    unfold parse parseText findText at h
    simp only at h
    repeat' split at h
    all_goals cases h
    all_goals first | exact .text _ | exact .null

theorem Tool.areJson_of_parseOutputs {name printed : String} {parsers : List (String × OutputParser)}
    {found captured : Fields} (hfound : found.AreJson)
    (h : (parseOutputs name printed parsers found).run.run s = (.ok captured, later)) :
    captured.AreJson := by
  induction parsers generalizing found s with
  | nil =>
    obtain rfl := Except.ok.inj (congrArg Prod.fst h)
    exact hfound
  | cons first rest ih =>
    obtain ⟨output, p⟩ := first
    rw [parseOutputs] at h
    split at h
    next v hparse => exact ih (hfound.setField (OutputParser.isJson_of_parse hparse)) h
    next =>
      split at h
      · obtain ⟨_, between, -, hrest⟩ := Work.exists_of_run_bind_eq_ok h
        exact ih hfound hrest
      · cases h

theorem capturesJson_ofTool (t : Tool) (captures : Bool) : (ofTool t captures).CapturesJson := by
  intro capture hcapture params s captured later h
  cases captures with
  | false => cases hcapture
  | true =>
    obtain rfl := Option.some.inj hcapture
    obtain ⟨printed, between, -, hparsed⟩ := Work.exists_of_run_bind_eq_ok h
    exact Tool.areJson_of_parseOutputs (List.forall_mem_nil _) hparsed

theorem capturesJson_of_makeTool {c : Context} {d : Definition} {a : Action}
    (h : (makeTool c d).run.run s = (.ok a, later)) : a.CapturesJson := by
  unfold makeTool at h
  split at h
  · cases h
  · obtain ⟨_, between, -, hlast⟩ := Work.exists_of_run_bind_eq_ok h
    obtain rfl := Except.ok.inj (congrArg Prod.fst hlast)
    exact capturesJson_ofTool _ _

/-- The actions that are always there capture JSON values alone. -/
theorem capturesJson_of_resolve {c : Context} {name : String} {a : Action}
    (h : (resolve (defaultMakers c) name).run.run s = (.ok a, later)) : a.CapturesJson := by
  obtain ⟨d, between, -, hmake⟩ := Work.exists_of_run_bind_eq_ok h
  rw [ExceptT.run_tryCatch, StateT.run_bind] at hmake
  rcases hrun : (make (defaultMakers c) d).run.run between with ⟨e | made, next⟩
  · rw [hrun] at hmake
    cases hmake
  · rw [hrun] at hmake
    obtain rfl := Except.ok.inj (congrArg Prod.fst hmake)
    unfold make at hrun
    split at hrun
    next maker hlookup =>
      simp only [defaultMakers, List.lookup_cons, List.lookup_nil] at hlookup
      split at hlookup
      next =>
        obtain rfl := Option.some.inj hlookup
        exact capturesJson_of_makeTool hrun
      next => cases hlookup
    next => cases hrun

end Action

/-! ## Runs -/

namespace Execution

variable {σ : Type} {b : Backend σ} {o : RunOptions} {steps : List Step}

theorem capturesJson_live (c : Action.Context) : (live (Action.defaultMakers c)).CapturesJson := by
  intro name params s captured later h
  obtain ⟨resolved, between, hresolve, hrest⟩ := Work.exists_of_state_bind_eq h
  cases resolved with
  | error e => cases hrest
  | ok action =>
    dsimp only at hrest
    cases hcapture : action.capture with
    | none =>
      rw [hcapture] at hrest
      obtain ⟨done, _, -, hlast⟩ := Work.exists_of_state_bind_eq hrest
      cases done <;> cases hlast
    | some capture =>
      rw [hcapture] at hrest
      obtain ⟨done, _, hdone, hlast⟩ := Work.exists_of_state_bind_eq hrest
      cases done with
      | error e => cases hlast
      | ok found =>
        cases hlast
        exact Action.capturesJson_of_resolve hresolve capture hcapture _ _ _ _ hdone

/-- The steps that a run of JSON values has started hold no others. -/
theorem Ended.isJson {s : Step} {table : Outputs} {state : σ} {calls : List Call} {stage : Stage σ}
    (h : Ended b o s table state calls stage) (hs : s.IsJson) (htable : table.AreJson)
    (hcalls : ∀ call ∈ calls, call.CapturedJson) : stage.step.IsJson := by
  have hfilled {params : Fields} {missing : Option ReferenceFault}
      (hfill : fill table s.params s.outputRefs = (params, missing)) : params.AreJson := by
    have hparams : (fill table s.params s.outputRefs).1.AreJson := areJson_fill htable hs.params
    rwa [hfill] at hparams
  cases h with
  | unfilled hfill | unshown _ hfill | refused _ hfill => exact ⟨hfilled hfill, hs.outputs⟩
  | shown _ hfill => exact ⟨hfilled hfill, hs.outputs⟩
  | unannounced _ hfill | carriedOut _ hfill =>
    refine ⟨by simpa using hfilled hfill, outputs_succeeded_areJson hs ?_⟩
    intro fields heq
    exact hcalls _ (List.mem_singleton_self _) fields (by rw [heq])

theorem Reached.isJson {c : Standing σ} {state : σ} (hb : b.CapturesJson)
    (hsteps : ∀ s ∈ steps, s.IsJson) (h : Reached b o steps [] state c) :
    ∀ s ∈ c.started, s.IsJson := by
  induction h using Reached.step_induction with
  | start => exact List.forall_mem_nil _
  | next hreached hwaiting hended _ ih =>
    have hs := hsteps _ (hreached.mem_of_waiting (hwaiting ▸ List.mem_cons_self))
    have htable := hreached.areJson hsteps (List.forall_mem_nil _) (hreached.capturedJson hb)
    exact List.forall_mem_append.2 ⟨ih, List.forall_mem_singleton.2
      (hended.isJson hs htable (hended.capturedJson hb))⟩

/-- What a run of JSON values leaves holds no others, and it fails for a fault of execution alone. -/
theorem isJson_and_failsAs_run (hb : b.CapturesJson) (hsteps : ∀ s ∈ steps, s.IsJson)
    (o : RunOptions) (state : σ) :
    (∀ s ∈ (run b o steps [] state).steps, s.IsJson) ∧
      FailsAs (fun e => e.kind.isExecution = true) (run b o steps [] state).result := by
  obtain ⟨calls, hfinished⟩ := run_finished b o steps [] state
  generalize run b o steps [] state = r at hfinished
  have hnone : Outputs.AreJson [] := List.forall_mem_nil _
  cases hfinished with
  | @through c _ hreached _ _ =>
    refine ⟨hreached.isJson hb hsteps, ?_⟩
    unfold Progress.verdict
    split
    · exact .ok _
    · exact .error rfl
  | stopped hreached hwaiting hended herror _ =>
    have hcaptured := hreached.capturedJson hb
    have hcalls := hended.capturedJson hb
    have hs := hsteps _ (hreached.mem_of_waiting (hwaiting ▸ List.mem_cons_self))
    obtain ⟨params, -, hexecution⟩ := hreached.next_of_error hsteps hnone hwaiting hended
      (List.forall_mem_append.2 ⟨hcaptured, hcalls⟩) herror
    refine ⟨?_, .error hexecution⟩
    refine List.forall_mem_append.2 ⟨hreached.isJson hb hsteps, List.forall_mem_cons.2 ⟨?_, ?_⟩⟩
    · exact hended.isJson hs (hreached.areJson hsteps hnone hcaptured) hcalls
    · intro s hrest
      exact hsteps s (hreached.mem_of_waiting (hwaiting ▸ List.mem_cons_of_mem _ hrest))

/-- A run of a stored plan by the actions that are always there leaves a plan of JSON values, and fails
for a fault of execution alone. -/
theorem isJson_and_failsAs_runPlan {c : Action.Context} {p : Plan} (hsteps : ∀ s ∈ p.steps, s.IsJson)
    (o : RunOptions) (session : Session) {ended : Plan} {result : Except Fault Summary}
    {later : Session}
    (h : (runPlan (some (Action.defaultMakers c)) o p).run session = ((ended, result), later)) :
    (∀ s ∈ ended.steps, s.IsJson) ∧ FailsAs (fun e => e.kind.isExecution = true) result := by
  obtain ⟨hrun, -⟩ := Prod.mk.inj h
  obtain ⟨rfl, rfl⟩ := Prod.mk.inj hrun
  exact isJson_and_failsAs_run (capturesJson_live c) hsteps o session

end Execution

end Remediation
