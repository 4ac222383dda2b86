import Mathlib
import Remediation.CommandLine
import Remediation.Proofs.CommandLine.Escape
/-!
# How a run of the program ends

Whatever its command line and its surroundings are, a run of the program ends with status zero, one, two
or 130, or for a fault that is not reported (`run_ends`).  What a command reports and what escapes from
it is read off from what can stop its parts.

Some faults do escape: a repository that is not there (`run_infer_missing`), and a plan whose file has
no text (`run_of_illegible`).
-/

set_option autoImplicit false

namespace Remediation

open Workspace (Homeless)

namespace CommandLine

variable {settings : Settings} {verbose : Bool} {s : Session}

/-! ## Commands -/

theorem failsAs_prepare (settings : Settings) (workingDir : String) (verbose : Bool) :
    Work.FailsAs Homeless (prepare settings workingDir verbose) := by
  refine Work.FailsAs.workspace.bind fun w => (Work.FailsAs.lift ?_).bind fun paths =>
    (Work.FailsAs.act _).bind fun _ => .pure _
  exact FailsAs.mapM fun entry => (w.failsAs_expand _).map _

/-- The makers that are prepared are those that are always there. -/
theorem exists_of_prepare {workingDir : String} {makers : Action.Makers} {later : Session}
    (h : (prepare settings workingDir verbose).run.run s = (.ok makers, later)) :
    ∃ c, makers = Action.defaultMakers c := by
  obtain ⟨w, s, -, h⟩ := Work.exists_of_run_bind_eq_ok h
  obtain ⟨paths, s, -, h⟩ := Work.exists_of_run_bind_eq_ok h
  obtain ⟨_, s, -, h⟩ := Work.exists_of_run_bind_eq_ok h
  exact ⟨_, (Except.ok.inj (congrArg Prod.fst h)).symm⟩

/-- A fault that a command reports, or that escapes from it. -/
def Fails (w : Workspace) (c : Command) (e : Fault) : Prop := c.Reports e.kind ∨ c.Escapes w e

theorem failsAs_validate (path : String) (s : Session) :
    FailsAs (Fails s.workspace (.validate path)) ((validate path).run.run s).1 := by
  refine Work.FailsAs.of_workspace ?_
  refine (Work.FailsAs.lift ((Plan.failsAs_load s.workspace path).imp ?_)).bind fun plan => ?_
  · rintro e (hkind | hillegible)
    · exact .inl (by rw [hkind]; rfl)
    · exact .inr hillegible
  · exact (Work.FailsAs.lift (plan.failsAs_validate.imp fun e => .inl)).bind fun _ => .printLine _

theorem failsAs_graph (path html : String) (s : Session) :
    FailsAs (Fails s.workspace (.graph path html)) ((graph path html).run.run s).1 := by
  refine Work.FailsAs.of_workspace ?_
  refine (Work.FailsAs.lift ((Plan.failsAs_load s.workspace path).imp ?_)).bind fun plan => ?_
  · exact fun e => Or.imp id id
  · refine Work.FailsAs.bind (Work.FailsAs.forM Work.FailsAs.printLine) fun _ => ?_
    split
    · exact (Work.FailsAs.act _).bind fun _ => .printLine _
    · exact .pure _

theorem failsAs_infer (repository : String) (s : Session) :
    FailsAs (Fails s.workspace (.infer repository)) ((infer repository).run.run s).1 := by
  refine Work.FailsAs.bind_of ((Repository.failsAs_explore _).imp fun e => .inr)
    (fun told s later htold => ?_) s
  obtain ⟨text, htext⟩ := (Repository.areTexts_explore htold).areJson.exists_screenText
  rw [htext]
  exact .printLine _

theorem failsAs_actions (settings : Settings) (s : Session) :
    FailsAs (Fails s.workspace .actions) ((actions settings).run.run s).1 := by
  have hprepare : Work.FailsAs (Fails s.workspace .actions) (prepare settings "" false) :=
    (failsAs_prepare settings "" false).imp fun e he => .inr (.inl he)
  refine hprepare.discard.bind (fun _ => (Work.FailsAs.act _).bind fun session => ?_) s
  refine Work.FailsAs.workspace.bind fun w => Work.FailsAs.bind (Work.FailsAs.lift
    ((session.catalogue.failsAs_listing w).imp fun e he => .inr (.inr he))) fun listing => ?_
  refine (Work.FailsAs.forM Work.FailsAs.warn).bind fun _ => ?_
  split
  · exact .printLine _
  · exact .forM Work.FailsAs.printLine

theorem failsAs_printFacts (facts : Facts) (names : List Scalar) :
    Work.FailsAs (· = .longInteger) (printFacts facts names) := by
  induction names with
  | nil => exact .pure ()
  | cons name rest ih =>
    rw [printFacts]
    dsimp only
    split
    · exact .throw_bind rfl
    · exact (Work.FailsAs.printLine _).bind fun _ => ih

theorem failsAs_sort (scalars : List Scalar) :
    FailsAs (fun e => (∃ left right, e = .notOrdered left right) ∨
      ∃ left right, e = .momentOrder left right) (Scalar.sort scalars) := by
  have hless (a b : Scalar) : FailsAs (fun e => (∃ left right, e = .notOrdered left right) ∨
      ∃ left right, e = .momentOrder left right) (Scalar.less a b) := by
    unfold Scalar.less
    split
    · exact .ok _
    · exact .ok _
    · split
      · exact .ok _
      · exact .error (.inr ⟨_, _, rfl⟩)
    · split
      · exact .ok _
      · exact .error (.inl ⟨_, _, rfl⟩)
  refine FailsAs.map ?_ _
  fun_induction Scalar.checkOrder scalars with
  | case1 a b rest e herror => exact .error (hless b a e herror)
  | case2 a b rest _ _ ih => exact ih
  | case3 => exact .ok ()

theorem failsAs_printRequired (facts : Facts) (path : String) :
    Work.FailsAs (fun e => e.kind = .ruleStructure ∨ RuleFile.Unnamed e)
      (printRequired facts path) := by
  refine Work.FailsAs.workspace.bind fun w =>
    (Work.FailsAs.lift (RuleFile.failsAs_load w _)).bind fun rules => ?_
  refine (Work.FailsAs.printLine _).bind fun _ => (Work.FailsAs.printLine _).bind fun _ => ?_
  split
  · exact .printLine _
  · exact .pure _

theorem failsAs_params (settings : Settings) (repository defaults rules : String) (s : Session) :
    FailsAs (Fails s.workspace (.params repository defaults rules))
      ((params settings repository defaults rules).run.run s).1 := by
  refine Work.FailsAs.bind ((Gathering.failsAs_gather [] _).imp fun e he => .inr (.inl he))
    (fun facts => ?_) s
  refine (Work.FailsAs.printLine _).bind fun _ => ?_
  refine (Work.FailsAs.lift ((failsAs_sort _).imp fun e he => .inr (.inr (.inr (.inr he))))).bind
    fun names => ?_
  refine ((failsAs_printFacts facts names).imp fun e he => .inr (.inr (.inr (.inl he)))).bind
    fun _ => ?_
  split
  · exact (failsAs_printRequired facts rules).imp fun e he => he.imp id fun h => .inr (.inl h)
  · exact .pure _

theorem failsAs_execute (settings : Settings) (verbose : Bool) (a : ExecuteArguments) (s : Session) :
    FailsAs (Fails s.workspace (.execute a)) ((execute settings verbose a).run.run s).1 := by
  refine Work.FailsAs.of_workspace ?_
  refine Work.FailsAs.bind_of (Work.FailsAs.lift ((Plan.failsAs_load s.workspace a.plan).imp ?_))
    fun plan t later hload => ?_
  · rintro e (hkind | hillegible)
    · exact .inl (.inl (by rw [hkind]; rfl))
    · exact .inr (.inl hillegible)
  have hplan := Plan.isJson_of_load (Work.eq_of_run_lift hload)
  refine (Work.FailsAs.lift (plan.failsAs_validate.imp fun e he => .inl (.inl he))).bind fun _ => ?_
  refine Work.FailsAs.bind_of ((failsAs_prepare settings _ verbose).imp fun e he =>
    .inr (.inr (.inl he))) fun makers t later hprepare => ?_
  obtain ⟨context, rfl⟩ := exists_of_prepare hprepare
  have hrun : Work.FailsAs (Fails s.workspace (.execute a)) (do
      let ran ← Execution.runPlan (some (Action.defaultMakers context))
        ⟨a.dryRun, verbose, a.continueOnError, orElse a.workingDir settings.workingDir⟩ plan
      if a.statusFile ≠ "" then ran.1.write a.statusFile
      discard ran.2) := by
    refine Work.FailsAs.bind_of (.act _) fun ran t later hran => ?_
    obtain ⟨ended, result⟩ := ran
    obtain ⟨hended, hresult⟩ :=
      Execution.isJson_and_failsAs_runPlan hplan _ t (Work.eq_of_run_act hran)
    obtain ⟨text, htext⟩ := Plan.exists_fileText hended
    have hdiscard : Work.FailsAs (Fails s.workspace (.execute a))
        (discard (liftM result) : Work Unit) :=
      (Work.FailsAs.lift (hresult.imp fun e he => .inl (.inr he))).discard
    dsimp only
    split
    next hfile =>
      refine (Plan.failsAs_write (fun e he => .inr (.inr (.inr ⟨hfile, he⟩))) ?_ _).bind fun _ =>
        hdiscard
      rw [htext]
      exact .ok text
    next => exact hdiscard
  dsimp only
  split
  · exact (Work.FailsAs.printLine _).bind fun _ => hrun
  · exact hrun

/-- The options for a plan that is generated ask nobody if the command says so. -/
theorem silent_of_buildOptions {a : GenerateArguments} {parameters : Facts} {o : BuildOptions}
    (h : buildOptions settings verbose a parameters = .ok o) : o.silent = a.silent := by
  unfold buildOptions at h
  dsimp only at h
  split at h
  next => cases h
  next => exact Except.ok.inj h ▸ rfl

theorem failsAs_buildOptions (a : GenerateArguments) (parameters : Facts) :
    FailsAs (fun e => ∃ i, e = .invalid i) (buildOptions settings verbose a parameters) := by
  unfold buildOptions
  dsimp only
  split
  · exact .error ⟨_, rfl⟩
  · exact .ok _

theorem failsAs_save {P : Fault → Prop} (hplan : ∀ e, e.kind.isPlan = true → P e)
    (hunwritable : ∀ r, P (.unwritable r)) (hwritten : ∀ e, Plan.Unwritten e → P e) (p : Plan)
    (path : String) : Work.FailsAs P (p.save path) := by
  have hsavable : FailsAs P p.checkSavable := by
    refine p.failsAs_validate.mapError fun e he => ?_
    rw [if_pos he]
    exact hplan _ rfl
  have htext : FailsAs P p.fileText := by
    refine p.failsAs_fileText.imp ?_
    rintro e ⟨r, rfl⟩
    exact hunwritable r
  exact (Work.FailsAs.lift hsavable).bind fun _ => Plan.failsAs_write hwritten htext path

theorem failsAs_generate (settings : Settings) (verbose : Bool) (a : GenerateArguments)
    (s : Session) :
    FailsAs (fun e => Fails s.workspace (.generate a) e ∨ a.silent = false ∧ e = .interrupted)
      ((generate settings verbose a).run.run s).1 := by
  have hplan (e : Fault) (he : e.kind.isPlan = true) :
      Fails s.workspace (.generate a) e ∨ a.silent = false ∧ e = .interrupted := .inl (.inl he)
  have hescapes (e : Fault) (he : Command.Ungenerated a e) :
      Fails s.workspace (.generate a) e ∨ a.silent = false ∧ e = .interrupted := .inl (.inr he)
  have hinput (e : Fault) (he : e.kind = .plan ∨ Yaml.Unnamed e) :
      Fails s.workspace (.generate a) e ∨ a.silent = false ∧ e = .interrupted := by
    rcases he with hkind | hunnamed
    · exact hplan e (by rw [hkind]; rfl)
    · exact hescapes e (.inputs hunnamed)
  refine Work.FailsAs.workspace.bind (fun w => ?_) s
  refine (Work.FailsAs.lift ((Input.failsAs_report w _).imp hinput)).bind fun report => ?_
  refine (Work.FailsAs.lift ((Input.failsAs_parameters w _ _).imp hinput)).bind fun stored => ?_
  refine Work.FailsAs.bind_of (.lift ((failsAs_buildOptions a _).imp ?_)) fun options t later hoptions => ?_
  · rintro e ⟨i, rfl⟩
    exact hescapes _ (.invalid i)
  have hsilent := silent_of_buildOptions (Work.eq_of_run_lift hoptions)
  refine ((failsAs_prepare settings "" verbose).imp fun e he =>
    hescapes e (.homeless he)).discard.bind fun _ => (Work.FailsAs.act _).bind fun session => ?_
  refine Work.FailsAs.bind ((Building.failsAs_build _ _ _ _).imp ?_) fun plan => ?_
  · rintro e (hkind | hunbuilt)
    · exact hplan e hkind
    · cases hunbuilt with
      | interrupted hasked => exact .inr ⟨hsilent ▸ hasked, rfl⟩
      | ungathered hungathered => exact hescapes e (.ungathered hungathered)
      | uncompiled huncompiled => exact hescapes e (.uncompiled huncompiled)
  split
  · refine (Work.FailsAs.lift (plan.failsAs_validate.imp hplan)).bind fun _ => ?_
    refine (Work.FailsAs.lift (plan.failsAs_fileText.imp ?_)).bind fun text => .act _
    rintro e ⟨r, rfl⟩
    exact hescapes _ (.unwritable r)
  next houtput =>
    refine Work.FailsAs.bind ?_ fun _ => .printLine _
    exact failsAs_save hplan (fun r => hescapes _ (.unwritable r))
      (fun e he => hescapes e (.unwritten houtput he)) plan a.output

/-- A command reports its faults, is interrupted, or lets a fault escape. -/
theorem failsAs_perform (settings : Settings) (verbose : Bool) (c : Command) (s : Session) :
    FailsAs (fun e => Fails s.workspace c e ∨
        (∃ a, c = .generate a ∧ a.silent = false) ∧ e = .interrupted)
      ((perform settings verbose c).run.run s).1 := by
  cases c with
  | generate a =>
    refine (failsAs_generate settings verbose a s).imp fun e => Or.imp_right ?_
    exact fun ⟨hsilent, he⟩ => ⟨⟨a, rfl, hsilent⟩, he⟩
  | execute a => exact (failsAs_execute settings verbose a s).imp fun e => .inl
  | validate path => exact (failsAs_validate path s).imp fun e => .inl
  | graph path html => exact (failsAs_graph path html s).imp fun e => .inl
  | params repository defaults rules =>
    exact (failsAs_params settings repository defaults rules s).imp fun e => .inl
  | infer repository => exact (failsAs_infer repository s).imp fun e => .inl
  | actions => exact (failsAs_actions settings s).imp fun e => .inl

/-! ## Runs -/

/-- How a run of the program ends, from how its command line is read. -/
inductive Ends (w : Workspace) : Except Stop (Bool × Command) → Finish → Prop where
  | help (g : Grammar) : Ends w (.error (.help g)) ⟨.status 0, ""⟩
  | refused (g : Grammar) (f : UsageFault) : Ends w (.error (.fault g f))
      ⟨.status 2, g.usage ++ s!"{g.program}: error: {f.message}\n"⟩
  | done (verbose : Bool) (c : Command) : Ends w (.ok (verbose, c)) ⟨.status 0, ""⟩
  | reported {verbose : Bool} {c : Command} {e : Fault} : c.Reports e.kind →
      Ends w (.ok (verbose, c)) ⟨.status 1, s!"Error: {e.message}\n"⟩
  | interrupted {verbose : Bool} {a : GenerateArguments} : a.silent = false →
      Ends w (.ok (verbose, .generate a)) ⟨.status 130, "\nInterrupted.\n"⟩
  | escaped {verbose : Bool} {c : Command} {e : Fault} : c.Escapes w e →
      Ends w (.ok (verbose, c)) ⟨.fault e, ""⟩

theorem ofResult_of_unreported {e : Fault} (h : e.Unreported) :
    Finish.ofResult (.error e) = ⟨.fault e, ""⟩ := by
  obtain ⟨hplan, hexecution, hinterrupt⟩ := h
  rw [Finish.ofResult, if_neg (by simp [hplan, hexecution]), if_neg hinterrupt]

theorem ends_of_failsAs {w : Workspace} {c : Command} {result : Except Fault Unit}
    (h : FailsAs (fun e => Fails w c e ∨ (∃ a, c = .generate a ∧ a.silent = false) ∧ e = .interrupted)
      result) : Ends w (.ok (verbose, c)) (.ofResult result) := by
  cases result with
  | ok _ => exact .done verbose c
  | error e =>
    rcases h e rfl with (hreports | hescapes) | ⟨⟨a, rfl, hsilent⟩, rfl⟩
    · rw [Finish.ofResult, if_pos hreports.caught]
      exact .reported hreports
    · rw [ofResult_of_unreported hescapes.unreported]
      exact .escaped hescapes
    · exact .interrupted hsilent

/-- A session without any files. -/
def bareSession : Session := .start ⟨.directory [], ⟨"/", []⟩, ⟨"/", []⟩⟩ ⟨[], []⟩

/-- A repository that is not there is not reported. -/
theorem run_infer_missing : ((run [] ["infer", "missing"]).run bareSession).1 =
    ⟨.fault (.repositoryAbsent "missing"), ""⟩ := by
  have hwords : readWords ["infer", "missing"] = .ok (false, .infer "missing") := by cbv
  have hpath : Path.parse "missing" = ⟨"", ["missing"]⟩ := by cbv
  rw [run, hwords]
  dsimp only [perform, infer]
  rw [if_neg (by decide), hpath]
  rfl

theorem load_of_illegible {w : Workspace} {path : String} {e : Fault}
    (h : Command.IllegiblePlan w path e) : Plan.load w path = .error e := by
  obtain ⟨hread, hillegible⟩ := h
  have hfile : e.kind.isFile = false := by cases hillegible <;> rfl
  rw [Plan.load]
  simp only [hread, hfile]
  rfl

/-- Each command that takes a plan lets it escape that the file of the plan has no text. -/
theorem run_of_illegible {environment : List (String × String)} {words : List String} {path : String}
    {c : Command} {e : Fault} (hwords : readWords words = .ok (verbose, c))
    (hc : c = .validate path ∨ (∃ html, c = .graph path html) ∨ ∃ a, c = .execute a ∧ a.plan = path)
    (h : Command.IllegiblePlan s.workspace path e) :
    ((run environment words).run s).1 = ⟨.fault e, ""⟩ := by
  have hload := load_of_illegible h
  have hperform : ((perform (.ofEnvironment environment) verbose c).run.run s).1 = .error e := by
    have hstart {f : Plan → Work Unit} :
        ((Work.workspace >>= fun w => liftM (Plan.load w path) >>= f).run.run s).1 = .error e := by
      change ((liftM (Plan.load s.workspace path) >>= f : Work Unit).run.run s).1 = .error e
      rw [hload]
      rfl
    rcases hc with rfl | ⟨html, rfl⟩ | ⟨a, rfl, rfl⟩
    · exact hstart
    · exact hstart
    · exact hstart
  have hfinish : ((run environment words).run s).1 =
      .ofResult ((perform (.ofEnvironment environment) verbose c).run.run s).1 := by
    unfold run
    rw [hwords]
    rfl
  rw [hfinish, hperform, ofResult_of_unreported h.2.unreported]

end CommandLine

end Remediation
