import Remediation.Building
import Remediation.Building.Input
import Remediation.Plan.Storage
import Remediation.Proofs.Building.Documents
import Remediation.Proofs.Expansion.Failure
import Remediation.Proofs.Repository
import Remediation.Proofs.Schedule.Sort
/-!
# Why plans are not built

A plan is not built for a fault of plans, or because somebody interrupts the questions, or for what is
left unsaid by the sources of facts (`Gathering.Ungathered`) or by conditions, parameters, rule files and
definitions (`Building.Uncompiled`).
-/

set_option autoImplicit false

namespace Remediation

open Workspace (Homeless Overlong Illegible)

/-! ## Inputs -/

namespace Input

theorem failsAs_readFile (w : Workspace) (what path : String) :
    FailsAs (fun e => e.kind = .plan ∨ Yaml.Unnamed e) (readFile w what path) := by
  unfold readFile
  dsimp only
  split
  next e hread =>
    split
    · exact .error (.inl rfl)
    next hfile =>
      exact .error (.inr (.inl ((w.failsAs_readText _ e hread).resolve_left hfile)))
  next s _ =>
    have hparse : FailsAs Yaml.Unread (parse s) := by
      unfold parse
      split
      · exact .ok _
      · exact Yaml.failsAs_read s
    refine hparse.mapError fun e he => ?_
    split
    · exact .inl rfl
    next hkind =>
      rcases he with rfl | hunbuilt
      · exact absurd rfl hkind
      · exact .inr (.inr hunbuilt)

theorem failsAs_entriesOr {shape : Fault} (hshape : shape.kind = .plan) (v : Value) :
    FailsAs (fun e => e.kind = .plan ∨ Yaml.Unnamed e) (entriesOr shape v) := by
  unfold entriesOr
  split
  · exact .ok []
  · exact .ok _
  · exact .error (.inl hshape)

/-- A report is read, or its fault is one of plans, or it is left unsaid. -/
theorem failsAs_report (w : Workspace) (path : String) :
    FailsAs (fun e => e.kind = .plan ∨ Yaml.Unnamed e) (report w path) :=
  (failsAs_readFile w "report" path).bind (failsAs_entriesOr rfl)

theorem failsAs_parametersOf (s : String) :
    FailsAs (fun e => e.kind = .plan ∨ Yaml.Unnamed e) (parametersOf s) := by
  unfold parametersOf
  split
  · exact .error (.inl rfl)
  · exact .ok _
  · exact .error (.inl rfl)

/-- Parameters are read, or their fault is one of plans, or it is left unsaid. -/
theorem failsAs_parameters (w : Workspace) (path s : String) :
    FailsAs (fun e => e.kind = .plan ∨ Yaml.Unnamed e) (parameters w path s) := by
  have hgiven (stored : List (Scalar × Value)) :
      FailsAs (fun e => e.kind = .plan ∨ Yaml.Unnamed e)
        (if s = "" then .ok (mergeEntries stored [])
        else parametersOf s >>= fun given => .ok (mergeEntries stored given)) := by
    split
    · exact .ok _
    · exact (failsAs_parametersOf s).bind fun given => .ok _
  unfold parameters
  dsimp only
  split
  · exact hgiven []
  · exact ((failsAs_readFile w "parameters" path).bind (failsAs_entriesOr rfl)).bind hgiven

end Input

/-! ## Facts -/

namespace Defaults

theorem failsAs_findAmong (w : Workspace) (paths : List Path) :
    FailsAs (fun e => Homeless e ∨ Overlong e) (findAmong w paths) := by
  induction paths with
  | nil => exact .ok none
  | cons p rest ih =>
    rw [findAmong]
    split
    next herror => exact .error (.inl (w.failsAs_expand _ _ herror))
    next =>
      split
      next herror => exact .error (.inr (w.failsAs_isFile _ _ herror))
      next => exact .ok _
      next => exact ih

/-- Why defaults are not loaded, with nothing said about their file. -/
inductive Unloaded : Fault → Prop where
  | homeless {e : Fault} : Homeless e → Unloaded e
  | overlong {e : Fault} : Overlong e → Unloaded e
  | unnamed {e : Fault} : Yaml.Unnamed e → Unloaded e
  | pairs (f : PairFault) : Unloaded (.pairs f)

theorem failsAs_factsOf (p : Path) (v : Value) :
    FailsAs (fun e => e.kind = .plan ∨ Unloaded e) (factsOf p v) := by
  have hentries (given : Value) :
      FailsAs (fun e => e.kind = .plan ∨ Unloaded e) (given.toEntries.mapError .pairs) := by
    cases given.toEntries with
    | ok entries => exact .ok entries
    | error f => exact .error (.inr (.pairs f))
  unfold factsOf
  split
  · exact .ok []
  · split
    · dsimp only
      split
      · exact hentries _
      · exact .ok []
    · exact .error (.inl rfl)

theorem failsAs_read (w : Workspace) (p : Path) :
    FailsAs (fun e => e.kind = .plan ∨ Unloaded e) (read w p) := by
  unfold read
  split
  next e hread =>
    split
    · exact .error (.inl rfl)
    next hunsaid => exact .error (.inr (.unnamed (Yaml.unnamed_of_readText hread hunsaid)))
  next v _ => exact failsAs_factsOf p v

theorem failsAs_load (w : Workspace) (path : String) :
    FailsAs (fun e => e.kind = .plan ∨ Unloaded e) (load w path) := by
  have hfind : FailsAs (fun e => e.kind = .plan ∨ Unloaded e) (find w) :=
    (failsAs_findAmong w candidates).imp fun e he =>
      .inr (he.elim Unloaded.homeless Unloaded.overlong)
  have hexpand (p : Path) : FailsAs (fun e => e.kind = .plan ∨ Unloaded e) (w.expand p) :=
    (w.failsAs_expand p).imp fun e he => .inr (.homeless he)
  unfold load
  split
  · refine hfind.bind fun found => ?_
    cases found with
    | some p => exact failsAs_read w p
    | none => exact .ok []
  · exact (hexpand _).bind (failsAs_read w)

end Defaults

namespace Gathering

/-- Why facts are not gathered: faults of plans in the defaults, and faults of reaching the repository,
are warned of. -/
inductive Ungathered : Fault → Prop where
  | defaults {e : Fault} : Defaults.Unloaded e → Ungathered e
  | repository {e : Fault} : Repository.Unexplored e → e.kind.isFile = false → Ungathered e

theorem failsAs_defaults (o : BuildOptions) : Work.FailsAs Ungathered (defaults o) := by
  unfold defaults
  split
  · exact .pure []
  · refine Work.FailsAs.workspace.bind fun w => ?_
    split
    next => exact .pure _
    next e hload =>
      split
      · exact (Work.FailsAs.warn _).bind fun _ => .pure []
      next hkind =>
        refine .throw (.defaults ((Defaults.failsAs_load w _ e hload).resolve_left ?_))
        intro hplan
        rw [hplan] at hkind
        exact hkind rfl

theorem failsAs_printExplored (P : Fault → Prop) (told : Fields) :
    Work.FailsAs P (printExplored told) := by
  refine (Work.FailsAs.printLine _).bind fun _ => Work.FailsAs.bind ?_ fun _ => .pure _
  exact Work.FailsAs.forIn (fun _ _ => (Work.FailsAs.printLine _).bind fun _ => .pure _) _

theorem failsAs_repository (o : BuildOptions) : Work.FailsAs Ungathered (repository o) := by
  have hfacts (told : Fields) : Work.FailsAs Ungathered (do
      if o.verbose && !told.isEmpty then printExplored told
      return BuildOptions.factsOf told) := by
    split
    · exact (failsAs_printExplored _ told).bind fun _ => .pure _
    · exact .pure _
  unfold repository
  split
  · exact .pure []
  · refine Work.FailsAs.bind (Work.FailsAs.tryCatch
      ((Repository.failsAs_explore _).bind fun told => .pure (some told)) fun e he => ?_)
      fun told => hfacts _
    split
    · exact (Work.FailsAs.warn _).bind fun _ => .pure none
    next hfile => exact .throw (.repository he (by simpa using hfile))

/-- Questions end without an answer when somebody interrupts them or when there are no more answers. -/
theorem unanswered_of_complete {facts told : Facts} {names : List String} {s later : Session}
    {e : Fault} (h : (complete facts names).run s = ((told, .error e), later)) :
    e = .interrupted ∨ ∃ name, e = .answerMissing name := by
  induction names generalizing facts s with
  | nil => cases h
  | cons name rest ih =>
    rw [complete] at h
    split at h
    · exact ih h
    · obtain ⟨answer, between, -, hanswer⟩ := Work.exists_of_state_bind_eq h
      cases answer with
      | given text => exact ih hanswer
      | interrupt =>
        cases hanswer
        exact .inl rfl
      | closed =>
        cases hanswer
        exact .inr ⟨name, rfl⟩

theorem failsAs_gather (report : Facts) (o : BuildOptions) :
    Work.FailsAs Ungathered (gather report o) :=
  (failsAs_defaults o).bind fun _ => (failsAs_repository o).bind fun _ => .pure _

end Gathering

/-! ## Plans -/

namespace Building

open Gathering (Ungathered)

variable {w : Workspace} {c : Action.Catalogue} {directory : Path} {rules : List Rule} {facts : Facts}

/-- Why rules are not compiled, with nothing said about the rule or the file. -/
inductive Uncompiled : Fault → Prop where
  /-- A condition stops, or a fact cannot be used in one. -/
  | undecided {e : Fault} : Condition.Undecided e → e.kind ≠ .condition → Uncompiled e
  /-- A value is too long to be put into a text. -/
  | longInteger : Uncompiled .longInteger
  /-- A text is too long to be an integer. -/
  | longDigits (digits : Nat) : Uncompiled (.longDigits digits)
  /-- A reference leads to a home directory that is nobody's. -/
  | homeless {e : Fault} : Homeless e → Uncompiled e
  /-- An action has a name that no file can have. -/
  | overlong {e : Fault} : Overlong e → Uncompiled e
  /-- A rule file or a definition is no text, or has a scalar that is not what it is declared to be. -/
  | unnamed {e : Fault} : Yaml.Unnamed e → Uncompiled e

theorem isPlan_of_ruleStructure {e : Fault} (h : e.kind = .ruleStructure) : e.kind.isPlan = true := by
  rw [h]
  rfl

/-- Following a reference leads to rules, or to a fault of rules, or to one that is left unsaid. -/
theorem failsAs_load (rule ref : String) :
    FailsAs (fun e => e.kind = .ruleStructure ∨ Homeless e ∨ RuleFile.Unnamed e)
      ((setting w c directory rules facts).load rule ref) := by
  unfold Expansion.Setting.load
  split
  · exact .error (.inl rfl)
  next lib hlibrary =>
    split
    next found hlookup =>
      obtain rfl := Option.some.inj hlibrary
      obtain ⟨ref', -, heq⟩ := List.mem_map.1 (mem_of_lookupField hlookup)
      obtain ⟨-, rfl⟩ := Prod.mk.inj heq
      exact RuleFile.failsAs_follow w (some directory) ref'
    next => exact .error (.inl rfl)

theorem failsAs_sorted (steps : List Step) :
    FailsAs (Schedule.Refusal steps) (Schedule.sort steps).sorted := by
  rcases Schedule.sort_cases steps with ⟨e, herror, hrefusal⟩ | ⟨-, -, -, sorted, hsorted, -⟩
  · rw [herror]
    exact .error hrefusal
  · rw [hsorted]
    exact .ok sorted

theorem failsAs_factText (facts : Facts) (name absent : String) :
    FailsAs (· = .longInteger) (factText facts name absent) := by
  unfold factText
  dsimp only
  split
  · exact .ok _
  · split
    · exact .ok _
    · exact .error rfl

/-- Rules are compiled, or their fault is one of plans, or it is left unsaid. -/
theorem failsAs_compile :
    FailsAs (fun e => e.kind.isPlan = true ∨ Uncompiled e)
      (compile (setting w c directory rules facts) rules) := by
  have hrun : FailsAs (fun e => e.kind.isPlan = true ∨ Uncompiled e)
      (Expansion.run (setting w c directory rules facts) rules) := by
    refine Expansion.failsAs_run (fun e => .inl)
      (fun e hundecided hkind => .inr (.undecided hundecided hkind)) ?_ (fun action => ?_)
      (fun rule ref => ?_) rules
    · rintro e (⟨names, place⟩ | ⟨⟩ | ⟨digits⟩)
      · exact .inl rfl
      · exact .inr .longInteger
      · exact .inr (.longDigits digits)
    · refine (c.failsAs_definition w action).imp ?_
      rintro e (haction | hoverlong | hunnamed)
      · rw [haction]
        exact .inl rfl
      · exact .inr (.overlong hoverlong)
      · exact .inr (.unnamed hunnamed)
    · refine (failsAs_load rule ref).imp ?_
      rintro e (hrules | hhomeless | hunnamed)
      · exact .inl (isPlan_of_ruleStructure hrules)
      · exact .inr (.homeless hhomeless)
      · exact .inr (.unnamed hunnamed.yaml)
  have htext (name absent : String) : FailsAs (fun e => e.kind.isPlan = true ∨ Uncompiled e)
      (factText facts name absent) := by
    refine (failsAs_factText facts name absent).imp ?_
    rintro e rfl
    exact .inr .longInteger
  refine hrun.bind fun steps => FailsAs.bind ?_ fun sorted =>
    (htext _ _).bind fun project => (htext _ _).bind fun repository => .ok _
  refine (failsAs_sorted steps).imp fun e he => .inl ?_
  cases he <;> rfl

theorem failsAs_rulesIn (w : Workspace) (path : String) :
    FailsAs (fun e => e.kind = .ruleStructure ∨ RuleFile.Unnamed e) (rulesIn w path) := by
  unfold rulesIn
  split
  next herror => exact .error (RuleFile.failsAs_load w _ _ herror)
  next => exact .error (.inl rfl)
  next => exact .ok _

/-- Why a plan is not built that is no fault of plans. -/
inductive Unbuilt (o : BuildOptions) : Fault → Prop where
  /-- Somebody interrupts the questions. -/
  | interrupted : o.silent = false → Unbuilt o .interrupted
  | ungathered {e : Fault} : Ungathered e → Unbuilt o e
  | uncompiled {e : Fault} : Uncompiled e → Unbuilt o e

theorem failsAs_factsFor (rules : List Rule) (report : Facts) (o : BuildOptions) :
    Work.FailsAs (fun e => e.kind.isPlan = true ∨ Unbuilt o e) (factsFor rules report o) := by
  refine ((Gathering.failsAs_gather report o).imp fun e he => .inr (.ungathered he)).bind
    fun facts => ?_
  split
  · exact .pure facts
  next hsilent =>
    refine (Work.FailsAs.act _).bind_of fun completed s later hcomplete => ?_
    obtain ⟨told, answered⟩ := completed
    cases answered with
    | ok _ => exact .pure told
    | error e =>
      rcases Gathering.unanswered_of_complete (Work.eq_of_run_act hcomplete) with
        rfl | ⟨name, rfl⟩
      · exact .throw (.inr (.interrupted (by simpa using hsilent)))
      · exact .throw (.inl rfl)

/-- A plan is built, or there is a fault of plans, or one that is left unsaid. -/
theorem failsAs_build (catalogue : Option Action.Catalogue) (path : String) (report : Facts)
    (o : BuildOptions) :
    Work.FailsAs (fun e => e.kind.isPlan = true ∨ Unbuilt o e) (build catalogue path report o) := by
  have hrules (w : Workspace) :
      FailsAs (fun e => e.kind.isPlan = true ∨ Unbuilt o e) (rulesIn w path) := by
    refine (failsAs_rulesIn w path).imp ?_
    rintro e (hkind | hunnamed)
    · exact .inl (isPlan_of_ruleStructure hkind)
    · exact .inr (.uncompiled (.unnamed hunnamed.yaml))
  cases catalogue with
  | none => exact .throw (.inl rfl)
  | some c =>
    refine Work.FailsAs.workspace.bind fun w => (Work.FailsAs.lift (hrules w)).bind fun rules => ?_
    refine (failsAs_factsFor rules report o).bind fun facts => Work.FailsAs.lift ?_
    exact failsAs_compile.imp fun e => Or.imp_right .uncompiled

end Building

end Remediation
