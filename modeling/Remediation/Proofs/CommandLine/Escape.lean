import Remediation.CommandLine.Command
import Remediation.Proofs.Building.Failure
import Remediation.Proofs.Execution.Stored
/-!
# Faults that escape

A command reports some of its faults (`Command.Reports`) and lets others escape (`Command.Escapes`).
None that escapes is a fault of plans or of their execution, or an interrupt (`Escapes.unreported`).

The faults of a plan that is checked are all reported; those of writing its file are not.
-/

set_option autoImplicit false

namespace Remediation

open Workspace (Homeless Overlong Illegible)

/-! ## Plans -/

namespace Schedule

theorem failsAs_checks (steps : List Step) :
    FailsAs (fun e => e.kind.isPlan = true) (checkIds steps) ∧
      FailsAs (fun e => e.kind.isPlan = true) (checkDependencies steps) ∧
      FailsAs (fun e => e.kind.isPlan = true) (checkCycles steps) := by
  refine ⟨?_, ?_, ?_⟩
  · unfold checkIds
    split
    · exact .error rfl
    · exact .ok ()
  · unfold checkDependencies
    split
    next e hfound =>
      obtain ⟨s, -, hs⟩ := List.exists_of_findSome?_eq_some hfound
      obtain ⟨d, -, rfl⟩ := Option.map_eq_some_iff.1 hs
      exact .error rfl
    next => exact .ok ()
  · unfold checkCycles
    split
    · exact .ok ()
    · exact .error rfl

end Schedule

namespace Plan

/-- Why a plan is not written: its file cannot be written, or no file can have its name. -/
inductive Unwritten : Fault → Prop where
  | file (f : FileFault) : Unwritten (.file f)
  | zeroByte : Unwritten .zeroByte

theorem failsAs_validate (p : Plan) : FailsAs (fun e => e.kind.isPlan = true) p.validate := by
  obtain ⟨hids, hdependencies, hcycles⟩ := Schedule.failsAs_checks p.steps
  unfold validate
  split
  · exact .error rfl
  · split
    · exact .error rfl
    · split
      next herror => exact .error (hids _ herror)
      next =>
        split
        · exact .error rfl
        · split
          next herror => exact .error (hdependencies _ herror)
          next => exact hcycles

theorem failsAs_fileText (p : Plan) : FailsAs (fun e => ∃ r, e = .unwritable r) p.fileText := by
  unfold fileText
  split
  · exact .ok _
  · exact .error ⟨_, rfl⟩

theorem failsAs_writeText (w : Workspace) (p : Path) (s : String) :
    FailsAs Unwritten (w.writeText p s) := by
  unfold Workspace.writeText
  split
  · exact .error .zeroByte
  · split
    · exact .error (.file _)
    · split
      · exact .error (.file _)
      · split
        · split
          · exact .error (.file _)
          · exact .ok _
        · exact .error (.file _)
        · exact .error (.file _)

theorem failsAs_write {P : Fault → Prop} (hwritten : ∀ e, Unwritten e → P e) {p : Plan}
    (htext : FailsAs P p.fileText) (path : String) : Work.FailsAs P (p.write path) :=
  (Work.FailsAs.lift htext).bind fun s => Work.FailsAs.workspace.bind fun w =>
    (Work.FailsAs.lift ((failsAs_writeText w _ s).imp hwritten)).bind fun _ => .act _

end Plan

namespace Command

/-- The kinds of faults that a command reports. -/
def Reports : Command → FaultKind → Prop
  | generate _, k | validate _, k => k.isPlan = true
  | execute _, k => k.isPlan = true ∨ k.isExecution = true
  | graph _ _, k => k = .plan
  | params _ _ _, k => k = .ruleStructure
  | infer _, _ | actions, _ => False

theorem Reports.caught {c : Command} {k : FaultKind} (h : c.Reports k) :
    (k.isPlan || k.isExecution) = true := by
  cases c with
  | generate | validate => exact Bool.or_eq_true_iff.2 (.inl h)
  | execute => exact Bool.or_eq_true_iff.2 h
  | graph | params =>
    obtain rfl := h
    rfl
  | infer | actions => cases h

/-- The file of a plan that has no text. -/
def IllegiblePlan (w : Workspace) (path : String) (e : Fault) : Prop :=
  w.readText (Path.parse path) = .error e ∧ Illegible e

/-- Why a plan is not generated with nothing said about it. -/
inductive Ungenerated (a : GenerateArguments) : Fault → Prop where
  | inputs {e : Fault} : Yaml.Unnamed e → Ungenerated a e
  /-- A parameter has a name that is no text. -/
  | invalid (i : Invalid) : Ungenerated a (.invalid i)
  | homeless {e : Fault} : Homeless e → Ungenerated a e
  | ungathered {e : Fault} : Gathering.Ungathered e → Ungenerated a e
  | uncompiled {e : Fault} : Building.Uncompiled e → Ungenerated a e
  /-- A parameter has no form in a document. -/
  | unwritable (r : JsonRefusal) : Ungenerated a (.unwritable r)
  | unwritten {e : Fault} : a.output ≠ "" → Plan.Unwritten e → Ungenerated a e

/-- The faults of a command that are not reported. -/
def Escapes (w : Workspace) : Command → Fault → Prop
  | generate a, e => Ungenerated a e
  | execute a, e => IllegiblePlan w a.plan e ∨ Homeless e ∨ a.statusFile ≠ "" ∧ Plan.Unwritten e
  | validate path, e | graph path _, e => IllegiblePlan w path e
  | params _ _ _, e => Gathering.Ungathered e ∨ RuleFile.Unnamed e ∨ e = .longInteger ∨
      (∃ left right, e = .notOrdered left right) ∨ ∃ left right, e = .momentOrder left right
  | infer _, e => Repository.Unexplored e
  | actions, e => Homeless e ∨ Overlong e ∨ Yaml.Unnamed e

end Command

/-! ## Faults that escape are none that are reported -/

/-- A fault that is not reported, and no interrupt. -/
def Fault.Unreported (e : Fault) : Prop :=
  e.kind.isPlan = false ∧ e.kind.isExecution = false ∧ e.kind ≠ .interrupt

section Unreported

variable {e : Fault} {w : Workspace} {c : Command}

theorem Workspace.Illegible.unreported (h : Illegible e) : e.Unreported := by
  cases h <;> exact ⟨rfl, rfl, nofun⟩

theorem Workspace.Homeless.unreported (h : Homeless e) : e.Unreported := by
  rw [h]
  exact ⟨rfl, rfl, nofun⟩

theorem unreported_file (f : FileFault) : (Fault.file f).Unreported := by
  cases f <;> exact ⟨rfl, rfl, nofun⟩

theorem Workspace.Overlong.unreported (h : Overlong e) : e.Unreported := by
  obtain ⟨path, rfl⟩ := h
  exact unreported_file _

theorem Yaml.Unbuilt.unreported (h : Yaml.Unbuilt e) : e.Unreported := by
  cases h with
  | codePoint code =>
    simp only [Fault.Unreported, Fault.kind]
    split <;> exact ⟨rfl, rfl, nofun⟩
  | _ => exact ⟨rfl, rfl, nofun⟩

theorem Yaml.Unnamed.unreported (h : Yaml.Unnamed e) : e.Unreported :=
  h.elim Workspace.Illegible.unreported Yaml.Unbuilt.unreported

theorem Repository.Unexplored.unreported (h : Repository.Unexplored e) : e.Unreported := by
  cases h with
  | overlong hoverlong => exact hoverlong.unreported
  | _ => exact ⟨rfl, rfl, nofun⟩

theorem Gathering.Ungathered.unreported (h : Gathering.Ungathered e) : e.Unreported := by
  cases h with
  | defaults hunloaded =>
    cases hunloaded with
    | homeless hhomeless => exact hhomeless.unreported
    | overlong hoverlong => exact hoverlong.unreported
    | unnamed hunnamed => exact hunnamed.unreported
    | pairs f => cases f <;> exact ⟨rfl, rfl, nofun⟩
  | repository hunexplored _ => exact hunexplored.unreported

/-- A condition that cannot be decided for a reason that is none of conditions. -/
theorem Condition.Undecided.unreported (h : Condition.Undecided e) (hkind : e.kind ≠ .condition) :
    e.Unreported := by
  cases h with
  | unparsed | failed | notBoolean => exact absurd rfl hkind
  | stopped stop =>
    simp only [Fault.kind] at hkind
    simp only [Fault.Unreported, Fault.kind]
    cases hcategory : stop.category with
    | failure =>
      rw [hcategory] at hkind
      exact absurd rfl hkind
    | _ => exact ⟨rfl, rfl, nofun⟩
  | _ => exact ⟨rfl, rfl, nofun⟩

theorem Building.Uncompiled.unreported (h : Building.Uncompiled e) : e.Unreported := by
  cases h with
  | undecided hundecided hkind => exact hundecided.unreported hkind
  | homeless hhomeless => exact hhomeless.unreported
  | overlong hoverlong => exact hoverlong.unreported
  | unnamed hunnamed => exact hunnamed.unreported
  | longInteger | longDigits => exact ⟨rfl, rfl, nofun⟩

theorem Plan.Unwritten.unreported (h : Plan.Unwritten e) : e.Unreported := by
  cases h with
  | file f => exact unreported_file f
  | zeroByte => exact ⟨rfl, rfl, nofun⟩

theorem Command.Ungenerated.unreported {a : GenerateArguments} (h : Command.Ungenerated a e) :
    e.Unreported := by
  cases h with
  | inputs hunnamed => exact hunnamed.unreported
  | invalid i => exact ⟨rfl, rfl, nofun⟩
  | homeless hhomeless => exact hhomeless.unreported
  | ungathered hungathered => exact hungathered.unreported
  | uncompiled huncompiled => exact huncompiled.unreported
  | unwritable r => cases r <;> exact ⟨rfl, rfl, nofun⟩
  | unwritten _ hunwritten => exact hunwritten.unreported

/-- No fault of plans or of their execution escapes, and no interrupt. -/
theorem Command.Escapes.unreported (h : c.Escapes w e) : e.Unreported := by
  cases c with
  | generate a => exact Command.Ungenerated.unreported h
  | execute a =>
    rcases h with hillegible | hhomeless | ⟨-, hunwritten⟩
    · exact hillegible.2.unreported
    · exact hhomeless.unreported
    · exact hunwritten.unreported
  | validate | graph => exact h.2.unreported
  | params =>
    rcases h with hungathered | hunnamed | rfl | ⟨left, right, rfl⟩ | ⟨left, right, rfl⟩
    · exact hungathered.unreported
    · exact hunnamed.yaml.unreported
    all_goals exact ⟨rfl, rfl, nofun⟩
  | infer => exact Repository.Unexplored.unreported h
  | actions =>
    rcases h with hhomeless | hoverlong | hunnamed
    · exact hhomeless.unreported
    · exact hoverlong.unreported
    · exact hunnamed.unreported

end Unreported

end Remediation
