import Remediation.Proofs.Building.Documents
import Remediation.Proofs.Json.Screen
import Remediation.Proofs.Toml
import Remediation.Repository
/-!
# Faults of exploring a repository

What is explored is left out where it cannot be found out, but not all that can go wrong is caught
(`Unexplored`).  None of it is a fault of plans.  Whatever a repository tells is a text, which can
always be shown.
-/

set_option autoImplicit false

namespace Remediation

/-- A file that is there can be read. -/
theorem Workspace.exists_readBytes {w : Workspace} {p : Path} (h : w.isFile p = .ok true) :
    ∃ bytes, w.readBytes p = .ok bytes := by
  unfold isFile find? at h
  unfold readBytes
  split at h
  next => cases h
  next hname =>
    rw [if_neg hname]
    split at h
    next t hfind =>
      rw [hfind]
      cases t with
      | file bytes => exact ⟨bytes, rfl⟩
      | directory entries => cases h
    next => cases h
    next => cases h

namespace Repository

open Workspace (Overlong)

/-- Why a repository is not explored. -/
inductive Unexplored : Fault → Prop where
  /-- It is not there. -/
  | absent (path : String) : Unexplored (.repositoryAbsent path)
  | overlong {e : Fault} : Overlong e → Unexplored e
  /-- The project description is no text. -/
  | undecodable (f : Text.Utf8Fault) : Unexplored (.undecodable f)
  /-- The project description holds an integer that is too long. -/
  | longDigits (digits : Nat) : Unexplored (.longDigits digits)
  /-- What the project description holds for the project is no table. -/
  | noTable (type : String) : Unexplored (.noMatch type "get")

theorem failsAs_projectName? {w : Workspace} {p : Path} (hfile : w.isFile p = .ok true) :
    FailsAs Unexplored (projectName? w p) := by
  obtain ⟨bytes, hbytes⟩ := Workspace.exists_readBytes hfile
  have hdecode : FailsAs Unexplored ((Text.decodeUtf8 bytes).mapError .undecodable) := by
    cases Text.decodeUtf8 bytes with
    | ok s => exact .ok s
    | error f => exact .error (.undecodable f)
  unfold projectName?
  rw [hbytes]
  refine hdecode.bind fun s => ?_
  split
  next => exact .ok none
  next e hother hread =>
    cases Toml.failsAs_read s e hread with
    | malformed => exact absurd rfl hother
    | longDigits digits => exact .error (.longDigits digits)
  next v _ =>
    unfold describedName?
    split
    · split
      · exact .ok none
      · exact .ok _
      · exact .error (.noTable _)
    · exact .ok none

theorem failsAs_name? (w : Workspace) (directory : Path) :
    FailsAs Unexplored (name? w directory) := by
  have hfile (p : Path) : FailsAs Unexplored (w.isFile p) :=
    (w.failsAs_isFile p).imp fun _ => .overlong
  unfold name?
  refine (hfile _).bind fun described => ?_
  have hproject : FailsAs Unexplored (do
      if ← w.isFile (directory.child "pyproject.toml") then
        return ← projectName? w (directory.child "pyproject.toml")
      return none) := by
    refine (hfile _).bind_of fun there hthere => ?_
    split
    next htrue =>
      obtain rfl := htrue
      exact failsAs_projectName? hthere
    next => exact .ok none
  split
  · split
    · exact .ok _
    · exact hproject
  · exact hproject

/-- What a repository tells are texts. -/
def AreTexts (fields : Fields) : Prop := ∀ f ∈ fields, ∃ s, f.2 = .text s

theorem areTexts_addressFields (address : String) : AreTexts (addressFields address) := by
  unfold addressFields
  refine List.forall_mem_cons.2 ⟨⟨_, rfl⟩, ?_⟩
  split
  · exact List.forall_mem_cons.2 ⟨⟨_, rfl⟩, List.forall_mem_singleton.2 ⟨_, rfl⟩⟩
  · exact List.forall_mem_nil _

theorem AreTexts.setField {fields : Fields} (h : AreTexts fields) (key s : String) :
    AreTexts (setField fields key (.text s)) := by
  intro f hf
  rcases mem_setField hf with rfl | hold
  · exact ⟨s, rfl⟩
  · exact h f hold

theorem AreTexts.areJson {fields : Fields} (h : AreTexts fields) : fields.AreJson := by
  intro f hf
  obtain ⟨s, heq⟩ := h f hf
  rw [heq]
  exact .text s

theorem failsAs_address? (P : Fault → Prop) (directory : Path) :
    Work.FailsAs P (address? directory) := by
  refine Work.FailsAs.bind (Work.FailsAs.act _) fun ending => ?_
  cases ending with
  | failure reason => exact .pure none
  | exit status output errors => exact .pure _

/-- Exploring a repository fails for reasons that are none of plans. -/
theorem failsAs_explore (directory : Option Path) :
    Work.FailsAs Unexplored (explore directory) := by
  refine Work.FailsAs.workspace.bind fun w => ?_
  have hdirectory := (w.failsAs_isDirectory (directory.getD w.current)).imp fun _ =>
    Unexplored.overlong
  refine (Work.FailsAs.lift hdirectory).bind fun there => ?_
  cases there with
  | false => exact .throw_bind (.absent _)
  | true =>
    refine (failsAs_address? _ _).bind fun address => ?_
    refine (Work.FailsAs.lift (failsAs_name? w _)).bind fun name => ?_
    cases name with
    | some name => exact .pure _
    | none => exact .pure _

/-- Exploring a repository tells what its address says, if it has one, and its name, if it has one. -/
theorem explore_cases {P : Fields → Prop} {directory : Option Path} {s later : Session}
    {told : Fields} (nothing : P []) (address : ∀ address, P (addressFields address))
    (name : ∀ place name, P place → P (setField place "project_name" (.text name)))
    (h : (explore directory).run.run s = (.ok told, later)) : P told := by
  obtain ⟨w, s, -, h⟩ := Work.exists_of_run_bind_eq_ok h
  obtain ⟨there, s, -, h⟩ := Work.exists_of_run_bind_eq_ok h
  cases there with
  | false => cases h
  | true =>
    obtain ⟨found, s, -, h⟩ := Work.exists_of_run_bind_eq_ok h
    obtain ⟨called, s, -, h⟩ := Work.exists_of_run_bind_eq_ok h
    cases found with
    | none =>
      cases called with
      | none => exact Except.ok.inj (congrArg Prod.fst h) ▸ nothing
      | some called => exact Except.ok.inj (congrArg Prod.fst h) ▸ name [] called nothing
    | some found =>
      have hplace := address found
      cases called with
      | none => exact Except.ok.inj (congrArg Prod.fst h) ▸ hplace
      | some called => exact Except.ok.inj (congrArg Prod.fst h) ▸ name _ called hplace

/-- Exploring a repository tells texts. -/
theorem areTexts_explore {directory : Option Path} {s later : Session} {told : Fields}
    (h : (explore directory).run.run s = (.ok told, later)) : AreTexts told :=
  explore_cases (List.forall_mem_nil _) areTexts_addressFields
    (fun _ name hplace => hplace.setField _ name) h

end Repository

end Remediation
