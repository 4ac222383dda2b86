import Remediation.Action.Tool
import Remediation.Proofs.Parameters.Layout
/-!
# Arguments of a command

Each template of a tool gives one argument, and what that is depends on the names of this template
only.  A value that spells a placeholder is an argument or a part of one like any other
(`command_exact`).
-/

set_option autoImplicit false

namespace Remediation

namespace Action.Tool

open Template (Layout namesFrom substitute)

variable {t : Tool} {params : Fields} {argv : List String}

/-- The templates of the arguments: that of the program, and those behind it. -/
def templates (t : Tool) : List String := t.definition.command :: t.definition.args

/-- The arguments are what the templates are filled with, one by one. -/
theorem command_eq_ok_iff : t.command params = .ok argv ↔
    List.Forall₂ (fun template arg => substitute template (t.values params) = .ok arg)
      t.templates argv := by
  rw [← mapM_eq_ok_iff, command, templates]
  cases (t.definition.command :: t.definition.args).mapM fun template =>
    substitute template (t.values params) with
  | error e => exact ⟨nofun, nofun⟩
  | ok filled => exact Iff.rfl

/-- Templates whose names are known as texts are filled with the values, each in its place and as it is,
whatever the values spell.  So a tool has one argument for each template that is laid out.  However its
templates are spelled, and whatever its values are, each template gives one argument, and facts that
agree on the names of a template give the same one. -/
theorem command_exact :
    (∀ (facts : Facts) (value : String → String) (l : Layout), l.Known facts value →
      substitute l.template facts = .ok (l.filled value)) ∧
    ∀ (t : Tool) (params : Fields),
      (∀ (value : String → String) (layouts : List Layout),
        t.templates = layouts.map Layout.template →
        (∀ l ∈ layouts, l.Known (t.values params) value) →
        t.command params = .ok (layouts.map (Layout.filled value))) ∧
      ∀ argv, t.command params = .ok argv → List.Forall₂ (fun template arg =>
        ∀ facts : Facts, (∀ name ∈ namesFrom [] template,
          entryAt? facts name = entryAt? (t.values params) name) →
          substitute template facts = .ok arg) t.templates argv := by
  refine ⟨fun _ _ _ => Layout.substitute_template, fun t params => ⟨?filled, ?own⟩⟩
  case filled =>
    intro value layouts htemplates hknown
    rw [command_eq_ok_iff, htemplates, List.forall₂_map_left_iff, List.forall₂_map_right_iff,
      List.forall₂_same]
    exact fun l hl => Layout.substitute_template (hknown l hl)
  case own =>
    intro argv h
    refine (command_eq_ok_iff.1 h).imp fun template arg hfilled facts hagree => ?_
    rw [Template.substitute_congr hagree, hfilled]

/-- A program without placeholders. -/
def programAlone : Layout where
  parts := []
  last := ['g', 'r', 'e', 'e', 't']
  plain := by decide

/-- A greeting in braces, with braces against those of the placeholders. -/
def greeting : Layout where
  parts := [⟨['\x7b'], [' ', 'w', 'h', 'o'], by decide, by decide, by decide⟩,
    ⟨['\x7d', ' ', '\x7b', '\x7b'], ['m', 'a', 'r', 'k'], by decide, by decide, by decide⟩]
  last := ['\x7d']
  plain := by decide

/-- A tool that is given the greeting. -/
def greeter : Tool where
  definition := { (default : Definition) with
    command := programAlone.template
    args := [greeting.template]
    defaults := [("who", .text "nobody"), ("mark", .text ".who\x7d\x7d")] }
  directory := ""
  verbose := false

/-- One who is called like a placeholder of the mark. -/
def markedName : Fields := [("who", .text "\x7b\x7b.mark\x7d\x7d")]

/-- The name and the mark of the greeting. -/
def greeted (name : String) : String :=
  if name = "who" then "\x7b\x7b.mark\x7d\x7d" else ".who\x7d\x7d"

/-- The name spells a placeholder of the mark, and the mark closes what the braces in front of it open;
both are put in as they are. -/
theorem command_exact_greeter :
    greeter.templates = [programAlone, greeting].map Layout.template ∧
    (∀ l ∈ [programAlone, greeting], l.Known (greeter.values markedName) greeted) ∧
    greeter.command markedName =
      .ok ["greet", "\x7b\x7b\x7b.mark\x7d\x7d\x7d \x7b\x7b.who\x7d\x7d\x7d"] := by
  have hknown : ∀ l ∈ [programAlone, greeting], l.Known (greeter.values markedName) greeted := by
    refine List.forall_mem_cons.2 ⟨List.forall_mem_nil _, List.forall_mem_singleton.2 ?_⟩
    exact List.forall_mem_cons.2 ⟨rfl, List.forall_mem_singleton.2 rfl⟩
  have hfilled : [programAlone, greeting].map (Layout.filled greeted) =
      ["greet", "\x7b\x7b\x7b.mark\x7d\x7d\x7d \x7b\x7b.who\x7d\x7d\x7d"] := by decide
  refine ⟨rfl, hknown, ?_⟩
  rw [← hfilled]
  exact (command_exact.2 greeter markedName).1 greeted _ rfl hknown

end Action.Tool

end Remediation
