import Remediation.Proofs.Acyclic
import Remediation.Proofs.Expansion.Yield
/-!
# Well-formed rules are expanded

The rules of a scope are well formed if they say nothing that expanding them could stumble on, whether
it comes by or not: a rule may be left out by its condition, or because its action is planned already.
Where all scopes of a rule file are well formed, it is expanded (`exists_expand`).
-/

set_option autoImplicit false

namespace Remediation.Expansion

variable {w : Setting} {sc : Scope}

/-- Rules of a scope that expansion and sorting have nothing to object to. -/
structure Scope.WellFormed (w : Setting) (sc : Scope) : Prop where
  named : ∀ r ∈ sc.rules, r.id ≠ ""
  siblings : ∀ r ∈ sc.rules, ∀ d ∈ r.dependsOn, ∃ a ∈ sc.rules, a.id = d
  /-- No rule needs itself, be it by way of its siblings. -/
  acyclic : Acyclic sc.Needs
  /-- References are not followed twice on the way down, and lead to rules. -/
  loaded : ∀ r ∈ sc.rules, r.reference ≠ "" → r.reference ∉ sc.history ∧
    ∃ rules, w.load (sc.pathId r) r.reference = .ok rules
  /-- Rules take no outputs of each other. -/
  plain : ∀ r ∈ sc.rules, r.outputRefs = []
  decided : ∀ r ∈ sc.rules, ∃ b, applies w (sc.pathId r) r = .ok b
  /-- Rules that do not stand for others have an action, whose parameters can be filled. -/
  leaves : ∀ r ∈ sc.rules, r.isComposite = false → r.action ≠ "" ∧
    ∃ definition params, w.definition r.action = .ok definition ∧
      materialize w.facts definition.schema (sc.frame.parameters r) = .ok params

/-- Rules that depend on siblings alone, none of them on itself. -/
structure Scope.Regular (sc : Scope) : Prop where
  siblings : ∀ r ∈ sc.rules, ∀ d ∈ r.dependsOn, ∃ a ∈ sc.rules, a.id = d
  acyclic : Acyclic sc.Needs

namespace Scope.WellFormed

variable {r : Rule}

theorem regular (hwf : sc.WellFormed w) : sc.Regular := ⟨hwf.siblings, hwf.acyclic⟩

theorem fresh (hwf : sc.WellFormed w) (hr : r ∈ sc.rules) : Fresh sc r :=
  fun hreference => (hwf.loaded r hr hreference).1

theorem exists_below (hwf : sc.WellFormed w) (hr : r ∈ sc.rules)
    (hcomposite : r.isComposite = true) : ∃ c, sc.below? w r = some c := by
  by_cases hreference : r.reference = ""
  · have hsteps : r.steps ≠ [] := by
      intro hnil
      rw [isComposite_eq_false_iff.2 ⟨hreference, hnil⟩] at hcomposite
      cases hcomposite
    exact ⟨_, Scope.below?_of_steps hreference hsteps⟩
  · obtain ⟨hfresh, rules, hload⟩ := hwf.loaded r hr hreference
    exact ⟨_, Scope.below?_of_load hreference hfresh hload⟩

/-- A rule becomes something if what stands below it can be expanded. -/
theorem exists_became (hwf : sc.WellFormed w) (hr : r ∈ sc.rules)
    (hbelow : ∀ c, sc.below? w r = some c → ∀ planned, ∃ steps last,
      c.expand w planned = (.ok steps, last)) (deps planned : List String) :
    ∃ steps next, Became w sc deps r planned steps next := by
  obtain ⟨holds, happlies⟩ := hwf.decided r hr
  cases holds with
  | false => exact ⟨_, _, .refused happlies⟩
  | true =>
    cases hleaf : r.isComposite with
    | true =>
      obtain ⟨c, hscope⟩ := hwf.exists_below hr hleaf
      obtain ⟨steps, last, hexpand⟩ := hbelow c hscope planned
      exact ⟨steps, last, .inside happlies hscope hexpand⟩
    | false =>
      obtain ⟨haction, definition, params, hdefinition, hparams⟩ := hwf.leaves r hr hleaf
      have hid : sc.pathId r ≠ "" := fun h => hwf.named r hr (Scope.pathId_eq_empty_iff.1 h)
      by_cases hdone : r.once = true ∧ r.action ∈ planned
      · exact ⟨_, _, .repeated happlies hleaf haction hdone.1 hdone.2⟩
      · exact ⟨_, _, .leaf happlies hleaf haction hdone hid hdefinition hparams⟩

end Scope.WellFormed

/-- Rules yield steps one after the other if each of them becomes something. -/
theorem exists_yields {rules : List Rule}
    (h : ∀ r ∈ rules, Fresh sc r ∧ ∀ deps planned, ∃ steps next,
      Became w sc deps r planned steps next) (previous : String) (planned : List String) :
    ∃ yields last, Yields w sc previous rules planned yields last := by
  induction rules generalizing previous planned with
  | nil => exact ⟨[], planned, .nil⟩
  | cons r rest ih =>
    obtain ⟨hfresh, hbecomes⟩ := h r List.mem_cons_self
    obtain ⟨steps, next, hbecame⟩ := hbecomes (sc.deps previous r) planned
    obtain ⟨yields, last, hyields⟩ := ih (fun r' hr' => h r' (List.mem_cons_of_mem _ hr')) r.id next
    exact ⟨_, last, .cons hfresh hbecame hyields⟩

/-- Well-formed rules are expanded, whatever has been planned before. -/
theorem exists_expand (hwf : ∀ inner, Scope.Within w sc inner → inner.WellFormed w)
    (planned : List String) : ∃ steps last, sc.expand w planned = (.ok steps, last) := by
  induction sc using Scope.induction w generalizing planned with
  | _ sc ih =>
    have hself : sc.WellFormed w := hwf sc .self
    have hbecomes : ∀ r ∈ sc.rules, Fresh sc r ∧ ∀ deps planned, ∃ steps next,
        Became w sc deps r planned steps next := by
      intro r hr
      refine ⟨hself.fresh hr, hself.exists_became hr ?_⟩
      intro c hbelow
      exact ih r hr c hbelow fun inner hwithin => hwf inner (.down hr hbelow hwithin)
    obtain ⟨yields, last, hyields⟩ := exists_yields hbecomes "" planned
    exact ⟨_, last, Scope.expand_eq_ok_iff.2 ⟨yields, hyields, rfl⟩⟩

end Remediation.Expansion
