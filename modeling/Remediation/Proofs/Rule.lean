import Remediation.Proofs.Checked
import Remediation.RuleFile
/-!
# Rules that are read

A rule that is read from a document sets no parameter twice, and neither do the rules below it
(`keyed_of_check`).  So it is with the rules of every rule file (`keyed_of_load`).
-/

set_option autoImplicit false

namespace Remediation

/-- A rule sets no parameter twice, and neither do the rules below it in its file. -/
inductive Rule.Keyed : Rule → Prop where
  | intro {r : Rule} : (r.parameters.map Prod.fst).Nodup → (∀ step ∈ r.steps, Rule.Keyed step) →
      Rule.Keyed r

namespace Rule

variable {r : Rule}

theorem Keyed.parameters (h : r.Keyed) : (r.parameters.map Prod.fst).Nodup := by
  cases h with
  | intro hparameters _ => exact hparameters

theorem Keyed.steps (h : r.Keyed) : ∀ step ∈ r.steps, step.Keyed := by
  cases h with
  | intro _ hsteps => exact hsteps

/-- The rule of a record has the parameters of the record, and the steps that were checked. -/
theorem of_ofRecord {es : List (Scalar × Value)} {steps : Checked (List Rule)}
    (h : ofRecord es steps = .ok r) :
    Checked.field es ["parameters"] [] Checked.fields = .ok r.parameters ∧
      steps = .ok r.steps := by
  simp only [ofRecord, Checked.apply_eq_ok_iff] at h
  obtain ⟨_, outputs, ⟨_, refs, ⟨_, below, ⟨_, once, ⟨_, deps, ⟨_, params, ⟨_, labels, ⟨_, reason,
    ⟨_, action, ⟨_, ref, ⟨_, condition, hid, -, rfl⟩, -, rfl⟩, -, rfl⟩, -, rfl⟩, -, rfl⟩,
    hparams, rfl⟩, -, rfl⟩, -, rfl⟩, hsteps, rfl⟩, -, rfl⟩, -, rfl⟩ := h
  obtain ⟨id, -, rfl⟩ := Checked.map_eq_ok_iff.1 hid
  exact ⟨hparams, hsteps⟩

theorem keyed_of_ofRecord {es : List (Scalar × Value)} {steps : Checked (List Rule)}
    (hsteps : ∀ rules, steps = .ok rules → ∀ r ∈ rules, r.Keyed)
    (h : ofRecord es steps = .ok r) : r.Keyed := by
  obtain ⟨hparams, hbelow⟩ := of_ofRecord h
  refine .intro ?_ (hsteps _ hbelow)
  obtain hnone | ⟨_, -, hfields⟩ := Checked.eq_absent_or_of_field hparams
  · rw [hnone]
    exact List.nodup_nil
  · exact Checked.nodup_of_table hfields

/-- No rule that has been read sets a parameter twice. -/
theorem keyed_of_check : ∀ v r, check v = .ok r → r.Keyed := by
  refine check.induct (fun v => ∀ r, check v = .ok r → r.Keyed)
    (fun n vs => ∀ rules, checkItems n vs = .ok rules → ∀ r ∈ rules, r.Keyed)
    ?record ?other ?none ?next
  case record =>
    intro es ih r h
    rw [check] at h
    refine keyed_of_ofRecord (fun rules hrules => ?_) h
    split at hrules
    next name vs hspelled => exact ih name vs hspelled rules (Checked.inside_eq_ok_iff.1 hrules)
    next name w _ _ =>
      -- What is not a list may still be a set: an empty one has no steps, and scalars are no rules.
      intro r hr
      obtain ⟨_, hfail⟩ := Checked.exists_of_mem_list (Checked.inside_eq_ok_iff.1 hrules) r hr
      cases hfail
    next =>
      obtain rfl := Except.ok.inj hrules
      exact List.forall_mem_nil _
  case other =>
    intro v hv r h
    unfold check at h
    split at h
    next es => exact absurd rfl (hv es)
    next => cases h
  case none =>
    intro n rules h
    rw [checkItems] at h
    obtain rfl := Except.ok.inj h
    exact List.forall_mem_nil _
  case next =>
    intro n v vs ihfirst ihrest rules h
    rw [checkItems, Checked.apply_eq_ok_iff] at h
    obtain ⟨_, found, hfirst, hrest, rfl⟩ := h
    obtain ⟨r, hr, rfl⟩ := Checked.map_eq_ok_iff.1 hfirst
    exact List.forall_mem_cons.2 ⟨ihfirst r (Checked.inside_eq_ok_iff.1 hr), ihrest found hrest⟩

end Rule

namespace RuleFile

variable {rules : List Rule}

theorem keyed_of_read {v : Value} (h : read v = .ok rules) : ∀ r ∈ rules, r.Keyed := by
  cases v with
  | map es =>
    have hfield : Checked.field es ["mappings"] [] (Checked.list Rule.check) = .ok rules := by
      cases hf : Checked.field es ["mappings"] [] (Checked.list Rule.check) with
      | ok found => simpa [read, hf, Checked.named] using h
      | error ps => simp [read, hf, Checked.named] at h
    obtain rfl | ⟨_, -, hlist⟩ := Checked.eq_absent_or_of_field hfield
    · exact List.forall_mem_nil _
    · intro r hr
      obtain ⟨w, hw⟩ := Checked.exists_of_mem_list hlist r hr
      exact Rule.keyed_of_check w r hw
  | _ => cases h

theorem keyed_of_rulesOf {p : Path} {v : Value} (h : rulesOf p v = .ok rules) :
    ∀ r ∈ rules, r.Keyed := by
  unfold rulesOf at h
  split at h
  next =>
    obtain rfl := Except.ok.inj h
    exact List.forall_mem_nil _
  next es =>
    cases hread : read (.map es) with
    | ok found =>
      rw [hread] at h
      obtain rfl := Except.ok.inj h
      exact keyed_of_read hread
    | error e =>
      rw [hread] at h
      cases h
  next => cases h

/-- No rule of a rule file sets a parameter twice. -/
theorem keyed_of_load {w : Workspace} {p : Path} (h : load w p = .ok rules) :
    ∀ r ∈ rules, r.Keyed := by
  unfold load at h
  split at h
  next => cases h
  next =>
    split at h
    next => cases h
    next => exact keyed_of_rulesOf h

theorem keyed_of_follow {w : Workspace} {directory : Option Path} {ref : String}
    (h : follow w directory ref = .ok rules) : ∀ r ∈ rules, r.Keyed := by
  unfold follow at h
  split at h
  next => cases h
  next => exact keyed_of_load h

end RuleFile

end Remediation
