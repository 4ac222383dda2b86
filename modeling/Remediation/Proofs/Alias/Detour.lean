import Remediation.Proofs.Alias
/-!
# Detours

A name that stands for at most one other name is a detour.  What names stand for is the same if the
detour is left out, and that other name takes its place wherever it stands (`Detour.resolve_eq`).

Where a search comes back to the detour it finds nothing, and neither does the direct search: it has
been at the end of the detour already.  This is what has to be known along the way (`Passed`).
-/

set_option autoImplicit false

namespace Remediation.Aliases

variable {table direct : Aliases} {detour name : String} {onward targets seen seen' : List String}

theorem finds_of_not_ends_of_seen (h : ¬ table.Ends name) (hseen : name ∈ seen) :
    table.finds seen name = [] := by
  obtain ⟨targets, hlookup, hne⟩ := exists_targets_of_not_ends h
  exact finds_of_seen hlookup hne hseen

/-! ## Leaving a name out -/

/-- The names that take the place of a name if the detour is left out. -/
def bypass (detour : String) (onward : List String) (name : String) : List String :=
  if name = detour then onward else [name]

@[simp] theorem bypass_self (detour : String) (onward : List String) :
    bypass detour onward detour = onward := if_pos rfl

theorem bypass_of_ne (hne : name ≠ detour) (onward : List String) :
    bypass detour onward name = [name] := if_neg hne

/-- Names among which the detour is not stay as they are. -/
theorem flatMap_bypass_of_notMem {names : List String} (h : detour ∉ names)
    (onward : List String) : names.flatMap (bypass detour onward) = names := by
  have hself : names.flatMap (bypass detour onward) = names.flatMap fun name => [name] := by
    refine List.flatMap_congr ?_
    intro name hname
    exact bypass_of_ne (ne_of_mem_of_not_mem hname h) onward
  rw [hself, List.flatMap_singleton']

/-- A name that stands for at most one other name, and a table without it. -/
structure Detour (table direct : Aliases) (detour : String) (onward : List String) : Prop where
  lookup_self : lookupField table detour = some onward
  single : ∀ a ∈ onward, ∀ b ∈ onward, a = b
  leaves : detour ∉ onward
  lookup_other : ∀ name, name ≠ detour → lookupField direct name =
    (lookupField table name).map (List.flatMap (bypass detour onward))
  /-- No other name stands for itself because the detour is left out. -/
  apart : ∀ name targets, name ≠ detour → lookupField table name = some targets →
    targets.flatMap (bypass detour onward) = [name] → targets = [name]

/-! ## Searching -/

/-- A search that has come by the detour has come by its end, or is there. -/
def Passed (direct : Aliases) (detour : String) (onward seen seen' : List String)
    (name : String) : Prop :=
  detour ∈ seen' → ∀ goal ∈ onward, goal = name ∨ goal ∈ seen ∧ ¬ direct.Ends goal

theorem Passed.next (h : Passed direct detour onward seen seen' name) (hne : name ≠ detour)
    (hends : ¬ direct.Ends name) (target : String) :
    Passed direct detour onward (name :: seen) (name :: seen') target := by
  intro hpassed goal hgoal
  right
  rcases h (List.mem_of_ne_of_mem hne.symm hpassed) goal hgoal with rfl | ⟨hmem, hleads⟩
  · exact ⟨List.mem_cons_self, hends⟩
  · exact ⟨List.mem_cons_of_mem _ hmem, hleads⟩

namespace Detour

theorem ends_iff (h : Detour table direct detour onward) (hne : name ≠ detour) :
    direct.Ends name ↔ table.Ends name := by
  unfold Ends
  rw [h.lookup_other name hne]
  cases hlookup : lookupField table name with
  | none => simp
  | some targets =>
    simp only [Option.map_some, reduceCtorEq, Option.some.injEq, false_or]
    constructor
    · exact h.apart name targets hne hlookup
    · rintro rfl
      simp [bypass_of_ne hne]

theorem not_ends_self (h : Detour table direct detour onward) : ¬ table.Ends detour := by
  rintro (hnone | hself)
  · rw [h.lookup_self] at hnone
    cases hnone
  · have heq : onward = [detour] := Option.some.inj (h.lookup_self.symm.trans hself)
    exact h.leaves (heq ▸ List.mem_cons_self)

/-- A search finds what it finds without the detour; at the detour, it finds what is found at its
end. -/
theorem finds_eq (h : Detour table direct detour onward) (seen' : List String) (name : String) :
    ∀ seen, (∀ x, x ≠ detour → (x ∈ seen' ↔ x ∈ seen)) →
      Passed direct detour onward seen seen' name →
      table.finds seen' name = (bypass detour onward name).flatMap (direct.finds seen) := by
  have hend : ∀ {name : String}, table.Ends name → ∀ seen seen', table.finds seen' name =
      (bypass detour onward name).flatMap (direct.finds seen) := by
    intro name hends seen seen'
    have hne : name ≠ detour := fun heq => h.not_ends_self (heq ▸ hends)
    rw [finds_of_ends hends, bypass_of_ne hne, List.flatMap_singleton,
      finds_of_ends ((h.ends_iff hne).2 hends)]
  induction seen', name using finds.induct table with
  | case1 seen' name hnone => exact fun seen _ _ => hend (Or.inl hnone) seen seen'
  | case2 seen' name hself => exact fun seen _ _ => hend (Or.inr hself) seen seen'
  | case3 seen' name targets hlookup hother hseen =>
    intro seen hagree hpassed
    rw [finds_of_seen hlookup hother hseen]
    by_cases hne : name = detour
    · subst hne
      rw [bypass_self]
      refine (List.flatMap_eq_nil_iff.2 ?_).symm
      intro goal hgoal
      rcases hpassed hseen goal hgoal with rfl | ⟨hmem, hleads⟩
      · exact absurd hgoal h.leaves
      · exact finds_of_not_ends_of_seen hleads hmem
    · have hleads : ¬ direct.Ends name := by
        rw [h.ends_iff hne]
        exact not_ends_of_lookup hlookup hother
      rw [bypass_of_ne hne, List.flatMap_singleton,
        finds_of_not_ends_of_seen hleads ((hagree name hne).1 hseen)]
  | case4 seen' name targets hlookup hother hfresh ih =>
    intro seen hagree hpassed
    rw [finds_of_fresh hlookup hother hfresh]
    by_cases hne : name = detour
    · subst hne
      obtain rfl := Option.some.inj (hlookup.symm.trans h.lookup_self)
      rw [bypass_self]
      refine List.flatMap_congr ?_
      intro goal hgoal
      have hleft : goal ≠ name := ne_of_mem_of_not_mem hgoal h.leaves
      -- The end of the detour is where the search goes next.
      have hpassed' : Passed direct name targets seen (name :: seen') goal := by
        intro _ other hmem
        exact Or.inl (h.single other hmem goal hgoal)
      rw [ih goal seen (by grind) hpassed', bypass_of_ne hleft, List.flatMap_singleton]
    · have hdirect : lookupField direct name = some (targets.flatMap (bypass detour onward)) := by
        rw [h.lookup_other name hne, hlookup, Option.map_some]
      have hother' : targets.flatMap (bypass detour onward) ≠ [name] :=
        fun heq => hother (h.apart name targets hne hlookup heq)
      have hpassed' := hpassed.next hne (not_ends_of_lookup hdirect hother')
      rw [bypass_of_ne hne, List.flatMap_singleton,
        finds_of_fresh hdirect hother' (mt (hagree name hne).2 hfresh), List.flatMap_assoc]
      refine List.flatMap_congr ?_
      intro target _
      exact ih target (name :: seen) (by grind) (hpassed' target)

/-- Names stand for the same without the detour. -/
theorem resolve_eq (h : Detour table direct detour onward) (names : List String) :
    table.resolve names = direct.resolve (names.flatMap (bypass detour onward)) := by
  rw [resolve_eq_foldl, resolve_eq_foldl, List.flatMap_assoc]
  congr 1
  refine List.flatMap_congr ?_
  intro name _
  exact h.finds_eq [] name [] (by simp) (by simp [Passed])

end Detour

end Remediation.Aliases
