import Remediation.Proofs.Alias.Detour
import Remediation.Proofs.Expansion.Mention
/-!
# A sibling that has become nothing

A sibling that has become nothing and depends on at most one name is a detour: what depends on it may
depend on that name instead, and the steps of the scope are the same as if the sibling were not there
(`Siblings.finish_silent`).
-/

set_option autoImplicit false

namespace Remediation.Expansion

open Aliases (bypass bypass_self bypass_of_ne flatMap_bypass_of_notMem)
open Schedule (ids)

variable {w : Setting} {sc : Scope} {yields yields' first second : List Yield} {y y' : Yield}
  {s : Step} {x : String} {onward : List String}

/-! ## Inheriting, as far as it is resolved -/

/-- A step that inherits the dependencies of its rule depends on what they and its own stand for. -/
theorem resolve_dependsOn_of_inherits (table : Aliases) (h : y.Inherits s) :
    table.resolve (y.adopted s).dependsOn = table.resolve (y.deps ++ s.dependsOn) := by
  have hnone : ¬ s.dependsOn.any (· ∈ ids y.steps) = true := by simpa using h.2
  unfold Yield.adopted
  split
  next =>
    rw [inherit, if_neg hnone]
    exact table.resolve_foldl_appendNew (y.deps ++ s.dependsOn)
  next hdeps =>
    have hnil : y.deps = [] := by simpa [h.1] using hdeps
    rw [hnil, List.nil_append]

/-! ## Leaving a name out -/

/-- A step that depends on what takes the place of a name. -/
def bypassing (x : String) (onward : List String) (s : Step) : Step :=
  { s with dependsOn := s.dependsOn.flatMap (bypass x onward) }

theorem bypassing_eq_self (h : x ∉ s.dependsOn) (onward : List String) :
    bypassing x onward s = s := by
  rw [bypassing, flatMap_bypass_of_notMem h]

namespace Yield

/-- A yield that depends on what takes the place of a name. -/
def bypassing (x : String) (onward : List String) (y : Yield) : Yield where
  rule := y.rule
  deps := y.deps.flatMap (bypass x onward)
  steps := y.steps.map (Expansion.bypassing x onward)

@[simp] theorem rule_bypassing : (y.bypassing x onward).rule = y.rule := rfl

@[simp] theorem ids_bypassing : ids (y.bypassing x onward).steps = ids y.steps := by
  simp [bypassing, Expansion.bypassing, ids]

/-- A yield that does not depend on a name is the same without it. -/
theorem bypassing_eq_self (hdeps : x ∉ y.deps) (hsteps : ∀ s ∈ y.steps, x ∉ s.dependsOn)
    (onward : List String) : y.bypassing x onward = y := by
  have hsame : y.steps.map (Expansion.bypassing x onward) = y.steps := by
    refine (List.map_congr_left ?_).trans (List.map_id y.steps)
    intro s hs
    exact Expansion.bypassing_eq_self (hsteps s hs) onward
  rw [bypassing, flatMap_bypass_of_notMem hdeps, hsame]

theorem stands_bypassing (h : x ∉ ids y.steps) :
    (y.bypassing x onward).stands = y.stands.flatMap (bypass x onward) := by
  cases hsteps : y.steps with
  | nil => simp [stands, bypassing, hsteps]
  | cons s rest =>
    have hsame : ids (y.bypassing x onward).steps = ids y.steps := ids_bypassing
    have hnonempty : (y.bypassing x onward).steps.isEmpty = false := by simp [bypassing, hsteps]
    rw [stands, stands, hsteps, List.isEmpty_cons, hnonempty, ← hsteps]
    simp only [Bool.false_eq_true, if_false]
    rw [hsame, flatMap_bypass_of_notMem h]

theorem inherits_bypassing_iff (h : y.rule.isComposite = true → x ∉ s.dependsOn) :
    (y.bypassing x onward).Inherits (Expansion.bypassing x onward s) ↔ y.Inherits s := by
  unfold Inherits
  rw [ids_bypassing, rule_bypassing]
  refine and_congr_right ?_
  intro hcomposite
  rw [Expansion.bypassing_eq_self (h hcomposite)]

end Yield

/-- A step leaves its scope the same if a detour is left out. -/
theorem settled_bypassing (hdetour : (sc.table yields).Detour (sc.table yields') x onward)
    (h : y.rule.isComposite = true → x ∉ s.dependsOn) :
    sc.settled yields' (y.bypassing x onward) (bypassing x onward s) = sc.settled yields y s := by
  have hresolve : (sc.table yields').resolve
        ((y.bypassing x onward).adopted (bypassing x onward s)).dependsOn =
      (sc.table yields).resolve (y.adopted s).dependsOn := by
    by_cases hinherits : y.Inherits s
    · rw [resolve_dependsOn_of_inherits _ hinherits,
        resolve_dependsOn_of_inherits _ ((Yield.inherits_bypassing_iff h).2 hinherits),
        hdetour.resolve_eq, List.flatMap_append]
      rfl
    · rw [adopted_eq_self hinherits, adopted_eq_self (mt (Yield.inherits_bypassing_iff h).1 hinherits),
        hdetour.resolve_eq]
      rfl
  rw [settled_eq_with, settled_eq_with (y := y)]
  simp only [Scope.settled, hresolve]
  rfl

/-! ## Leaving a sibling out -/

/-- A yield of a sibling, between those of others, that has become nothing.  It depends on one name at
most, and what depends on it depends on nothing else. -/
structure Scope.Transparent (sc : Scope) (first : List Yield) (y : Yield) (second : List Yield) :
    Prop where
  silent : y.steps = []
  single : ∀ a ∈ y.deps, ∀ b ∈ y.deps, a = b
  leaves : sc.pathId y.rule ∉ y.deps
  deps : ∀ y' ∈ first ++ second, sc.pathId y.rule ∈ y'.deps →
    y'.deps = [sc.pathId y.rule] ∧ sc.pathId y'.rule ∉ y.deps
  /-- No step below another sibling depends on it. -/
  steps : ∀ y' ∈ first ++ second, y'.rule.isComposite = true →
    ∀ s ∈ y'.steps, sc.pathId y.rule ∉ s.dependsOn

namespace Siblings

theorem mem_of_mem_others (hy' : y' ∈ first ++ second) : y' ∈ first ++ y :: second := by
  rcases List.mem_append.1 hy' with hfirst | hsecond
  · exact List.mem_append_left _ hfirst
  · exact List.mem_append_right _ (List.mem_cons_of_mem _ hsecond)

theorem nodup_others (h : Siblings w sc (first ++ y :: second)) :
    (sc.pathId y.rule :: (first ++ second).map fun y => sc.pathId y.rule).Nodup :=
  nodup_map_middle h.nodup_map_pathId

theorem pathId_ne_of_mem_others (h : Siblings w sc (first ++ y :: second))
    (hy' : y' ∈ first ++ second) : sc.pathId y'.rule ≠ sc.pathId y.rule :=
  fun heq => (List.nodup_cons.1 h.nodup_others).1 (List.mem_map.2 ⟨y', hy', heq⟩)

theorem notMem_ids_of_mem_others (h : Siblings w sc (first ++ y :: second))
    (hy' : y' ∈ first ++ second) : sc.pathId y.rule ∉ ids y'.steps := by
  intro hmem
  have hmiddle : y ∈ first ++ y :: second := by simp
  have hsame : y' = y := h.eq_of_mem_idsFrom (mem_of_mem_others hy') hmiddle
    (h.ids_subset (mem_of_mem_others hy') hmem) (Scope.pathId_mem_idsFrom sc y.rule)
  exact h.pathId_ne_of_mem_others hy' (congrArg (fun y => sc.pathId y.rule) hsame)

/-- What the other siblings stand for if a sibling is left out. -/
theorem lookupField_others (h : Siblings w sc (first ++ y :: second)) (hy' : y' ∈ first ++ second)
    (onward : List String) :
    lookupField (sc.table ((first ++ second).map (Yield.bypassing (sc.pathId y.rule) onward)))
      (sc.pathId y'.rule) = some (y'.stands.flatMap (bypass (sc.pathId y.rule) onward)) := by
  have hnodup : (((first ++ second).map (Yield.bypassing (sc.pathId y.rule) onward)).map
      fun y => sc.pathId y.rule).Nodup := by
    rw [List.map_map]
    exact (List.nodup_cons.1 h.nodup_others).2
  have hne : ∀ other ∈ (first ++ second).map (Yield.bypassing (sc.pathId y.rule) onward),
      sc.pathId other.rule ≠ "" := by
    intro other hother
    obtain ⟨y'', hy'', rfl⟩ := List.mem_map.1 hother
    have hrule : y''.rule ∈ sc.rules := h.rule_mem (mem_of_mem_others hy'')
    rw [Yield.rule_bypassing]
    exact h.pathId_ne_empty hrule
  have hlookup := lookupField_collect .start hnodup hne (List.mem_map_of_mem hy')
  rw [Yield.rule_bypassing, Yield.stands_bypassing (h.notMem_ids_of_mem_others hy')] at hlookup
  exact hlookup

/-- A sibling that has become nothing is a detour. -/
theorem detour (h : Siblings w sc (first ++ y :: second))
    (htransparent : sc.Transparent first y second) :
    (sc.table (first ++ y :: second)).Detour
      (sc.table ((first ++ second).map (Yield.bypassing (sc.pathId y.rule) y.deps)))
      (sc.pathId y.rule) y.deps where
  lookup_self := by
    have hlookup := h.lookupField_table (y := y) (by simp)
    rwa [stands_of_silent htransparent.silent] at hlookup
  single := htransparent.single
  leaves := htransparent.leaves
  lookup_other := by
    intro name hne
    by_cases hsibling : ∃ y' ∈ first ++ second, sc.pathId y'.rule = name
    · obtain ⟨y', hy', rfl⟩ := hsibling
      rw [h.lookupField_others hy', h.lookupField_table (mem_of_mem_others hy'), Option.map_some]
    · have hfree : ∀ other ∈ first ++ second, sc.pathId other.rule ≠ name :=
        fun other hother heq => hsibling ⟨other, hother, heq⟩
      have hnone : lookupField (sc.table (first ++ y :: second)) name = none := by
        refine lookupField_collect_of_ne .start ?_
        grind
      have hnone' : lookupField (sc.table ((first ++ second).map
          (Yield.bypassing (sc.pathId y.rule) y.deps))) name = none := by
        refine lookupField_collect_of_ne .start ?_
        intro other hother
        obtain ⟨y', hy', rfl⟩ := List.mem_map.1 hother
        exact hfree y' hy'
      rw [hnone, hnone', Option.map_none]
  apart := by
    intro name targets hne hlookup hself
    obtain ⟨y', hy', rfl, rfl⟩ := h.exists_of_lookupField hlookup
    by_cases hmem : sc.pathId y.rule ∈ y'.stands
    · have hother : y' ∈ first ++ second := by grind
      rcases mem_stands.1 hmem with ⟨hsilent, hdep⟩ | hemitted
      · obtain ⟨hdeps, hapart⟩ := htransparent.deps y' hother hdep
        rw [stands_of_silent hsilent, hdeps, List.flatMap_singleton, bypass_self] at hself
        exact absurd (hself ▸ List.mem_cons_self) hapart
      · exact absurd hemitted (h.notMem_ids_of_mem_others hother)
    · rwa [flatMap_bypass_of_notMem hmem] at hself

/-- The steps of siblings are the same without one that has become nothing. -/
theorem finish_silent (h : Siblings w sc (first ++ y :: second))
    (htransparent : sc.Transparent first y second) :
    (sc.collect .start (first ++ y :: second)).finish = (sc.collect .start
      ((first ++ second).map (Yield.bypassing (sc.pathId y.rule) y.deps))).finish := by
  have hothers : (sc.collect .start (first ++ y :: second)).finish = (first ++ second).flatMap
      fun y' => y'.steps.map (sc.settled (first ++ y :: second) y') := by
    rw [finish_collect, List.flatMap_append, List.flatMap_cons, htransparent.silent, List.map_nil,
      List.nil_append, List.flatMap_append]
  rw [hothers, finish_collect, List.flatMap_map]
  refine List.flatMap_congr ?_
  intro y' hy'
  rw [Yield.bypassing, List.map_map]
  refine List.map_congr_left ?_
  intro s hs
  exact (settled_bypassing (h.detour htransparent)
    fun hcomposite => htransparent.steps y' hy' hcomposite s hs).symm

end Siblings

end Remediation.Expansion
