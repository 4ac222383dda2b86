import Remediation.Proofs.Distinct
import Remediation.Proofs.Text.Cut
import Remediation.Schedule
/-!
# What a step requires

A step requires the steps that it names and the steps whose outputs it takes.  Adding the sources of
its outputs to its dependencies makes it name all that it requires (`mem_dependsOn_withSources`).  They
are added behind those that it names, each once, in the order in which its references take from them, and
nothing else is changed (`sourced_withSources`).
-/

set_option autoImplicit false

namespace Remediation.Step

variable {s : Step}

/-- An output reference takes from another step: it is the id of that step, which has no points, a
point, and the name of an output. -/
def TakesFrom (s : Step) (ref source : String) : Prop :=
  source ≠ "" ∧ source ≠ s.id ∧ '.' ∉ source.toList ∧ ∃ output, ref = source ++ "." ++ output

/-- A step depends on another step by name, or because it takes one of its outputs. -/
def Requires (s : Step) (d : String) : Prop :=
  d ∈ s.dependsOn ∨ ∃ param ref, (param, ref) ∈ s.outputRefs ∧ s.TakesFrom ref d

theorem source?_eq_some_iff {ref source : String} :
    s.source? ref = some source ↔ s.TakesFrom ref source := by
  constructor
  · intro h
    rcases Text.notMem_or_eq_append '.' ref with hnone | ⟨before, behind, hbefore, rfl⟩
    · simp [source?, Text.cut_of_notMem hnone] at h
    · simp only [source?, Text.cut_append hbefore] at h
      split at h
      next => cases h
      next hproper =>
        obtain rfl : before = source := by simpa using h
        exact ⟨fun he => hproper (Or.inl he), fun he => hproper (Or.inr he), hbefore, behind, rfl⟩
  · rintro ⟨hne, hother, hpoints, output, rfl⟩
    have hcut : Text.cut '.' (source ++ "." ++ output) = (source, some output) :=
      Text.cut_append hpoints output
    simp [source?, hcut, hne, hother]

/-- An output reference takes from one step only. -/
theorem TakesFrom.unique {ref source source' : String} (h : s.TakesFrom ref source)
    (h' : s.TakesFrom ref source') : source = source' :=
  Option.some.inj ((source?_eq_some_iff.2 h).symm.trans (source?_eq_some_iff.2 h'))

@[simp] theorem withSources_id (s : Step) : s.withSources.id = s.id := rfl

/-- The sources of a step are the steps that its output references take from. -/
theorem mem_sources {d : String} :
    d ∈ s.sources ↔ ∃ param ref, (param, ref) ∈ s.outputRefs ∧ s.TakesFrom ref d := by
  simp only [sources, List.mem_filterMap, source?_eq_some_iff, Prod.exists]

/-- With its sources added a step names exactly what it requires. -/
theorem mem_dependsOn_withSources {d : String} : d ∈ s.withSources.dependsOn ↔ s.Requires d := by
  rw [withSources, mem_foldl_appendNew, mem_sources, Requires]

/-- Adding its sources changes nothing about what a step requires. -/
@[simp] theorem requires_withSources {d : String} : s.withSources.Requires d ↔ s.Requires d := by
  constructor
  · rintro (hnamed | htakes)
    · exact mem_dependsOn_withSources.1 hnamed
    · exact Or.inr htakes
  · intro h
    exact Or.inl (mem_dependsOn_withSources.2 h)

/-- Sources that a step names already are not added again. -/
theorem withSources_eq_self (h : ∀ d, s.Requires d → d ∈ s.dependsOn) : s.withSources = s := by
  have hsources : s.sources ⊆ s.dependsOn := fun d hd => h d (Or.inr (mem_sources.1 hd))
  rw [withSources, foldl_appendNew_of_subset hsources]

@[simp] theorem withSources_withSources (s : Step) : s.withSources.withSources = s.withSources :=
  withSources_eq_self fun _ hd => mem_dependsOn_withSources.2 (requires_withSources.1 hd)

/-- A step without output references requires what it names. -/
theorem requires_iff_of_outputRefs_eq_nil (h : s.outputRefs = []) {d : String} :
    s.Requires d ↔ d ∈ s.dependsOn := by
  simp [Requires, h]

/-! ## What is added -/

/-- A step takes an output of one step before it takes any of another one. -/
def TakesFirst (s : Step) (a b : String) : Prop :=
  ∃ front e behind, s.outputRefs = front ++ e :: behind ∧ s.TakesFrom e.2 a ∧
    ∀ f ∈ front, ¬ s.TakesFrom f.2 b

/-- The steps that a step requires but does not name, each once, in the order of its references. -/
structure AreAdded (s : Step) (added : List String) : Prop where
  nodup : added.Nodup
  mem_iff : ∀ d, d ∈ added ↔
    (∃ param ref, (param, ref) ∈ s.outputRefs ∧ s.TakesFrom ref d) ∧ d ∉ s.dependsOn
  inOrder : added.Pairwise s.TakesFirst

/-- A step with the steps added whose outputs it takes, and all else as it was. -/
def Sourced (s t : Step) : Prop :=
  ∃ added, s.AreAdded added ∧ t = { s with dependsOn := s.dependsOn ++ added }

/-- What stands first among the sources is taken first by the references. -/
theorem takesFirst_of_sources {front behind : List String} {a b : String}
    (hsources : s.sources = front ++ a :: behind) (hb : b ∉ front) : s.TakesFirst a b := by
  obtain ⟨early, late, hrefs, hearly, hlate⟩ := List.filterMap_eq_append_iff.1 hsources
  obtain ⟨between, e, rest, rfl, hbetween, he, -⟩ := List.filterMap_eq_cons_iff.1 hlate
  -- The references in front of the one to `a` give what stands in front of `a`, or no source at all.
  refine ⟨early ++ between, e, rest, by rw [hrefs, List.append_assoc],
    source?_eq_some_iff.1 he, ?_⟩
  intro f hf htakes
  have hsource := source?_eq_some_iff.2 htakes
  rcases List.mem_append.1 hf with hf | hf
  · exact hb (hearly ▸ List.mem_filterMap.2 ⟨f, hf, hsource⟩)
  · cases (hbetween f hf).symm.trans hsource

theorem sourced_withSources (s : Step) : s.Sourced s.withSources := by
  obtain ⟨added, hfold, hnew⟩ := exists_foldl_appendNew s.dependsOn s.sources
  refine ⟨added, ⟨hnew.nodup, ?_, hnew.inOrder.imp ?_⟩, ?_⟩
  · intro d
    rw [hnew.mem_iff, mem_sources]
  · rintro a b ⟨front, behind, hsources, hb⟩
    exact takesFirst_of_sources hsources hb
  · rw [withSources, hfold]

end Remediation.Step
