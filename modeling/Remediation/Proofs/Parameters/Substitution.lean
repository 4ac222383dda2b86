import Remediation.Substitution
import Remediation.Proofs.Distinct
import Remediation.Proofs.Fields
import Remediation.Proofs.Result
/-!
# Filling a template

A template asks the facts for the names of its placeholders and for nothing else, so that facts that
agree on them fill it alike (`substitute_congr`).  It is filled only if all of them are known
(`isSome_of_substitute`); if the facts can be shown, those that are not are all that can go wrong
(`eq_missing_of_substitute`).
-/

set_option autoImplicit false

namespace Remediation

/-- Facts whose integers are all short enough to be shown. -/
def Facts.AreShowable (facts : Facts) : Prop := ∀ fact ∈ facts, fact.2.isShowable = true

theorem Value.exists_inText {v : Value} (h : v.isShowable = true) : ∃ s, v.inText = .ok s := by
  unfold inText
  split
  · exact ⟨_, rfl⟩
  · split
    · exact ⟨_, rfl⟩
    · exact ⟨v.shown, if_pos h⟩

namespace Template

variable {facts other : Facts} {pieces : List Piece} {name s : String} {e : Fault}

theorem mem_namesFrom :
    name ∈ namesFrom [] s ↔ name ∈ (parse s.toList).filterMap Piece.name? := by
  rw [namesFrom, mem_foldl_appendNew, or_iff_right List.not_mem_nil]

/-! ## What is missing -/

theorem mem_missing : name ∈ missing facts pieces ↔
    name ∈ pieces.filterMap Piece.name? ∧ entryAt? facts name = none := by
  rw [missing, mem_foldl_appendNew, or_iff_right List.not_mem_nil, List.mem_filter,
    Option.isNone_iff_eq_none]

theorem nodup_missing (facts : Facts) (pieces : List Piece) : (missing facts pieces).Nodup :=
  nodup_foldl_appendNew List.nodup_nil _

theorem missing_eq_nil_iff : missing facts pieces = [] ↔
    ∀ name ∈ pieces.filterMap Piece.name?, (entryAt? facts name).isSome := by
  simp only [List.eq_nil_iff_forall_not_mem, mem_missing, not_and, Option.isSome_iff_ne_none, ne_eq]

/-! ## What pieces ask for -/

theorem Piece.fill_congr {p : Piece}
    (h : ∀ name ∈ p.name?, entryAt? facts name = entryAt? other name) :
    p.fill facts = p.fill other := by
  cases p with
  | char c => rfl
  | placeholder spelling => rw [fill, fill, h _ rfl]

/-- Pieces are filled one by one. -/
theorem fill_eq_mapM (facts : Facts) (pieces : List Piece) :
    fill facts pieces = (pieces.mapM (Piece.fill facts)).map List.flatten := by
  induction pieces with
  | nil => rfl
  | cons p ps ih =>
    rw [fill, ih, List.mapM_cons]
    cases p.fill facts with
    | error e => rfl
    | ok cs => cases ps.mapM (Piece.fill facts) <;> rfl

theorem fill_congr (h : ∀ name ∈ pieces.filterMap Piece.name?,
    entryAt? facts name = entryAt? other name) : fill facts pieces = fill other pieces := by
  have hpieces : ∀ p ∈ pieces, p.fill facts = p.fill other := fun p hp =>
    Piece.fill_congr fun name hname => h name (List.mem_filterMap.2 ⟨p, hp, hname⟩)
  rw [fill_eq_mapM, fill_eq_mapM, mapM_congr hpieces]

theorem missing_congr (h : ∀ name ∈ pieces.filterMap Piece.name?,
    entryAt? facts name = entryAt? other name) : missing facts pieces = missing other pieces := by
  rw [missing, missing, List.filter_congr fun name hname => by rw [h name hname]]

/-- Facts that agree on the names of a template fill it alike. -/
theorem substitute_congr (h : ∀ name ∈ namesFrom [] s, entryAt? facts name = entryAt? other name) :
    substitute s facts = substitute s other := by
  have hpieces : ∀ name ∈ (parse s.toList).filterMap Piece.name?,
      entryAt? facts name = entryAt? other name := fun name hname => h name (mem_namesFrom.2 hname)
  rw [substitute, substitute, fill_congr hpieces, missing_congr hpieces]

/-! ## What filling gives -/

/-- Pieces that stand for a text each are filled with these texts. -/
theorem fill_eq_flatMap {stand : Piece → List Char}
    (h : ∀ p ∈ pieces, p.fill facts = .ok (stand p)) :
    fill facts pieces = .ok (pieces.flatMap stand) := by
  induction pieces with
  | nil => rfl
  | cons p ps ih =>
    obtain ⟨hp, hps⟩ := List.forall_mem_cons.1 h
    rw [fill, hp, ih hps]
    rfl

theorem Piece.exists_fill (h : facts.AreShowable) (p : Piece) : ∃ cs, p.fill facts = .ok cs := by
  cases p with
  | char c => exact ⟨[c], rfl⟩
  | placeholder spelling =>
    rw [fill]
    split
    next => exact ⟨[], rfl⟩
    next v hv =>
      obtain ⟨s, hs⟩ := Value.exists_inText (h _ (mem_of_entryAt? hv))
      exact ⟨s.toList, by rw [hs]; rfl⟩

theorem exists_fill (h : facts.AreShowable) (pieces : List Piece) :
    ∃ cs, fill facts pieces = .ok cs := by
  choose stand hstand using Piece.exists_fill h
  exact ⟨_, fill_eq_flatMap fun p _ => hstand p⟩

/-- A template is filled, or one of its facts cannot be shown, or names are missing. -/
theorem substitute_eq_error (h : substitute s facts = .error e) :
    fill facts (parse s.toList) = .error e ∨ missing facts (parse s.toList) ≠ [] ∧
      e = .missingParameters (missing facts (parse s.toList)) (.template s) := by
  simp only [substitute] at h
  split at h
  next hfill => exact Or.inl (hfill.trans (congrArg Except.error (Except.error.inj h)))
  next =>
    split at h
    next => cases h
    next hsome => exact Or.inr ⟨hsome, (Except.error.inj h).symm⟩

theorem substitute_of_fill {cs : List Char} (h : fill facts (parse s.toList) = .ok cs)
    (hnone : missing facts (parse s.toList) = []) :
    substitute s facts = .ok (String.ofList cs) := by
  simp only [substitute, h, hnone]

/-- A template is filled only if all of its names are known. -/
theorem isSome_of_substitute {filled : String} (h : substitute s facts = .ok filled) :
    ∀ name ∈ namesFrom [] s, (entryAt? facts name).isSome := by
  intro name hname
  simp only [substitute] at h
  split at h
  next => cases h
  next =>
    split at h
    next hnone => exact missing_eq_nil_iff.1 hnone name (mem_namesFrom.1 hname)
    next => cases h

/-- Where all facts can be shown, a template is not filled only if names are missing. -/
theorem eq_missing_of_substitute (h : facts.AreShowable)
    (hsubstitute : substitute s facts = .error e) :
    e = .missingParameters (missing facts (parse s.toList)) (.template s) := by
  obtain ⟨cs, hfill⟩ := exists_fill h (parse s.toList)
  rcases substitute_eq_error hsubstitute with hfault | ⟨-, he⟩
  · cases hfill.symm.trans hfault
  · exact he

end Template

end Remediation
