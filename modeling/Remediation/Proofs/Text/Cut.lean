import Remediation.Text.Split
/-!
# Cutting a text at its separators

A text is cut where its first separator stands (`cut_append`), and nowhere if it has none
(`cut_of_notMem`).  It is split there as well, and then what stands behind (`split_append`), so that
a text of two pieces is one that has a single separator (`split_eq_pair_iff`).
-/

set_option autoImplicit false

namespace Remediation.Text

variable {sep : Char}

theorem cutChars_append {before : List Char} (h : sep ∉ before) (behind : List Char) :
    cutChars sep (before ++ sep :: behind) = (before, some behind) := by
  induction before with
  | nil => simp [cutChars]
  | cons c cs ih =>
    obtain ⟨hc, hcs⟩ := List.ne_and_not_mem_of_not_mem_cons h
    simp [cutChars, hc.symm, ih hcs]

theorem cutChars_of_notMem {cs : List Char} (h : sep ∉ cs) : cutChars sep cs = (cs, none) := by
  induction cs with
  | nil => rfl
  | cons c cs ih =>
    obtain ⟨hc, hcs⟩ := List.ne_and_not_mem_of_not_mem_cons h
    simp [cutChars, hc.symm, ih hcs]

/-- A text is cut at the first separator. -/
theorem cut_append {before : String} (h : sep ∉ before.toList) (behind : String) :
    cut sep (before ++ String.singleton sep ++ behind) = (before, some behind) := by
  have hchars : (before ++ String.singleton sep ++ behind).toList =
      before.toList ++ sep :: behind.toList := by
    simp
  rw [cut, hchars, cutChars_append h]
  simp

/-- A text without separators is not cut. -/
theorem cut_of_notMem {s : String} (h : sep ∉ s.toList) : cut sep s = (s, none) := by
  rw [cut, cutChars_of_notMem h]
  simp

/-! ## Splitting -/

theorem splitChars_of_notMem {cs : List Char} (h : sep ∉ cs) : splitChars sep cs = [cs] := by
  induction cs with
  | nil => rfl
  | cons c cs ih =>
    obtain ⟨hc, hcs⟩ := List.ne_and_not_mem_of_not_mem_cons h
    simp [splitChars, hc.symm, ih hcs]

/-- The pieces in front of a separator come before those behind it. -/
theorem splitChars_append_cons (before behind : List Char) :
    splitChars sep (before ++ sep :: behind) = splitChars sep before ++ splitChars sep behind := by
  induction before with
  | nil => simp [splitChars]
  | cons c cs ih =>
    by_cases hc : c = sep
    · simp [splitChars, hc, ih]
    · obtain ⟨piece, pieces, hpieces⟩ := List.exists_cons_of_ne_nil (splitChars_ne_nil sep cs)
      simp [splitChars, hc, ih, hpieces]

theorem splitChars_append {before : List Char} (h : sep ∉ before) (behind : List Char) :
    splitChars sep (before ++ sep :: behind) = before :: splitChars sep behind := by
  rw [splitChars_append_cons, splitChars_of_notMem h, List.singleton_append]

/-- Pieces that have no separator in them are parted again where they have been joined. -/
theorem splitChars_intercalate {pieces : List (List Char)} (hne : pieces ≠ [])
    (h : ∀ piece ∈ pieces, sep ∉ piece) : splitChars sep ([sep].intercalate pieces) = pieces := by
  induction pieces with
  | nil => exact absurd rfl hne
  | cons piece rest ih =>
    obtain ⟨hpiece, hrest⟩ := List.forall_mem_cons.1 h
    cases rest with
    | nil => rw [List.intercalate_singleton, splitChars_of_notMem hpiece]
    | cons next rest =>
      rw [List.intercalate_cons_cons, List.append_assoc, List.singleton_append,
        splitChars_append hpiece, ih (List.cons_ne_nil _ _) hrest]

/-- A text is split at the first separator, and then behind it. -/
theorem split_append {before : String} (h : sep ∉ before.toList) (behind : String) :
    split sep (before ++ String.singleton sep ++ behind) = before :: split sep behind := by
  have hchars : (before ++ String.singleton sep ++ behind).toList =
      before.toList ++ sep :: behind.toList := by
    simp
  rw [split, hchars, splitChars_append h]
  simp [split]

/-- A text without separators is one piece. -/
theorem split_of_notMem {s : String} (h : sep ∉ s.toList) : split sep s = [s] := by
  rw [split, splitChars_of_notMem h]
  simp

theorem split_ne_nil (sep : Char) (s : String) : split sep s ≠ [] := by
  simp [split, splitChars_ne_nil]

/-- A text either has no separator, or it is a part without separators, a separator and the rest. -/
theorem notMem_or_eq_append (sep : Char) (s : String) :
    sep ∉ s.toList ∨ ∃ before behind : String,
      sep ∉ before.toList ∧ s = before ++ String.singleton sep ++ behind := by
  by_cases hsep : sep ∈ s.toList
  · obtain ⟨before, behind, hchars, hbefore⟩ := List.eq_append_cons_of_mem hsep
    refine Or.inr ⟨String.ofList before, String.ofList behind, by simpa using hbefore, ?_⟩
    rw [← String.toList_inj, hchars]
    simp
  · exact Or.inl hsep

/-- A text of two pieces has a single separator between them. -/
theorem split_eq_pair_iff {s a b : String} :
    split sep s = [a, b] ↔
      sep ∉ a.toList ∧ sep ∉ b.toList ∧ s = a ++ String.singleton sep ++ b := by
  constructor
  · intro h
    rcases notMem_or_eq_append sep s with hnone | ⟨before, behind, hbefore, rfl⟩
    · simp [split_of_notMem hnone] at h
    · rw [split_append hbefore] at h
      obtain ⟨rfl, hrest⟩ := List.cons.inj h
      rcases notMem_or_eq_append sep behind with hnone | ⟨next, more, hnext, rfl⟩
      · rw [split_of_notMem hnone] at hrest
        obtain rfl : behind = b := by simpa using hrest
        exact ⟨hbefore, hnone, rfl⟩
      · rw [split_append hnext] at hrest
        exact absurd (List.cons.inj hrest).2 (split_ne_nil sep more)
  · rintro ⟨ha, hb, rfl⟩
    rw [split_append ha, split_of_notMem hb]

end Remediation.Text
