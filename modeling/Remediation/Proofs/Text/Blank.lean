import Remediation.Text.Blank
/-!
# Texts without blanks around them

A text whose blanks have been cut off has none at its ends, and of such a text nothing is cut off.
-/

set_option autoImplicit false

namespace Remediation.Text

variable {cs : List Char}

/-- Neither the first character nor the last one is blank. -/
structure Stripped (cs : List Char) : Prop where
  first : ∀ c ∈ cs.head?, isBlank c = false
  last : ∀ c ∈ cs.getLast?, isBlank c = false

theorem isBlank_of_mem_head?_dropWhile {c : Char} (h : c ∈ (cs.dropWhile isBlank).head?) :
    isBlank c = false := by
  have hnot := List.head?_dropWhile_not isBlank cs
  rw [Option.mem_def.1 h] at hnot
  exact hnot

theorem stripped_stripChars (cs : List Char) : Stripped (stripChars cs) where
  first := by
    intro c hc
    -- What is cut off the end leaves the first character, if it leaves one.
    have hprefix : stripChars cs <+: cs.dropWhile isBlank := by
      rw [← List.reverse_suffix, stripChars, trimBoth, List.reverse_reverse]
      exact List.dropWhile_suffix _
    obtain ⟨behind, hbehind⟩ := hprefix
    obtain ⟨rest, hrest⟩ := List.head?_eq_some_iff.1 hc
    have hfirst : c ∈ (cs.dropWhile isBlank).head? := by
      rw [← hbehind, hrest]
      rfl
    exact isBlank_of_mem_head?_dropWhile hfirst
  last := by
    intro c hc
    rw [stripChars, trimBoth, List.getLast?_reverse] at hc
    exact isBlank_of_mem_head?_dropWhile hc

theorem dropWhile_isBlank_of_head? (h : ∀ c ∈ cs.head?, isBlank c = false) :
    cs.dropWhile isBlank = cs := by
  cases cs with
  | nil => rfl
  | cons c rest => exact List.dropWhile_cons_of_neg (by simp [h c rfl])

theorem Stripped.stripChars_eq (h : Stripped cs) : stripChars cs = cs := by
  have hlast : ∀ c ∈ cs.reverse.head?, isBlank c = false := by
    rw [List.head?_reverse]
    exact h.last
  rw [stripChars, trimBoth, dropWhile_isBlank_of_head? h.first, dropWhile_isBlank_of_head? hlast,
    List.reverse_reverse]

/-- Of a text without blanks around it nothing is cut off. -/
theorem Stripped.strip_eq {s : String} (h : Stripped s.toList) : strip s = s := by
  rw [strip, h.stripChars_eq, String.ofList_toList]

theorem Stripped.of_forall (h : ∀ c ∈ cs, isBlank c = false) : Stripped cs where
  first := fun c hc => h c (List.mem_of_mem_head? hc)
  last := fun c hc => h c (List.mem_of_getLast? hc)

end Remediation.Text
