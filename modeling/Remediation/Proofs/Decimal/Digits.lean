import Remediation.Decimal.Reading
/-!
# The digits of a number

A number is written in digits of ASCII, at least one, and only zero is written with a zero in front.
Where digits of every script are read, these are read as they stand (`map_asciiDigit_natDigits`).
-/

set_option autoImplicit false

namespace Remediation.Decimal

theorem isDigit_of_mem_natDigits {n : Nat} {c : Char} (h : c ∈ natDigits n) : c.isDigit = true :=
  Nat.isDigit_of_mem_toDigits (by decide) (by decide) h

/-- A number is written from a digit on. -/
theorem natDigits_eq_cons (n : Nat) : ∃ c rest, natDigits n = c :: rest ∧ c.isDigit = true := by
  obtain ⟨c, rest, hcons⟩ := List.exists_cons_of_ne_nil (Nat.toDigits_ne_nil (b := 10) (n := n))
  exact ⟨c, rest, hcons, isDigit_of_mem_natDigits (hcons ▸ List.mem_cons_self)⟩

/-- Only zero starts with zero. -/
theorem eq_zero_of_natDigits {n : Nat} {rest : List Char} (h : natDigits n = '0' :: rest) :
    n = 0 := by
  induction n using Nat.strongRecOn generalizing rest with
  | _ n ih =>
    unfold natDigits at h
    rw [Nat.toDigits_eq_if (by decide)] at h
    split at h
    next hsmall =>
      obtain ⟨hchar, -⟩ := List.cons_eq_cons.1 h
      exact Nat.digitChar_eq_zero.1 hchar
    next hlarge =>
      obtain ⟨c, front, hfront, -⟩ := natDigits_eq_cons (n / 10)
      have hcons : natDigits (n / 10) ++ [Nat.digitChar (n % 10)] = '0' :: rest := h
      rw [hfront, List.cons_append, List.cons_eq_cons] at hcons
      have hzero := ih (n / 10) (by omega) (hcons.1 ▸ hfront)
      omega

/-- An integer is written from a minus or a digit on. -/
theorem intDigits_eq_cons (n : Int) :
    ∃ c rest, intDigits n = c :: rest ∧ (c = '-' ∨ c.isDigit = true) := by
  cases n with
  | ofNat n =>
    obtain ⟨c, rest, hcons, hc⟩ := natDigits_eq_cons n
    exact ⟨c, rest, hcons, Or.inr hc⟩
  | negSucc n => exact ⟨'-', natDigits (n + 1), rfl, Or.inl rfl⟩

theorem length_natDigits_le {n width : Nat} (hwidth : 0 < width) (h : n < Nat.pow 10 width) :
    (natDigits n).length ≤ width :=
  (Nat.length_toDigits_le_iff (by decide) hwidth).2 h

/-- A number that is short enough to be written has no more digits than may be read. -/
theorem length_natDigits_le_limit {n : Nat} (h : n < digitBound) :
    (natDigits n).length ≤ digitLimit := by
  unfold digitBound at h
  exact length_natDigits_le (by decide) h

/-! ## Digits of ASCII among those of all scripts -/

/-- A digit of ASCII is a digit, stands for itself, and is not blank. -/
theorem asciiDigit_of_isDigit {c : Char} (h : c.isDigit = true) :
    Text.isDigit c = true ∧ asciiDigit c = c ∧ Text.isBlank c = false := by
  have hrange : 48 ≤ c.toNat ∧ c.toNat < 58 := by
    simp only [Char.isDigit, Bool.and_eq_true, decide_eq_true_eq] at h
    exact ⟨h.1, Nat.lt_succ_of_le h.2⟩
  have hall : ∀ n : Fin 10, Text.isDigit (Char.ofNat (48 + n)) = true ∧
      asciiDigit (Char.ofNat (48 + n)) = Char.ofNat (48 + n) ∧
      Text.isBlank (Char.ofNat (48 + n)) = false := by decide
  have hc := hall ⟨c.toNat - 48, by omega⟩
  have hcode : 48 + (c.toNat - 48) = c.toNat := by omega
  simpa [hcode, Char.ofNat_toNat] using hc

/-- What a number is written in are digits of a script. -/
theorem isDigit_natDigits {n : Nat} {c : Char} (h : c ∈ natDigits n) : Text.isDigit c = true :=
  (asciiDigit_of_isDigit (isDigit_of_mem_natDigits h)).1

theorem map_asciiDigit_natDigits (n : Nat) : (natDigits n).map asciiDigit = natDigits n := by
  have hsame : ∀ c ∈ natDigits n, asciiDigit c = c := fun c hc =>
    (asciiDigit_of_isDigit (isDigit_of_mem_natDigits hc)).2.1
  rw [List.map_congr_left hsame, List.map_id']

end Remediation.Decimal
