import Remediation.Json.Printer
import Remediation.Json.Reader
import Remediation.Proofs.Decimal.Digits
/-!
# Integers that are written and read

An integer is written as digits that do not start with zero unless they are a single zero, so that the
reader takes all of them.  It takes no more than that where behind them stands what may stand behind a
value (`Ends`).
-/

set_option autoImplicit false

namespace Remediation

namespace Json

/-- A character that may stand behind a value, and does not begin one. -/
def Stops (c : Char) : Prop := c = ',' ∨ c = ']' ∨ c = '\x7d' ∨ isGap c = true

instance (c : Char) : Decidable (Stops c) :=
  inferInstanceAs (Decidable (_ ∨ _ ∨ _ ∨ _))

/-- No number goes on there. -/
theorem Stops.not_number {c : Char} (h : Stops c) :
    c.isDigit = false ∧ c ≠ '.' ∧ c ≠ 'e' ∧ c ≠ 'E' := by
  simp only [Stops, isGap, Bool.or_eq_true, beq_iff_eq] at h
  rcases h with rfl | rfl | rfl | ((rfl | rfl) | rfl) | rfl <;> decide

/-- What may stand behind a value: nothing, or something that stops it. -/
def Ends (rest : List Char) : Prop := ∀ c ∈ rest.head?, Stops c

@[simp] theorem ends_nil : Ends [] := by simp [Ends]

@[simp] theorem ends_cons {c : Char} {rest : List Char} : Ends (c :: rest) ↔ Stops c := by
  simp [Ends]

theorem readFraction_of_ends {rest : List Char} (h : Ends rest) : readFraction rest = ([], rest) := by
  cases rest with
  | nil => rfl
  | cons c rest =>
    unfold readFraction
    split
    next heq => exact absurd (List.cons_eq_cons.1 heq).1 (ends_cons.1 h).not_number.2.1
    next => rfl

theorem readPower_of_ends {rest : List Char} (h : Ends rest) : readPower rest = (none, rest) := by
  cases rest with
  | nil => rfl
  | cons c rest =>
    obtain ⟨-, -, hsmall, hlarge⟩ := (ends_cons.1 h).not_number
    rw [readPower, if_neg (not_or.2 ⟨hsmall, hlarge⟩)]

theorem numberOf_of_ends {rest whole : List Char} (h : Ends rest) (negative : Bool)
    (hlength : whole.length ≤ Decimal.digitLimit) :
    numberOf negative whole rest = .ok (.int (Decimal.signedInt negative whole), rest) := by
  rw [numberOf, readFraction_of_ends h]
  simp [readPower_of_ends h, Nat.not_lt.2 hlength]

/-- The digits at the front are taken as far as they go. -/
theorem takeWhile_dropWhile_of_ends {digits rest : List Char}
    (hdigits : ∀ c ∈ digits, c.isDigit = true) (h : Ends rest) :
    (digits ++ rest).takeWhile Char.isDigit = digits ∧
      (digits ++ rest).dropWhile Char.isDigit = rest := by
  rw [List.takeWhile_append_of_pos hdigits, List.dropWhile_append_of_pos hdigits]
  cases rest with
  | nil => simp
  | cons c rest => simp [(ends_cons.1 h).not_number.1]

/-- The number of a sign at the digits behind it. -/
def unsigned (negative : Bool) (body : List Char) : Except JsonFault (Json × List Char) :=
  match body with
  | '0' :: rest => numberOf negative ['0'] rest
  | c :: _ =>
    if c.isDigit then
      numberOf negative (body.takeWhile Char.isDigit) (body.dropWhile Char.isDigit)
    else .error .malformed
  | [] => .error .malformed

theorem readNumber_minus (body : List Char) : readNumber ('-' :: body) = unsigned true body := rfl

theorem readNumber_cons {c : Char} (h : c ≠ '-') (body : List Char) :
    readNumber (c :: body) = unsigned false (c :: body) := by
  unfold readNumber
  split
  next negative digits heq =>
    split at heq
    next hcons => exact absurd (List.cons_eq_cons.1 hcons).1 h
    next =>
      obtain ⟨rfl, rfl⟩ := Prod.mk.inj heq
      rfl

theorem unsigned_natDigits {n : Nat} {rest : List Char} (hn : n < Decimal.digitBound)
    (h : Ends rest) (negative : Bool) :
    unsigned negative (Decimal.natDigits n ++ rest) =
      .ok (.int (Decimal.signedInt negative (Decimal.natDigits n)), rest) := by
  have hdigits : ∀ c ∈ Decimal.natDigits n, c.isDigit = true :=
    fun c hc => Decimal.isDigit_of_mem_natDigits hc
  obtain ⟨htake, hdrop⟩ := takeWhile_dropWhile_of_ends hdigits h
  obtain ⟨c, digits, hcons, hc⟩ := Decimal.natDigits_eq_cons n
  by_cases hzero : c = '0'
  · subst hzero
    obtain rfl := Decimal.eq_zero_of_natDigits hcons
    exact numberOf_of_ends h negative (by decide)
  · have hbody : unsigned negative (c :: (digits ++ rest)) = if c.isDigit then
        numberOf negative ((c :: (digits ++ rest)).takeWhile Char.isDigit)
          ((c :: (digits ++ rest)).dropWhile Char.isDigit)
        else .error .malformed := by
      unfold unsigned
      split
      next heq => exact absurd (List.cons_eq_cons.1 heq).1 hzero
      next heq =>
        obtain ⟨rfl, rfl⟩ := List.cons_eq_cons.1 heq
        rfl
      next heq => cases heq
    rw [hcons, List.cons_append, hbody, if_pos hc, ← List.cons_append, ← hcons, htake, hdrop]
    exact numberOf_of_ends h negative (Decimal.length_natDigits_le_limit hn)

/-- An integer that has been written is read back. -/
theorem readNumber_intDigits {n : Int} {rest : List Char} (hn : Decimal.isWritable n = true)
    (h : Ends rest) : readNumber (Decimal.intDigits n ++ rest) = .ok (.int n, rest) := by
  have hbound : n.natAbs < Decimal.digitBound := by simpa [Decimal.isWritable] using hn
  cases n with
  | ofNat n =>
    rw [Int.natAbs_ofNat'] at hbound
    obtain ⟨c, digits, hcons, hc⟩ := Decimal.natDigits_eq_cons n
    have hminus : c ≠ '-' := by
      rintro rfl
      exact absurd hc (by decide)
    have hread := unsigned_natDigits hbound h false
    rw [hcons, List.cons_append] at hread
    rw [Decimal.intDigits, hcons, List.cons_append, readNumber_cons hminus, hread, ← hcons]
    simp [Decimal.signedInt, Decimal.natOfDigits_natDigits]
  | negSucc n =>
    rw [Int.natAbs_negSucc] at hbound
    rw [Decimal.intDigits, List.cons_append, readNumber_minus, unsigned_natDigits hbound h]
    simp [Decimal.signedInt, Decimal.natOfDigits_natDigits, Int.negSucc_eq]

/-! ## Words -/

theorem readWord?_of_digit {c : Char} (h : c.isDigit = true) (rest : List Char) :
    readWord? (c :: rest) = none := by
  have hne : 'n' ≠ c ∧ 't' ≠ c ∧ 'f' ≠ c ∧ 'N' ≠ c ∧ 'I' ≠ c ∧ '-' ≠ c := by
    refine ⟨?_, ?_, ?_, ?_, ?_, ?_⟩ <;> (rintro rfl; exact absurd h (by decide))
  simp [readWord?, words, hne]

theorem readWord?_of_minus {c : Char} (h : c.isDigit = true) (rest : List Char) :
    readWord? ('-' :: c :: rest) = none := by
  have hne : 'I' ≠ c := by
    rintro rfl
    exact absurd h (by decide)
  simp [readWord?, words, hne]

/-- No word is read from an integer. -/
theorem readWord?_intDigits (n : Int) (rest : List Char) :
    readWord? (Decimal.intDigits n ++ rest) = none := by
  cases n with
  | ofNat n =>
    obtain ⟨c, digits, hcons, hc⟩ := Decimal.natDigits_eq_cons n
    rw [Decimal.intDigits, hcons, List.cons_append]
    exact readWord?_of_digit hc _
  | negSucc n =>
    obtain ⟨c, digits, hcons, hc⟩ := Decimal.natDigits_eq_cons (n + 1)
    rw [Decimal.intDigits, hcons, List.cons_append, List.cons_append]
    exact readWord?_of_minus hc _

end Json

end Remediation
