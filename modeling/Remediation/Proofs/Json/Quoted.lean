import Remediation.Json.Printer
import Remediation.Json.Reader
/-!
# Texts that are written and read

A text that has been written between quotes is read back character by character: each character is
written as itself, by a short escape or by its code, and a code beyond sixteen bits by two halves that
belong together.
-/

set_option autoImplicit false

namespace Remediation.Json

variable {d : Dialect} {c : Char} {rest : List Char}

/-! ## Codes -/

theorem hexValue?_hexDigit (n : Nat) : hexValue? (Text.hexDigit n) = some (n % 16) := by
  have hdigits : ∀ m : Fin 16, hexValue? (Nat.digitChar m) = some m.val := by decide
  exact hdigits ⟨n % 16, Nat.mod_lt n (by decide)⟩

theorem readUnit?_hexDigits {n : Nat} (h : n < 0x10000) (rest : List Char) :
    readUnit? (Text.hexDigits 4 n ++ rest) = some (n, rest) := by
  have hdigits : Text.hexDigits 4 n = [Text.hexDigit (n / 16 / 16 / 16),
    Text.hexDigit (n / 16 / 16), Text.hexDigit (n / 16), Text.hexDigit n] := rfl
  have hvalue : ((n / 16 / 16 / 16 % 16 * 16 + n / 16 / 16 % 16) * 16 + n / 16 % 16) * 16 + n % 16 =
      n := by omega
  simp only [hdigits, List.cons_append, List.nil_append, readUnit?, hexValue?_hexDigit, hvalue]

/-- The code of a character is none of those that halves of pairs have. -/
theorem toNat_valid (c : Char) : c.toNat < 0xd800 ∨ 0xdfff < c.toNat ∧ c.toNat < 0x110000 := by
  have hvalid := c.valid
  simp only [UInt32.isValidChar, Nat.isValidChar] at hvalid
  exact hvalid

theorem readCodeEscape?_single {cs : List Char} {code : Nat}
    (h : readUnit? cs = some (code, rest)) (hhigh : ¬ (0xd800 ≤ code ∧ code < 0xdc00))
    (hlow : ¬ (0xdc00 ≤ code ∧ code < 0xe000)) :
    readCodeEscape? d cs = some (Char.ofNat code, rest) := by
  rw [readCodeEscape?, h]
  simp only [if_neg hhigh, if_neg hlow]

theorem readCodeEscape?_pair {cs more : List Char} {high low : Nat}
    (h : readUnit? cs = some (high, '\\' :: 'u' :: more)) (hhigh : 0xd800 ≤ high ∧ high < 0xdc00)
    (hmore : readUnit? more = some (low, rest)) (hlow : 0xdc00 ≤ low ∧ low < 0xe000) :
    readCodeEscape? d cs =
      some (Char.ofNat (0x10000 + (high - 0xd800) * 0x400 + (low - 0xdc00)), rest) := by
  rw [readCodeEscape?, h]
  simp only [if_pos hhigh, hmore, if_pos hlow]

/-- A character by its code is read back. -/
theorem readCodeEscape?_escapeCode (d : Dialect) (c : Char) (rest : List Char) :
    ∃ code, escapeCode c ++ rest = '\\' :: 'u' :: code ∧ readCodeEscape? d code = some (c, rest) := by
  have hvalid := toNat_valid c
  unfold escapeCode
  split
  next hunit =>
    refine ⟨Text.hexDigits 4 c.toNat ++ rest, rfl, ?_⟩
    rw [readCodeEscape?_single (readUnit?_hexDigits hunit rest) (by omega) (by omega),
      Char.ofNat_toNat]
  next hpair =>
    simp only
    generalize hn : c.toNat - 0x10000 = n
    generalize hhigh : 0xd800 + n / 0x400 = high
    generalize hlow : 0xdc00 + n % 0x400 = low
    have hcode : 0x10000 + (high - 0xd800) * 0x400 + (low - 0xdc00) = c.toNat := by omega
    have hfirst : readUnit? (Text.hexDigits 4 high ++ (escapeUnit low ++ rest)) =
        some (high, escapeUnit low ++ rest) := readUnit?_hexDigits (by omega) _
    have hsecond : readUnit? (Text.hexDigits 4 low ++ rest) = some (low, rest) :=
      readUnit?_hexDigits (by omega) rest
    refine ⟨Text.hexDigits 4 high ++ (escapeUnit low ++ rest), ?_, ?_⟩
    · simp [escapeUnit]
    · rw [readCodeEscape?_pair hfirst (by omega) hsecond (by omega), hcode, Char.ofNat_toNat]

/-! ## Texts -/

/-- Reading one more character of a text. -/
theorem readText?_escapeChar (d : Dialect) (asciiOnly : Bool) (c b : Char) (bound rest : List Char) :
    readText? d (b :: bound) (escapeChar asciiOnly c ++ rest) =
      (readText? d bound rest).map fun (chars, rest) => (c :: chars, rest) := by
  have hshort {e : Char} (he : e ≠ 'u') (hc : shortEscape? e = some c) :
      readText? d (b :: bound) (['\\', e] ++ rest) =
        (readText? d bound rest).map fun (chars, rest) => (c :: chars, rest) := by
    simp [readText?, readEscape?, he, hc]
  have hcode : readText? d (b :: bound) (escapeCode c ++ rest) =
      (readText? d bound rest).map fun (chars, rest) => (c :: chars, rest) := by
    obtain ⟨code, hwritten, hread⟩ := readCodeEscape?_escapeCode d c rest
    rw [hwritten]
    simp [readText?, readEscape?, hread]
  unfold escapeChar
  split
  next hself => rcases hself with rfl | rfl <;> exact hshort (by decide) rfl
  next hself =>
    split
    next hc => exact hshort (by decide) (hc ▸ rfl)
    split
    next hc => exact hshort (by decide) (hc ▸ rfl)
    split
    next hc => exact hshort (by decide) (hc ▸ rfl)
    split
    next hc => exact hshort (by decide) (hc ▸ rfl)
    split
    next hc => exact hshort (by decide) (hc ▸ rfl)
    split
    next => exact hcode
    next hcontrol =>
      split
      next => exact hcode
      next =>
        obtain ⟨hquote, hslash⟩ := not_or.1 hself
        simp [readText?, hquote, hslash, hcontrol]

theorem escapeCode_ne_nil (c : Char) : escapeCode c ≠ [] := by
  unfold escapeCode
  split <;> exact List.cons_ne_nil _ _

theorem escapeChar_ne_nil (asciiOnly : Bool) (c : Char) : escapeChar asciiOnly c ≠ [] := by
  unfold escapeChar
  repeat' split
  all_goals first | exact List.cons_ne_nil _ _ | exact escapeCode_ne_nil c

/-- The characters of a text are read up to its closing quote. -/
theorem readText?_flatMap (d : Dialect) (asciiOnly : Bool) {chars bound : List Char}
    (h : chars.length < bound.length) (rest : List Char) :
    readText? d bound (chars.flatMap (escapeChar asciiOnly) ++ '"' :: rest) = some (chars, rest) := by
  induction chars generalizing bound with
  | nil =>
    obtain ⟨b, bound, rfl⟩ := List.exists_cons_of_length_pos h
    simp [readText?]
  | cons c chars ih =>
    obtain ⟨b, bound, rfl⟩ := List.exists_cons_of_length_pos (Nat.zero_lt_of_lt h)
    rw [List.flatMap_cons, List.append_assoc, readText?_escapeChar,
      ih (by simpa using h)]
    rfl

theorem length_le_flatMap_escapeChar (asciiOnly : Bool) (chars : List Char) :
    chars.length ≤ (chars.flatMap (escapeChar asciiOnly)).length := by
  induction chars with
  | nil => exact Nat.le_refl _
  | cons c chars ih =>
    have hc := List.length_pos_iff.2 (escapeChar_ne_nil asciiOnly c)
    rw [List.flatMap_cons, List.length_append, List.length_cons]
    omega

/-- A text is written between quotes, and read back from behind the opening one. -/
theorem writeText_append (asciiOnly : Bool) (s : String) (rest : List Char) :
    ∃ behind, writeText asciiOnly s ++ rest = '"' :: behind ∧
      ∀ d, readText? d behind behind = some (s.toList, rest) := by
  refine ⟨s.toList.flatMap (escapeChar asciiOnly) ++ '"' :: rest, ?_, fun d => ?_⟩
  · simp [writeText]
  · refine readText?_flatMap d asciiOnly ?_ rest
    have hlength := length_le_flatMap_escapeChar asciiOnly s.toList
    simp only [List.length_append, List.length_cons]
    omega

end Remediation.Json
