import Remediation.Coercion
import Remediation.Proofs.Json.Extent
import Remediation.Proofs.Text.Blank
/-!
# Reading a text as what it is declared to be

What a text spells is said apart from how it is read (`Spells`): a list as JSON, an integer as a sign and
decimal digits of any script, other numbers as floating-point numbers, and truth values as words.  A text
is read as what it spells and kept if it spells nothing (`coerce_eq_ok_iff`).  The only text that is refused
is an integer of too many digits.
-/

set_option autoImplicit false

namespace Remediation

/-- Values of what a parameter is declared to be. -/
inductive Declared.Admits : Declared → Value → Prop where
  | array (items : List Value) : Admits .array (.list items)
  | integer (n : Int) : Admits .integer (.int n)
  | whole (n : Int) : Admits .number (.int n)
  | number (x : Float) : Admits .number (.float x)
  | boolean (b : Bool) : Admits .boolean (.bool b)

/-! ## Digits -/

namespace Text

theorem digitValue?_lt {c : Char} {n : Nat} (h : digitValue? c = some n) : n < 10 := by
  unfold digitValue? at h
  split at h
  · split at h
    next hrange =>
      obtain rfl := Option.some.inj h
      have hle : c.toNat ≤ 57 := hrange.2
      omega
    next => cases h
  · obtain ⟨base, hbase, rfl⟩ := Option.map_eq_some_iff.1 h
    have hrange := List.find?_some hbase
    simp only [decide_eq_true_eq] at hrange
    omega

end Text

namespace Coercion

/-- The number that decimal digits of any script spell. -/
def numberOf (digits : List Char) : Nat :=
  digits.foldl (fun n c => 10 * n + (Text.digitValue? c).getD 0) 0

/-- The integer of a sign and decimal digits of any script. -/
def integerOf (negative : Bool) (digits : List Char) : Int :=
  if negative then -(numberOf digits : Int) else numberOf digits

theorem toNat_asciiDigit {c : Char} (h : Text.isDigit c = true) :
    (Decimal.asciiDigit c).toNat - '0'.toNat = (Text.digitValue? c).getD 0 := by
  obtain ⟨n, hn⟩ := Option.isSome_iff_exists.1 h
  have hchars : ∀ m : Fin 10, (Nat.digitChar m).toNat - '0'.toNat = m := by decide
  rw [Decimal.asciiDigit, hn]
  exact hchars ⟨n, Text.digitValue?_lt hn⟩

/-- Digits of other scripts count as much as those of ASCII that are put for them. -/
theorem natOfDigits_map_asciiDigit {digits : List Char}
    (h : ∀ c ∈ digits, Text.isDigit c = true) :
    Decimal.natOfDigits (digits.map Decimal.asciiDigit) = numberOf digits := by
  suffices hfrom : ∀ n, Nat.ofDigitChars 10 (digits.map Decimal.asciiDigit) n =
      digits.foldl (fun n c => 10 * n + (Text.digitValue? c).getD 0) n from hfrom 0
  induction digits with
  | nil => exact fun n => rfl
  | cons c rest ih =>
    intro n
    obtain ⟨hc, hrest⟩ := List.forall_mem_cons.1 h
    rw [List.map_cons, Nat.ofDigitChars_cons, ih hrest, toNat_asciiDigit hc, List.foldl_cons]

/-! ## Integers -/

/-- An optional sign in front of something: whether it is a minus, and what stands behind it. -/
inductive Signed : List Char → Bool → List Char → Prop where
  | none (behind : List Char) : Signed behind false behind
  | plus (behind : List Char) : Signed ('+' :: behind) false behind
  | minus (behind : List Char) : Signed ('-' :: behind) true behind

/-- An optional sign and decimal digits of any script, of which there are some. -/
structure Numeral (body : List Char) (negative : Bool) (digits : List Char) : Prop where
  signed : Signed body negative digits
  some : digits ≠ []
  decimal : ∀ c ∈ digits, Text.isDigit c = true

variable {body digits : List Char} {negative : Bool}

theorem signed_readSign (body : List Char) :
    Signed body (Decimal.readSign body).1 (Decimal.readSign body).2 := by
  unfold Decimal.readSign
  split
  · exact .minus _
  · exact .plus _
  · exact .none _

theorem Numeral.readSign (h : Numeral body negative digits) :
    Decimal.readSign body = (negative, digits) := by
  cases h.signed with
  | plus | minus => rfl
  | none =>
    unfold Decimal.readSign
    -- A digit is no sign.
    split
    next => exact absurd (h.decimal '-' List.mem_cons_self) (by decide)
    next => exact absurd (h.decimal '+' List.mem_cons_self) (by decide)
    next => rfl

theorem Numeral.readSignedDigits? (h : Numeral body negative digits) :
    Decimal.readSignedDigits? body = .some (negative, digits.map Decimal.asciiDigit) := by
  have hdigits : (!digits.isEmpty && digits.all Text.isDigit) = true := by
    simpa [h.some] using h.decimal
  simp [Decimal.readSignedDigits?, h.readSign, hdigits]

theorem readSignedDigits?_eq_none (h : ∀ negative digits, ¬ Numeral body negative digits) :
    Decimal.readSignedDigits? body = none := by
  unfold Decimal.readSignedDigits?
  dsimp only
  refine if_neg fun hdigits => ?_
  simp only [Bool.and_eq_true, Bool.not_eq_true', List.isEmpty_eq_false_iff, List.all_eq_true]
    at hdigits
  exact h _ _ ⟨signed_readSign body, hdigits.1, hdigits.2⟩

theorem Numeral.signedInt (h : Numeral body negative digits) :
    Decimal.signedInt negative (digits.map Decimal.asciiDigit) = integerOf negative digits := by
  rw [Decimal.signedInt, integerOf, natOfDigits_map_asciiDigit h.decimal]

/-! ## What a text spells -/

/-- The value that a text without blanks around it spells where a parameter is declared. -/
inductive Spells (body : String) : Declared → Value → Prop where
  | array {items : List Json} : Json.read Json.lenient body = .ok (.list items) →
      Spells body .array (.list (Json.toValues items))
  | integer {declared : Declared} {negative : Bool} {digits : List Char} :
      declared = .integer ∨ declared = .number → Numeral body.toList negative digits →
      digits.length ≤ Decimal.digitLimit → Spells body declared (.int (integerOf negative digits))
  | float {x : Float} : (∀ negative digits, ¬ Numeral body.toList negative digits) →
      Decimal.readFloat? body = some x → Spells body .number (.float x)
  | boolean {b : Bool} : body = (if b then "true" else "false") → Spells body .boolean (.bool b)

/-- A text spells an integer of so many digits where a parameter is declared to be a number, and these
are too many. -/
inductive TooLong (body : String) (declared : Declared) : Nat → Prop where
  | intro {negative : Bool} {digits : List Char} : declared = .integer ∨ declared = .number →
      Numeral body.toList negative digits →
      Decimal.digitLimit < digits.length → TooLong body declared digits.length

/-- What a text spells is a value of what the parameter is declared to be. -/
theorem Spells.admits {text : String} {declared : Declared} {v : Value}
    (h : Spells text declared v) : declared.Admits v := by
  cases h with
  | array => exact .array _
  | integer hdeclared =>
    rcases hdeclared with rfl | rfl
    · exact .integer _
    · exact .whole _
  | float => exact .number _
  | boolean => exact .boolean _

/-! ## What is read -/

variable {declared : Declared} {s : String} {v : Value} {e : Fault}

theorem toList_strip (s : String) : (Text.strip s).toList = Text.stripChars s.toList :=
  String.toList_ofList

theorem coerce_of_spells (h : Spells (Text.strip s) declared v) : coerce declared s = .ok v := by
  have hstripped : Text.Stripped (Text.strip s).toList := by
    rw [toList_strip]
    exact Text.stripped_stripChars _
  unfold coerce
  generalize Text.strip s = body at h hstripped
  cases h with
  | @array items hread =>
    have hlist : list? body = some items := by
      rw [list?, if_pos (Json.brackets_of_read_stripped hstripped hread), hread]
    simp only [hlist]
  | @integer _ negative digits hdeclared hnumeral hlength =>
    have hinteger : integer negative (digits.map Decimal.asciiDigit) =
        .ok (.int (integerOf negative digits)) := by
      rw [integer, if_neg (by simpa using hlength), hnumeral.signedInt]
    rcases hdeclared with rfl | rfl
    · simp only [hnumeral.readSignedDigits?, hinteger]
    · simp only [hnumeral.readSignedDigits?, hinteger]
  | float hnone hfloat =>
    simp only [readSignedDigits?_eq_none hnone, hfloat]
  | @boolean b hbody =>
    subst hbody
    cases b <;> rfl

theorem coerce_of_tooLong {count : Nat} (h : TooLong (Text.strip s) declared count) :
    coerce declared s = .error (.longDigits count) := by
  unfold coerce
  generalize Text.strip s = body at h
  cases h with
  | @intro negative digits hdeclared hnumeral hlength =>
    have hinteger : integer negative (digits.map Decimal.asciiDigit) =
        .error (.longDigits digits.length) := by
      rw [integer, if_pos (by simpa using hlength), List.length_map]
    rcases hdeclared with rfl | rfl
    · simp only [hnumeral.readSignedDigits?, hinteger]
    · simp only [hnumeral.readSignedDigits?, hinteger]

/-- No numeral is spelled where what it would be read as is neither an integer nor too long. -/
theorem not_numeral {text : String} (hdeclared : declared = .integer ∨ declared = .number)
    (hspells : ∀ v, ¬ Spells text declared v) (hlong : ∀ count, ¬ TooLong text declared count)
    (negative : Bool) (digits : List Char) : ¬ Numeral text.toList negative digits := by
  intro hnumeral
  rcases Nat.lt_or_ge Decimal.digitLimit digits.length with hlength | hlength
  · exact hlong _ (.intro hdeclared hnumeral hlength)
  · exact hspells _ (.integer hdeclared hnumeral hlength)

/-- A text that spells nothing is kept. -/
theorem coerce_of_neither (hspells : ∀ v, ¬ Spells (Text.strip s) declared v)
    (hlong : ∀ count, ¬ TooLong (Text.strip s) declared count) :
    coerce declared s = .ok (.text s) := by
  unfold coerce
  generalize Text.strip s = body at hspells hlong
  cases declared with
  | array =>
    have hlist : list? body = none := by
      unfold list?
      split
      next =>
        split
        next hread => exact absurd (.array hread) (hspells _)
        next => rfl
      next => rfl
    simp only [hlist]
  | integer =>
    simp only [readSignedDigits?_eq_none (not_numeral (Or.inl rfl) hspells hlong)]
  | number =>
    have hnone := not_numeral (Or.inr rfl) hspells hlong
    have hfloat : Decimal.readFloat? body = none :=
      Option.eq_none_iff_forall_ne_some.2 fun x hx => hspells _ (.float hnone hx)
    simp only [readSignedDigits?_eq_none hnone, hfloat]
  | boolean =>
    have htrue : body ≠ "true" := fun h => hspells _ (.boolean (b := true) h)
    have hfalse : body ≠ "false" := fun h => hspells _ (.boolean (b := false) h)
    simp only [if_neg htrue, if_neg hfalse]
  | other => rfl

/-- What a text spells is one value, or an integer of too many digits, or nothing, and is read so. -/
theorem coerce_cases (declared : Declared) (s : String) :
    (∃ v, Spells (Text.strip s) declared v ∧ coerce declared s = .ok v) ∨
    (∃ count, TooLong (Text.strip s) declared count ∧
      coerce declared s = .error (.longDigits count)) ∨
    (∀ v, ¬ Spells (Text.strip s) declared v) ∧
      (∀ count, ¬ TooLong (Text.strip s) declared count) ∧ coerce declared s = .ok (.text s) := by
  by_cases hspells : ∃ v, Spells (Text.strip s) declared v
  · obtain ⟨v, hv⟩ := hspells
    exact Or.inl ⟨v, hv, coerce_of_spells hv⟩
  by_cases hlong : ∃ count, TooLong (Text.strip s) declared count
  · obtain ⟨count, hcount⟩ := hlong
    exact Or.inr (Or.inl ⟨count, hcount, coerce_of_tooLong hcount⟩)
  · simp only [not_exists] at hspells hlong
    exact Or.inr (Or.inr ⟨hspells, hlong, coerce_of_neither hspells hlong⟩)

/-- A text is refused only as an integer of too many digits. -/
theorem coerce_eq_error_iff : coerce declared s = .error e ↔
    ∃ count, TooLong (Text.strip s) declared count ∧ e = .longDigits count := by
  constructor
  · intro h
    rcases coerce_cases declared s with ⟨v, -, hok⟩ | ⟨count, hlong, herror⟩ | ⟨-, -, hok⟩
    · cases h.symm.trans hok
    · exact ⟨count, hlong, Except.error.inj (h.symm.trans herror)⟩
    · cases h.symm.trans hok
  · rintro ⟨count, hlong, rfl⟩
    exact coerce_of_tooLong hlong

theorem coerce_eq_ok_iff : coerce declared s = .ok v ↔
    Spells (Text.strip s) declared v ∨ v = .text s ∧
      (∀ w, ¬ Spells (Text.strip s) declared w) ∧
      ∀ count, ¬ TooLong (Text.strip s) declared count := by
  constructor
  · intro h
    rcases coerce_cases declared s with ⟨w, hspells, hok⟩ | ⟨count, -, herror⟩ | ⟨hnone, hshort, hok⟩
    · obtain rfl := Except.ok.inj (h.symm.trans hok)
      exact Or.inl hspells
    · cases h.symm.trans herror
    · exact Or.inr ⟨Except.ok.inj (h.symm.trans hok), hnone, hshort⟩
  · rintro (hspells | ⟨rfl, hnone, hshort⟩)
    · exact coerce_of_spells hspells
    · exact coerce_of_neither hnone hshort

theorem exists_coerce (hinteger : declared ≠ .integer) (hnumber : declared ≠ .number) (s : String) :
    ∃ v, coerce declared s = .ok v := by
  rcases coerce_cases declared s with ⟨v, -, hok⟩ | ⟨count, ⟨hdeclared, -, -⟩, -⟩ | ⟨-, -, hok⟩
  · exact ⟨v, hok⟩
  · exact absurd hdeclared (not_or.2 ⟨hinteger, hnumber⟩)
  · exact ⟨_, hok⟩

/-- Reading a text ends with the value that it spells, which is one of what is declared, or with the text
itself if it spells none.  Only an integer of too many digits is neither read nor kept. -/
theorem coerce_reads_or_keeps (declared : Declared) (s : String) :
    (∀ v, coerce declared s = .ok v ↔
      Spells (Text.strip s) declared v ∧ declared.Admits v ∨
      v = .text s ∧ (∀ w, ¬ Spells (Text.strip s) declared w) ∧
        ∀ count, ¬ TooLong (Text.strip s) declared count) ∧
    ∀ e, coerce declared s = .error e ↔
      ∃ count, TooLong (Text.strip s) declared count ∧ e = .longDigits count := by
  refine ⟨fun v => ?_, fun e => coerce_eq_error_iff⟩
  rw [coerce_eq_ok_iff, and_iff_left_of_imp Spells.admits]

/-- The digit one, one time more than digits are read. -/
def longOnes : String := String.ofList (List.replicate (Decimal.digitLimit + 1) '1')

theorem strip_longOnes : Text.strip longOnes = longOnes := by
  refine Text.Stripped.strip_eq (.of_forall fun c hc => ?_)
  rw [longOnes, String.toList_ofList] at hc
  obtain rfl := List.eq_of_mem_replicate hc
  rfl

/-- So many digits are no integer, and neither are they kept as a text. -/
theorem coerce_longOnes :
    coerce .integer longOnes = .error (.longDigits (Decimal.digitLimit + 1)) := by
  refine coerce_eq_error_iff.2 ⟨_, ?_, rfl⟩
  have hnumeral : Numeral longOnes.toList false (List.replicate (Decimal.digitLimit + 1) '1') := by
    rw [longOnes, String.toList_ofList]
    refine ⟨.none _, by simp, fun c hc => ?_⟩
    obtain rfl := List.eq_of_mem_replicate hc
    rfl
  have hlong : TooLong longOnes .integer (List.replicate (Decimal.digitLimit + 1) '1').length :=
    .intro (Or.inl rfl) hnumeral (by simp)
  rw [strip_longOnes]
  rwa [List.length_replicate] at hlong

end Coercion

end Remediation
