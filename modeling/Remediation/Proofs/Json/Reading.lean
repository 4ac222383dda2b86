import Remediation.Json.Path
import Remediation.Json.Reader
import Remediation.Proofs.Json.Screen
/-!
# What the reader gives

An integer that has been read has no more digits than may be written, and maps have text keys.  So what
a text spells is a JSON value (`isJson_of_read`), and so is all that a path leads to in it
(`isJson_of_follow`).
-/

set_option autoImplicit false

namespace Remediation

namespace Decimal

theorem ofDigitChars_lt {digits : List Char} (h : ∀ c ∈ digits, c.isDigit = true) (n : Nat) :
    Nat.ofDigitChars 10 digits n < (n + 1) * Nat.pow 10 digits.length := by
  induction digits generalizing n with
  | nil =>
    rw [Nat.ofDigitChars_nil, List.length_nil, show Nat.pow 10 0 = 1 from rfl, Nat.mul_one]
    exact Nat.lt_succ_self n
  | cons c rest ih =>
    obtain ⟨hc, hrest⟩ := List.forall_mem_cons.1 h
    have hdigit : c.toNat - '0'.toNat < 10 := by
      simp only [Char.isDigit, Bool.and_eq_true, decide_eq_true_eq] at hc
      have hle : c.toNat ≤ 57 := hc.2
      have hzero : '0'.toNat = 48 := rfl
      omega
    have hpow : Nat.pow 10 (c :: rest).length = Nat.pow 10 rest.length * 10 := rfl
    rw [Nat.ofDigitChars_cons, hpow]
    calc Nat.ofDigitChars 10 rest (10 * n + (c.toNat - '0'.toNat))
        < (10 * n + (c.toNat - '0'.toNat) + 1) * Nat.pow 10 rest.length := ih hrest _
      _ ≤ (n + 1) * 10 * Nat.pow 10 rest.length := Nat.mul_le_mul_right _ (by omega)
      _ = (n + 1) * (Nat.pow 10 rest.length * 10) := by rw [Nat.mul_assoc, Nat.mul_comm 10]

/-- Digits spell a number that is less than the first one of more digits. -/
theorem natOfDigits_lt {digits : List Char} {width : Nat} (h : ∀ c ∈ digits, c.isDigit = true)
    (hlength : digits.length ≤ width) : natOfDigits digits < Nat.pow 10 width := by
  have hlt := ofDigitChars_lt h 0
  rw [Nat.zero_add, Nat.one_mul] at hlt
  exact Nat.lt_of_lt_of_le hlt (Nat.pow_le_pow_right (by decide) hlength)

/-- An integer of digits that are not too many can be written. -/
theorem isWritable_signedInt (negative : Bool) {digits : List Char}
    (h : ∀ c ∈ digits, c.isDigit = true) (hlength : digits.length ≤ digitLimit) :
    isWritable (signedInt negative digits) = true := by
  have habs : (signedInt negative digits).natAbs = natOfDigits digits := by
    unfold signedInt
    split <;> simp
  have hbound : natOfDigits digits < digitBound := by
    unfold digitBound
    exact natOfDigits_lt h hlength
  rw [isWritable, habs]
  exact decide_eq_true hbound

end Decimal

namespace Json

variable {d : Dialect} {j : Json}

/-! ## Lists and maps -/

theorem toValues_eq_map (items : List Json) : toValues items = items.map toValue := by
  induction items with
  | nil => rfl
  | cons j rest ih => rw [toValues, ih, List.map_cons]

theorem toEntries_eq_map (fields : List (String × Json)) :
    toEntries fields = fields.map fun f => (.text f.1, f.2.toValue) := by
  induction fields with
  | nil => rfl
  | cons f rest ih => rw [toEntries, ih, List.map_cons]

theorem isJson_list_iff {items : List Json} :
    (Json.list items).toValue.IsJson ↔ ∀ j ∈ items, j.toValue.IsJson := by
  rw [toValue, toValues_eq_map]
  constructor
  · intro h j hj
    cases h with
    | list hitems => exact hitems _ (List.mem_map_of_mem hj)
  · exact fun h => .list (List.forall_mem_map.2 h)

theorem isJson_map_iff {fields : List (String × Json)} :
    (Json.map fields).toValue.IsJson ↔ ∀ f ∈ fields, f.2.toValue.IsJson := by
  rw [toValue, toEntries_eq_map]
  constructor
  · intro h f hf
    cases h with
    | map _ hvalues => exact hvalues _ (List.mem_map_of_mem hf)
  · exact fun h => .map (List.forall_mem_map.2 fun f _ => ⟨f.1, rfl⟩) (List.forall_mem_map.2 h)

/-! ## Reading -/

theorem isJson_of_numberOf {negative : Bool} {whole rest behind : List Char}
    (h : ∀ c ∈ whole, c.isDigit = true) (hnumber : numberOf negative whole rest = .ok (j, behind)) :
    j.toValue.IsJson := by
  simp only [numberOf] at hnumber
  split at hnumber
  · split at hnumber
    · cases hnumber
    next hlength =>
      obtain ⟨rfl, -⟩ := Prod.mk.inj (Except.ok.inj hnumber)
      exact .int (Decimal.isWritable_signedInt negative h (by omega))
  · obtain ⟨rfl, -⟩ := Prod.mk.inj (Except.ok.inj hnumber)
    exact .float _

theorem isJson_of_readNumber {cs rest : List Char} (h : readNumber cs = .ok (j, rest)) :
    j.toValue.IsJson := by
  simp only [readNumber] at h
  split at h
  next => exact isJson_of_numberOf (List.forall_mem_singleton.2 rfl) h
  next =>
    split at h
    next => exact isJson_of_numberOf (List.all_eq_true.1 List.all_takeWhile) h
    next => cases h
  next => cases h

theorem isJson_of_readWord? {cs rest : List Char} (h : readWord? cs = some (j, rest)) :
    j.toValue.IsJson := by
  obtain ⟨⟨word, found⟩, hword, hfound⟩ := List.exists_of_findSome?_eq_some h
  dsimp only at hfound
  split at hfound
  next =>
    obtain ⟨rfl, -⟩ := Prod.mk.inj (Option.some.inj hfound)
    simp only [words, List.mem_cons, Prod.mk.injEq, List.not_mem_nil, or_false] at hword
    rcases hword with ⟨-, rfl⟩ | ⟨-, rfl⟩ | ⟨-, rfl⟩ | ⟨-, rfl⟩ | ⟨-, rfl⟩ | ⟨-, rfl⟩
    · exact .null
    · exact .bool true
    · exact .bool false
    all_goals exact .float _
  next => cases hfound

/-- What is read with some fuel are JSON values. -/
structure ReadsJson (d : Dialect) (fuel : Nat) : Prop where
  value : ∀ {depth cs j rest}, readValue d fuel depth cs = .ok (j, rest) → j.toValue.IsJson
  items : ∀ {depth cs items rest}, readItems d fuel depth cs = .ok (items, rest) →
    ∀ j ∈ items, j.toValue.IsJson
  fields : ∀ {depth before cs fields rest}, (∀ f ∈ before, f.2.toValue.IsJson) →
    readFields d fuel depth before cs = .ok (fields, rest) → ∀ f ∈ fields, f.2.toValue.IsJson

theorem readsJson_zero : ReadsJson d 0 where
  value h := by cases h
  items h := by cases h
  fields _ h := by cases h

theorem ReadsJson.value_succ {fuel : Nat} (h : ReadsJson d fuel) {depth : Nat} {cs rest : List Char}
    (hread : readValue d (fuel + 1) depth cs = .ok (j, rest)) : j.toValue.IsJson := by
  simp only [readValue] at hread
  split at hread
  next =>
    split at hread
    next =>
      obtain ⟨rfl, -⟩ := Prod.mk.inj (Except.ok.inj hread)
      exact .text _
    next => cases hread
  next =>
    split at hread
    next =>
      obtain ⟨rfl, -⟩ := Prod.mk.inj (Except.ok.inj hread)
      exact isJson_list_iff.2 (List.forall_mem_nil _)
    next =>
      split at hread
      next => cases hread
      next =>
        split at hread
        next hitems =>
          obtain ⟨rfl, -⟩ := Prod.mk.inj (Except.ok.inj hread)
          exact isJson_list_iff.2 (h.items hitems)
        next => cases hread
  next =>
    split at hread
    next =>
      obtain ⟨rfl, -⟩ := Prod.mk.inj (Except.ok.inj hread)
      exact isJson_map_iff.2 (List.forall_mem_nil _)
    next =>
      split at hread
      next => cases hread
      next =>
        split at hread
        next hfields =>
          obtain ⟨rfl, -⟩ := Prod.mk.inj (Except.ok.inj hread)
          exact isJson_map_iff.2 (h.fields (List.forall_mem_nil _) hfields)
        next => cases hread
  next =>
    split at hread
    next hword =>
      obtain rfl := Except.ok.inj hread
      exact isJson_of_readWord? hword
    next => exact isJson_of_readNumber hread

theorem ReadsJson.items_succ {fuel : Nat} (h : ReadsJson d fuel) {depth : Nat} {cs rest : List Char}
    {items : List Json} (hread : readItems d (fuel + 1) depth cs = .ok (items, rest)) :
    ∀ j ∈ items, j.toValue.IsJson := by
  rw [readItems_succ] at hread
  split at hread
  next => cases hread
  next hvalue =>
    split at hread
    next =>
      obtain ⟨rfl, -⟩ := Prod.mk.inj (Except.ok.inj hread)
      exact List.forall_mem_singleton.2 (h.value hvalue)
    next =>
      split at hread
      next hitems =>
        obtain ⟨rfl, -⟩ := Prod.mk.inj (Except.ok.inj hread)
        exact List.forall_mem_cons.2 ⟨h.value hvalue, h.items hitems⟩
      next => cases hread
    next => cases hread

theorem ReadsJson.fields_succ {fuel : Nat} (h : ReadsJson d fuel) {depth : Nat}
    {before fields : List (String × Json)} {cs rest : List Char}
    (hbefore : ∀ f ∈ before, f.2.toValue.IsJson)
    (hread : readFields d (fuel + 1) depth before cs = .ok (fields, rest)) :
    ∀ f ∈ fields, f.2.toValue.IsJson := by
  have hset {key : String} {v : Json} (hv : v.toValue.IsJson) :
      ∀ f ∈ setField before key v, f.2.toValue.IsJson := by
    intro f hf
    rcases mem_setField hf with rfl | hold
    · exact hv
    · exact hbefore f hold
  simp only [readFields] at hread
  split at hread
  next =>
    split at hread
    next => cases hread
    next =>
      split at hread
      next =>
        split at hread
        next => cases hread
        next hvalue =>
          split at hread
          next =>
            obtain ⟨rfl, -⟩ := Prod.mk.inj (Except.ok.inj hread)
            exact hset (h.value hvalue)
          next => exact h.fields (hset (h.value hvalue)) hread
          next => cases hread
      next => cases hread
  next => cases hread

theorem readsJson (d : Dialect) : ∀ fuel, ReadsJson d fuel
  | 0 => readsJson_zero
  | fuel + 1 => ⟨(readsJson d fuel).value_succ, (readsJson d fuel).items_succ,
      (readsJson d fuel).fields_succ⟩

/-- What a text spells is a JSON value. -/
theorem isJson_of_read {s : String} (h : read d s = .ok j) : j.toValue.IsJson := by
  simp only [read] at h
  split at h
  next => cases h
  next hvalue =>
    split at h
    next =>
      obtain rfl := Except.ok.inj h
      exact (readsJson d _).value hvalue
    next => cases h

/-! ## Paths -/

theorem isJson_of_field {name : List Char} {found : Json} (hj : j.toValue.IsJson)
    (h : field name j = .ok found) : found.toValue.IsJson := by
  unfold field at h
  split at h
  · exact Except.ok.inj h ▸ hj
  · split at h
    next fields =>
      obtain rfl := Except.ok.inj h
      cases hlookup : lookupField fields (String.ofList name) with
      | none => exact .null
      | some v => exact isJson_map_iff.1 hj _ (mem_of_lookupField hlookup)
    next => cases h

theorem isJson_of_item {spelled : List Char} {n : Nat} {found : Json} (hj : j.toValue.IsJson)
    (h : item spelled n j = .ok found) : found.toValue.IsJson := by
  unfold item at h
  split at h
  next items =>
    split at h
    next hitem =>
      obtain rfl := Except.ok.inj h
      exact isJson_list_iff.1 hj _ (List.mem_of_getElem? hitem)
    next => cases h
  next => cases h

theorem isJson_of_step {spelled : List Char} {found : Json} (hj : j.toValue.IsJson)
    (h : step j spelled = .ok found) : found.toValue.IsJson := by
  unfold step at h
  dsimp only at h
  split at h
  next => exact isJson_of_field hj h
  next =>
    split at h
    next => cases h
    next =>
      split at h
      next => cases h
      next hfield => exact isJson_of_item (isJson_of_field hj hfield) h

/-- What a path leads to in a JSON value is one. -/
theorem isJson_of_follow {path : String} {found : Json} (hj : j.toValue.IsJson)
    (h : follow j path = .ok found) : found.toValue.IsJson := by
  have hwalk : ∀ (parts : List (List Char)) (j : Json), j.toValue.IsJson →
      walk j parts = .ok found → found.toValue.IsJson := by
    intro parts
    induction parts with
    | nil => exact fun j hj h => Except.ok.inj h ▸ hj
    | cons spelled rest ih =>
      intro j hj h
      rw [walk] at h
      split at h
      next => cases h
      next hstep => exact ih _ (isJson_of_step hj hstep) h
  exact hwalk _ j hj h

end Json

end Remediation
