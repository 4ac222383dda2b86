import Mathlib.Data.List.TakeWhile
import Remediation.Proofs.Json.RoundTrip
import Remediation.Proofs.Text.Blank
/-!
# What the reader takes

What the reader leaves behind a value is the end of what it was given, and a list is taken from its
opening bracket to its closing one.  So a text that spells a list stands between these brackets, if
there are no blanks around it (`brackets_of_read_stripped`).
-/

set_option autoImplicit false

namespace Remediation.Json

variable {d : Dialect} {cs rest : List Char} {j : Json}

theorem skipGap_suffix (cs : List Char) : skipGap cs <:+ cs := List.dropWhile_suffix _

/-! ## Texts -/

theorem suffix_of_readUnit? {code : Nat} (h : readUnit? cs = some (code, rest)) : rest <:+ cs := by
  unfold readUnit? at h
  split at h
  next a b c d' cs =>
    split at h
    next =>
      obtain ⟨-, rfl⟩ := Prod.mk.inj (Option.some.inj h)
      exact ⟨[a, b, c, d'], rfl⟩
    next => cases h
  next => cases h

theorem suffix_of_loneSurrogate {c : Char}
    (h : (loneSurrogate d).map (fun c => (c, cs)) = some (c, rest)) : rest <:+ cs := by
  obtain ⟨c', -, heq⟩ := Option.map_eq_some_iff.1 h
  obtain ⟨-, rfl⟩ := Prod.mk.inj heq
  exact List.suffix_refl _

theorem suffix_of_readCodeEscape? {c : Char} (h : readCodeEscape? d cs = some (c, rest)) :
    rest <:+ cs := by
  unfold readCodeEscape? at h
  split at h
  next => cases h
  next high behind hunit =>
    have hbehind := suffix_of_readUnit? hunit
    split at h
    next =>
      split at h
      next more =>
        split at h
        next low last hlow =>
          split at h
          next =>
            obtain ⟨-, rfl⟩ := Prod.mk.inj (Option.some.inj h)
            have hmore : more <:+ '\\' :: 'u' :: more := ⟨['\\', 'u'], rfl⟩
            exact ((suffix_of_readUnit? hlow).trans hmore).trans hbehind
          next => exact (suffix_of_loneSurrogate h).trans hbehind
        next => exact (suffix_of_loneSurrogate h).trans hbehind
      next => exact (suffix_of_loneSurrogate h).trans hbehind
    next =>
      split at h
      next => exact (suffix_of_loneSurrogate h).trans hbehind
      next =>
        obtain ⟨-, rfl⟩ := Prod.mk.inj (Option.some.inj h)
        exact hbehind

theorem suffix_of_readEscape? {e c : Char} (h : readEscape? d e cs = some (c, rest)) :
    rest <:+ cs := by
  unfold readEscape? at h
  split at h
  next => exact suffix_of_readCodeEscape? h
  next =>
    obtain ⟨c', -, heq⟩ := Option.map_eq_some_iff.1 h
    obtain ⟨-, rfl⟩ := Prod.mk.inj heq
    exact List.suffix_refl _

theorem suffix_of_readText? {bound chars : List Char}
    (h : readText? d bound cs = some (chars, rest)) : rest <:+ cs := by
  induction bound generalizing cs chars with
  | nil => cases h
  | cons _ bound ih =>
    have hmore {behind : List Char} {c : Char} (hbehind : behind <:+ cs)
        (h : (readText? d bound behind).map (fun found => (c :: found.1, found.2)) =
          some (chars, rest)) : rest <:+ cs := by
      obtain ⟨⟨more, last⟩, hread, heq⟩ := Option.map_eq_some_iff.1 h
      obtain ⟨-, rfl⟩ := Prod.mk.inj heq
      exact (ih hread).trans hbehind
    obtain _ | ⟨c, cs⟩ := cs
    · cases h
    simp only [readText?] at h
    split at h
    next =>
      obtain ⟨-, rfl⟩ := Prod.mk.inj (Option.some.inj h)
      exact List.suffix_cons c _
    split at h
    next =>
      split at h
      next => cases h
      next e cs =>
        split at h
        next => cases h
        next hescape =>
          have hcs : cs <:+ c :: e :: cs := ⟨[c, e], rfl⟩
          exact hmore ((suffix_of_readEscape? hescape).trans hcs) h
    split at h
    next => cases h
    next => exact hmore (List.suffix_cons c cs) h

/-! ## Numbers and words -/

theorem suffix_of_readFraction {digits : List Char} (h : readFraction cs = (digits, rest)) :
    rest <:+ cs := by
  unfold readFraction at h
  split at h
  next behind =>
    dsimp only at h
    split at h
    next =>
      obtain ⟨-, rfl⟩ := Prod.mk.inj h
      exact List.suffix_refl _
    next =>
      obtain ⟨-, rfl⟩ := Prod.mk.inj h
      exact (List.dropWhile_suffix _).trans (List.suffix_cons '.' behind)
  next =>
    obtain ⟨-, rfl⟩ := Prod.mk.inj h
    exact List.suffix_refl _

theorem suffix_of_readSign {negative : Bool} (h : Decimal.readSign cs = (negative, rest)) :
    rest <:+ cs := by
  unfold Decimal.readSign at h
  split at h
  all_goals obtain ⟨-, rfl⟩ := Prod.mk.inj h
  · exact List.suffix_cons _ _
  · exact List.suffix_cons _ _
  · exact List.suffix_refl _

theorem suffix_of_readPower {power : Option Int} (h : readPower cs = (power, rest)) :
    rest <:+ cs := by
  unfold readPower at h
  split at h
  next e behind =>
    split at h
    next =>
      dsimp only at h
      split at h
      next =>
        obtain ⟨-, rfl⟩ := Prod.mk.inj h
        exact List.suffix_refl _
      next =>
        obtain ⟨-, rfl⟩ := Prod.mk.inj h
        have hsign : (Decimal.readSign behind).2 <:+ behind := suffix_of_readSign rfl
        exact ((List.dropWhile_suffix _).trans hsign).trans (List.suffix_cons e behind)
    next =>
      obtain ⟨-, rfl⟩ := Prod.mk.inj h
      exact List.suffix_refl _
  next =>
    obtain ⟨-, rfl⟩ := Prod.mk.inj h
    exact List.suffix_refl _

theorem suffix_of_numberOf {negative : Bool} {whole : List Char}
    (h : numberOf negative whole cs = .ok (j, rest)) : rest <:+ cs := by
  have hfraction : (readFraction cs).2 <:+ cs := suffix_of_readFraction rfl
  have hpower : (readPower (readFraction cs).2).2 <:+ (readFraction cs).2 := suffix_of_readPower rfl
  simp only [numberOf] at h
  split at h
  next =>
    split at h
    next => cases h
    next =>
      obtain ⟨-, rfl⟩ := Prod.mk.inj (Except.ok.inj h)
      exact List.suffix_refl _
  next =>
    obtain ⟨-, rfl⟩ := Prod.mk.inj (Except.ok.inj h)
    exact hpower.trans hfraction

theorem suffix_of_unsigned {negative : Bool} (h : unsigned negative cs = .ok (j, rest)) :
    rest <:+ cs := by
  unfold unsigned at h
  split at h
  next behind => exact (suffix_of_numberOf h).trans (List.suffix_cons '0' behind)
  next =>
    split at h
    next => exact (suffix_of_numberOf h).trans (List.dropWhile_suffix _)
    next => cases h
  next => cases h

theorem suffix_of_readNumber (h : readNumber cs = .ok (j, rest)) : rest <:+ cs := by
  obtain _ | ⟨c, body⟩ := cs
  · cases h
  · by_cases hminus : c = '-'
    · subst hminus
      rw [readNumber_minus] at h
      exact (suffix_of_unsigned h).trans (List.suffix_cons '-' body)
    · rw [readNumber_cons hminus] at h
      exact suffix_of_unsigned h

theorem suffix_of_readWord? (h : readWord? cs = some (j, rest)) : rest <:+ cs := by
  obtain ⟨⟨word, found⟩, -, hfound⟩ := List.exists_of_findSome?_eq_some h
  dsimp only at hfound
  split at hfound
  next =>
    obtain ⟨-, rfl⟩ := Prod.mk.inj (Option.some.inj hfound)
    exact List.drop_suffix _ _
  next => cases hfound

/-! ## Values -/

/-- What is left behind what is read with some fuel: the end of what there was, and where items or fields
are read what stands behind the closing bracket. -/
structure LeavesEnd (d : Dialect) (fuel : Nat) : Prop where
  value : ∀ {depth cs j rest}, readValue d fuel depth cs = .ok (j, rest) → rest <:+ cs
  items : ∀ {depth cs items rest}, readItems d fuel depth cs = .ok (items, rest) →
    ']' :: rest <:+ cs
  fields : ∀ {depth before cs fields rest}, readFields d fuel depth before cs = .ok (fields, rest) →
    rest <:+ cs

theorem leavesEnd_zero : LeavesEnd d 0 where
  value h := by cases h
  items h := by cases h
  fields h := by cases h

/-- Behind gaps that are skipped stands the end of what there was. -/
theorem suffix_of_skipGap {c : Char} {behind : List Char} (h : skipGap cs = c :: behind) :
    c :: behind <:+ cs :=
  h ▸ skipGap_suffix cs

theorem suffix_behind_gap {c : Char} {behind : List Char} (h : skipGap cs = c :: behind) :
    behind <:+ cs :=
  (List.suffix_cons c behind).trans (suffix_of_skipGap h)

namespace LeavesEnd

variable {fuel depth : Nat} {before fields : List (String × Json)} {items : List Json}

/-- A list is taken up to its closing bracket. -/
theorem list_succ (h : LeavesEnd d fuel)
    (hread : readValue d (fuel + 1) depth ('[' :: cs) = .ok (j, rest)) : ']' :: rest <:+ cs := by
  rw [readValue_bracket] at hread
  split at hread
  next hclose =>
    obtain ⟨-, rfl⟩ := Prod.mk.inj (Except.ok.inj hread)
    exact suffix_of_skipGap hclose
  next =>
    split at hread
    next => cases hread
    next =>
      split at hread
      next hitems =>
        obtain ⟨-, rfl⟩ := Prod.mk.inj (Except.ok.inj hread)
        exact (h.items hitems).trans (skipGap_suffix cs)
      next => cases hread

/-- What is left behind a map is the end of what there was. -/
theorem map_succ (h : LeavesEnd d fuel)
    (hread : readValue d (fuel + 1) depth ('\x7b' :: cs) = .ok (j, rest)) : rest <:+ cs := by
  rw [readValue_brace] at hread
  split at hread
  next hclose =>
    obtain ⟨-, rfl⟩ := Prod.mk.inj (Except.ok.inj hread)
    exact suffix_behind_gap hclose
  next =>
    split at hread
    next => cases hread
    next =>
      split at hread
      next hfields =>
        obtain ⟨-, rfl⟩ := Prod.mk.inj (Except.ok.inj hread)
        exact (h.fields hfields).trans (skipGap_suffix cs)
      next => cases hread

theorem value_succ (h : LeavesEnd d fuel)
    (hread : readValue d (fuel + 1) depth cs = .ok (j, rest)) : rest <:+ cs := by
  obtain _ | ⟨c, cs⟩ := cs
  · cases hread
  by_cases hquote : c = '"'
  · subst hquote
    rw [readValue_quote] at hread
    split at hread
    next htext =>
      obtain ⟨-, rfl⟩ := Prod.mk.inj (Except.ok.inj hread)
      exact (suffix_of_readText? htext).trans (List.suffix_cons '"' cs)
    next => cases hread
  by_cases hlist : c = '['
  · subst hlist
    exact ((List.suffix_cons ']' rest).trans (h.list_succ hread)).trans (List.suffix_cons '[' cs)
  by_cases hmap : c = '\x7b'
  · subst hmap
    exact (h.map_succ hread).trans (List.suffix_cons '\x7b' cs)
  rw [readValue_plain hquote hlist hmap] at hread
  split at hread
  next hword =>
    obtain rfl := Except.ok.inj hread
    exact suffix_of_readWord? hword
  next => exact suffix_of_readNumber hread

theorem items_succ (h : LeavesEnd d fuel)
    (hread : readItems d (fuel + 1) depth cs = .ok (items, rest)) : ']' :: rest <:+ cs := by
  rw [readItems_succ] at hread
  split at hread
  next => cases hread
  next hvalue =>
    split at hread
    next hclose =>
      obtain ⟨-, rfl⟩ := Prod.mk.inj (Except.ok.inj hread)
      exact (suffix_of_skipGap hclose).trans (h.value hvalue)
    next hcomma =>
      split at hread
      next hitems =>
        obtain ⟨-, rfl⟩ := Prod.mk.inj (Except.ok.inj hread)
        have hbehind := (suffix_behind_gap hcomma).trans (h.value hvalue)
        exact ((h.items hitems).trans (skipGap_suffix _)).trans hbehind
      next => cases hread
    next => cases hread

/-- What is left behind a field, of what was left behind its value. -/
theorem suffix_of_readBehind (h : LeavesEnd d fuel) {key : String} {behind : List Char} {v : Json}
    (hread : readBehind d fuel depth before key (.ok (v, behind)) = .ok (fields, rest)) :
    rest <:+ behind := by
  simp only [readBehind] at hread
  split at hread
  next hclose =>
    obtain ⟨-, rfl⟩ := Prod.mk.inj (Except.ok.inj hread)
    exact suffix_behind_gap hclose
  next hcomma =>
    exact ((h.fields hread).trans (skipGap_suffix _)).trans (suffix_behind_gap hcomma)
  next => cases hread

theorem fields_succ (h : LeavesEnd d fuel)
    (hread : readFields d (fuel + 1) depth before cs = .ok (fields, rest)) : rest <:+ cs := by
  unfold readFields at hread
  split at hread
  next cs =>
    split at hread
    next => cases hread
    next hkey =>
      have hbehind := (suffix_of_readText? hkey).trans (List.suffix_cons '"' cs)
      split at hread
      next hcolon =>
        split at hread
        next => cases hread
        next hvalue =>
          have hvalue := ((h.value hvalue).trans (skipGap_suffix _)).trans (suffix_behind_gap hcolon)
          exact ((h.suffix_of_readBehind hread).trans hvalue).trans hbehind
      next => cases hread
  next => cases hread

end LeavesEnd

theorem leavesEnd (d : Dialect) : ∀ fuel, LeavesEnd d fuel
  | 0 => leavesEnd_zero
  | fuel + 1 => ⟨(leavesEnd d fuel).value_succ, (leavesEnd d fuel).items_succ,
      (leavesEnd d fuel).fields_succ⟩

/-! ## Lists -/

theorem numberOf_ne_list {negative : Bool} {whole : List Char} {items : List Json} :
    numberOf negative whole cs ≠ .ok (.list items, rest) := by
  intro h
  simp only [numberOf] at h
  split at h
  next => split at h <;> cases h
  next => cases h

theorem unsigned_ne_list {negative : Bool} {items : List Json} :
    unsigned negative cs ≠ .ok (.list items, rest) := by
  intro h
  unfold unsigned at h
  split at h
  next => exact numberOf_ne_list h
  next =>
    split at h
    next => exact numberOf_ne_list h
    next => cases h
  next => cases h

theorem readNumber_ne_list {items : List Json} : readNumber cs ≠ .ok (.list items, rest) := by
  intro h
  obtain _ | ⟨c, body⟩ := cs
  · cases h
  · by_cases hminus : c = '-'
    · subst hminus
      rw [readNumber_minus] at h
      exact unsigned_ne_list h
    · rw [readNumber_cons hminus] at h
      exact unsigned_ne_list h

theorem readWord?_ne_list {items : List Json} : readWord? cs ≠ some (.list items, rest) := by
  intro h
  obtain ⟨⟨word, found⟩, hword, hfound⟩ := List.exists_of_findSome?_eq_some h
  dsimp only at hfound
  split at hfound
  next =>
    obtain ⟨rfl, -⟩ := Prod.mk.inj (Option.some.inj hfound)
    simp [words] at hword
  next => cases hfound

/-- A list is read from its opening bracket up to its closing one. -/
theorem brackets_of_readValue {fuel depth : Nat} {items : List Json}
    (h : readValue d fuel depth cs = .ok (.list items, rest)) :
    ∃ inside, cs = '[' :: inside ∧ ']' :: rest <:+ inside := by
  obtain _ | fuel := fuel
  · cases h
  obtain _ | ⟨c, cs⟩ := cs
  · cases h
  by_cases hlist : c = '['
  · subst hlist
    exact ⟨cs, rfl, (leavesEnd d fuel).list_succ h⟩
  by_cases hquote : c = '"'
  · subst hquote
    rw [readValue_quote] at h
    split at h <;> cases h
  by_cases hmap : c = '\x7b'
  · subst hmap
    rw [readValue_brace] at h
    split at h
    next => cases h
    next =>
      split at h
      next => cases h
      next => split at h <;> cases h
  rw [readValue_plain hquote hlist hmap] at h
  split at h
  next found hword => exact absurd (hword.trans (congrArg some (Except.ok.inj h))) readWord?_ne_list
  next => exact absurd h readNumber_ne_list

/-- A text that spells a list begins with a bracket and ends with one, apart from gaps. -/
theorem brackets_of_read {s : String} {items : List Json} (h : read d s = .ok (.list items)) :
    ∃ inside rest, skipGap s.toList = '[' :: inside ∧ ']' :: rest <:+ inside ∧
      skipGap rest = [] := by
  simp only [read] at h
  split at h
  next => cases h
  next v rest hvalue =>
    split at h
    next hend =>
      obtain rfl := Except.ok.inj h
      obtain ⟨inside, hopen, hclose⟩ := brackets_of_readValue hvalue
      exact ⟨inside, rest, hopen, hclose, List.isEmpty_iff.1 hend⟩
    next => cases h

theorem isBlank_of_isGap {c : Char} (h : isGap c = true) : Text.isBlank c = true := by
  simp only [isGap, Bool.or_eq_true, beq_iff_eq] at h
  rcases h with ((rfl | rfl) | rfl) | rfl <;> rfl

theorem skipGap_of_stripped (h : Text.Stripped cs) : skipGap cs = cs := by
  cases cs with
  | nil => rfl
  | cons c rest =>
    refine skipGap_cons (Bool.eq_false_iff.2 fun hgap => ?_) rest
    have hblank := h.first c rfl
    rw [isBlank_of_isGap hgap] at hblank
    cases hblank

/-- Of gaps nothing stands behind the last character that is not blank. -/
theorem eq_nil_of_stripped {c : Char} (h : Text.Stripped cs) (hrest : c :: rest <:+ cs)
    (hgaps : skipGap rest = []) : rest = [] := by
  rcases List.eq_nil_or_concat rest with hnil | ⟨more, last, rfl⟩
  · exact hnil
  · obtain ⟨front, hfront⟩ := hrest
    have hcs : cs = front ++ c :: more ++ [last] := by simp [← hfront]
    have hgap : isGap last = true := List.dropWhile_eq_nil_iff.1 hgaps last (by simp)
    have hblank := h.last last (by rw [hcs, List.getLast?_concat]; rfl)
    rw [isBlank_of_isGap hgap] at hblank
    cases hblank

/-- A text without blanks around it that spells a list stands between brackets. -/
theorem brackets_of_read_stripped {s : String} {items : List Json}
    (hstripped : Text.Stripped s.toList) (h : read d s = .ok (.list items)) :
    s.toList.head? = some '[' ∧ s.toList.getLast? = some ']' := by
  obtain ⟨inside, rest, hopen, hclose, hend⟩ := brackets_of_read h
  rw [skipGap_of_stripped hstripped] at hopen
  have hsuffix : ']' :: rest <:+ s.toList := hopen ▸ hclose.trans (List.suffix_cons '[' inside)
  obtain rfl := eq_nil_of_stripped hstripped hsuffix hend
  obtain ⟨front, hfront⟩ := hsuffix
  refine ⟨by rw [hopen]; rfl, ?_⟩
  rw [← hfront, List.getLast?_concat]

end Remediation.Json
