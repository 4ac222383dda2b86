import Remediation.Proofs.Work
import Remediation.Toml
/-!
# Faults of TOML

A text is refused as no document, or for an integer that has too many digits to be read.  The lemmas go
up along the readers, from texts and keys over values to lines and documents.
-/

set_option autoImplicit false

namespace Remediation.Toml

/-- Why a text gives no document. -/
inductive Unread : Fault → Prop where
  | malformed : Unread .toml
  | longDigits (digits : Nat) : Unread (.longDigits digits)

theorem refused {α : Type} : FailsAs Unread (.error .toml : Except Fault α) := .error .malformed

/-! ## Texts and keys -/

theorem failsAs_codeEscape (width : Nat) (cs : List Char) : FailsAs Unread (codeEscape width cs) := by
  unfold codeEscape
  dsimp only
  split
  · split
    · exact refused
    · exact .ok _
  · exact refused

theorem failsAs_escape (cs : List Char) : FailsAs Unread (escape cs) := by
  fun_cases escape cs
  case case8 => exact failsAs_codeEscape 4 _
  case case9 => exact failsAs_codeEscape 8 _
  case case10 => exact refused
  all_goals exact .ok _

theorem failsAs_quoted (fuel : Nat) (cs : List Char) : FailsAs Unread (quoted fuel cs) := by
  fun_induction quoted fuel cs with
  | case1 | case2 | case6 => exact refused
  | case3 => exact .ok _
  | case4 _ cs e herror => exact .error (failsAs_escape cs e herror)
  | case5 _ _ _ _ _ ih | case7 _ _ _ _ _ _ ih => exact ih.map _

theorem failsAs_quotedWide (fuel : Nat) (cs : List Char) : FailsAs Unread (quotedWide fuel cs) := by
  fun_induction quotedWide fuel cs with
  | case1 | case2 | case7 => exact refused
  | case3 => exact .ok _
  | case4 _ _ _ _ ih => exact ih
  | case5 _ cs _ e herror => exact .error (failsAs_escape cs e herror)
  | case6 _ _ _ _ _ _ ih | case8 _ _ _ _ _ _ ih => exact ih.map _

theorem failsAs_literal (cs : List Char) : FailsAs Unread (literal cs) := by
  unfold literal
  dsimp only
  split
  · split
    · exact refused
    · exact .ok _
  · exact refused

theorem failsAs_literalWide (cs : List Char) : FailsAs Unread (literalWide cs) := by
  fun_induction literalWide cs with
  | case1 | case3 => exact refused
  | case2 => exact .ok _
  | case4 _ _ _ _ ih => exact ih.map _

theorem failsAs_readText? {cs : List Char} {r : Reading (List Char)} (h : readText? cs = some r) :
    FailsAs Unread r := by
  unfold readText? at h
  split at h
  · exact Option.some.inj h ▸ (failsAs_quotedWide _ _).map _
  · exact Option.some.inj h ▸ failsAs_quoted _ _
  · exact Option.some.inj h ▸ (failsAs_literalWide _).map _
  · exact Option.some.inj h ▸ failsAs_literal _
  · cases h

theorem failsAs_readKeyPart (cs : List Char) : FailsAs Unread (readKeyPart cs) := by
  unfold readKeyPart
  split
  · exact (failsAs_quoted _ _).map _
  · exact (failsAs_literal _).map _
  · dsimp only
    split
    · exact refused
    · exact .ok _

theorem failsAs_readKey (fuel : Nat) (cs : List Char) : FailsAs Unread (readKey fuel cs) := by
  fun_induction readKey fuel cs with
  | case1 => exact refused
  | case2 _ cs e herror => exact .error (failsAs_readKeyPart cs e herror)
  | case3 _ _ _ _ _ _ _ ih => exact ih.map _
  | case4 => exact .ok _

/-! ## Values -/

theorem failsAs_readMoment? {cs : List Char} {r : Reading Moment} (h : readMoment? cs = some r) :
    FailsAs Unread r := by
  unfold readMoment? at h
  split at h
  · split at h
    · exact Option.some.inj h ▸ refused
    · split at h
      · exact Option.some.inj h ▸ .ok _
      · exact Option.some.inj h ▸ .ok _
  · obtain ⟨_, -, rfl⟩ := Option.map_eq_some_iff.1 h
    exact .ok _

theorem failsAs_readDecimal? {cs : List Char} {r : Reading Value} (h : readDecimal? cs = some r) :
    FailsAs Unread r := by
  unfold readDecimal? at h
  obtain ⟨_, -, rfl⟩ := Option.map_eq_some_iff.1 h
  dsimp only
  split
  · split
    · exact .error (.longDigits _)
    · exact .ok _
  · exact .ok _

theorem failsAs_readNumber? {cs : List Char} {r : Reading Value} (h : readNumber? cs = some r) :
    FailsAs Unread r := by
  unfold readNumber? at h
  split at h
  · exact Option.some.inj h ▸ .ok _
  · split at h
    next hdecimal =>
      obtain rfl := Option.some.inj h
      exact failsAs_readDecimal? hdecimal
    next =>
      obtain ⟨_, -, rfl⟩ := Option.map_eq_some_iff.1 h
      exact .ok _

theorem failsAs_readPlain (cs : List Char) : FailsAs Unread (readPlain cs) := by
  unfold readPlain
  split
  next htext => exact (failsAs_readText? htext).map _
  next =>
    split
    · exact .ok _
    · split
      next hmoment => exact (failsAs_readMoment? hmoment).map _
      next =>
        cases hnumber : readNumber? cs with
        | none => exact refused
        | some r => exact failsAs_readNumber? hnumber

theorem failsAs_skipRemark (cs : List Char) : FailsAs Unread (skipRemark cs) := by
  unfold skipRemark
  split
  · split
    · exact refused
    · exact .ok _
  · exact .ok _

theorem failsAs_skipWide (fuel : Nat) (cs : List Char) : FailsAs Unread (skipWide fuel cs) := by
  induction fuel generalizing cs with
  | zero => exact .ok cs
  | succ fuel ih =>
    unfold skipWide
    split
    · exact (failsAs_skipRemark _).bind ih
    · exact .ok _

/-- What is read with some fuel. -/
structure Reads (fuel : Nat) : Prop where
  value : ∀ cs, FailsAs Unread (readValue fuel cs)
  items : ∀ cs, FailsAs Unread (readItems fuel cs)
  pair : ∀ cs, FailsAs Unread (readPair fuel cs)
  pairs : ∀ es cs, FailsAs Unread (readPairs fuel es cs)

namespace Reads

variable {fuel : Nat}

theorem value_succ (h : Reads fuel) (cs : List Char) : FailsAs Unread (readValue (fuel + 1) cs) := by
  rw [readValue.eq_def]
  dsimp only
  split
  · split
    next herror => exact .error (failsAs_skipWide _ _ _ herror)
    next => exact (h.items _).map _
  · split
    · exact .ok _
    · exact (h.pairs _ _).map _
  · exact failsAs_readPlain _

theorem items_succ (h : Reads fuel) (cs : List Char) : FailsAs Unread (readItems (fuel + 1) cs) := by
  rw [readItems.eq_def]
  dsimp only
  split
  · exact .ok _
  · split
    next herror => exact .error (h.value _ _ herror)
    next =>
      split
      next herror => exact .error (failsAs_skipWide _ _ _ herror)
      next => exact .ok _
      next =>
        split
        next herror => exact .error (failsAs_skipWide _ _ _ herror)
        next => exact (h.items _).map _
      next => exact refused

theorem pair_succ (h : Reads fuel) (cs : List Char) : FailsAs Unread (readPair (fuel + 1) cs) := by
  rw [readPair.eq_def]
  dsimp only
  split
  next herror => exact .error (failsAs_readKey _ _ _ herror)
  next => exact (h.value _).map _
  next => exact refused

theorem pairs_succ (h : Reads fuel) (es : Entries) (cs : List Char) :
    FailsAs Unread (readPairs (fuel + 1) es cs) := by
  rw [readPairs.eq_def]
  dsimp only
  split
  next herror => exact .error (h.pair _ _ herror)
  next =>
    split
    · exact refused
    · split
      · exact .ok _
      · exact h.pairs _ _
      · exact refused

end Reads

theorem reads : ∀ fuel, Reads fuel
  | 0 => ⟨fun _ => refused, fun _ => refused, fun _ => refused, fun _ _ => refused⟩
  | fuel + 1 =>
    ⟨(reads fuel).value_succ, (reads fuel).items_succ, (reads fuel).pair_succ,
      (reads fuel).pairs_succ⟩

/-! ## Documents -/

theorem failsAs_readHeader (d : Draft) (f : String → Entries → Option Entries)
    (closing cs : List Char) : FailsAs Unread (readHeader d f closing cs) := by
  unfold readHeader
  split
  next herror => exact .error (failsAs_readKey _ _ _ herror)
  next =>
    split
    · exact .ok _
    · exact refused

theorem failsAs_readLine (d : Draft) (cs : List Char) : FailsAs Unread (readLine d cs) := by
  unfold readLine
  split
  · exact .ok _
  · exact .ok _
  · exact .ok _
  · exact failsAs_readHeader _ _ _ _
  · exact failsAs_readHeader _ _ _ _
  · split
    next herror => exact .error ((reads _).pair _ _ herror)
    next =>
      split
      · exact .ok _
      · exact refused

theorem failsAs_readLines (fuel : Nat) (d : Draft) (cs : List Char) :
    FailsAs Unread (readLines fuel d cs) := by
  induction fuel generalizing d cs with
  | zero => exact .ok d
  | succ fuel ih =>
    unfold readLines
    split
    next herror => exact .error (failsAs_readLine _ _ _ herror)
    next =>
      split
      next herror => exact .error (failsAs_skipRemark _ _ herror)
      next => exact .ok _
      next => exact ih _ _
      next => exact refused

/-- A text is a document, or it is refused as none or for an integer that is too long. -/
theorem failsAs_read (s : String) : FailsAs Unread (read s) :=
  (failsAs_readLines _ _ _).map _

end Remediation.Toml
