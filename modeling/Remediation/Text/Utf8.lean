/-!
# UTF-8

Decoding of bytes as UTF-8.  Where the bytes are not UTF-8, the fault names the first byte of the
sequence that breaks, how many bytes the broken sequence has, and why it breaks.
-/

set_option autoImplicit false

namespace Remediation.Text

/-- Why a byte sequence is not UTF-8. -/
inductive Utf8Reason where
  /-- The byte cannot start a character. -/
  | badStart
  /-- A character is not continued. -/
  | badContinuation
  /-- The bytes end within a character. -/
  | truncated
  deriving DecidableEq, Repr, Inhabited

/-- Where and why bytes are not UTF-8: the broken sequence is `length` bytes from `position`, the
first of which is `byte`. -/
structure Utf8Fault where
  reason : Utf8Reason
  byte : UInt8
  position : Nat
  length : Nat
  deriving DecidableEq, Repr, Inhabited

/-- Bounds of the byte behind a first byte, which exclude overlong forms, surrogates and codes
beyond the last character; `none` for a byte that starts no longer character. -/
def secondBounds (first : UInt8) : Option (UInt8 × UInt8) :=
  if 0xc2 ≤ first ∧ first ≤ 0xdf then some (0x80, 0xbf)
  else if first = 0xe0 then some (0xa0, 0xbf)
  else if first = 0xed then some (0x80, 0x9f)
  else if 0xe1 ≤ first ∧ first ≤ 0xef then some (0x80, 0xbf)
  else if first = 0xf0 then some (0x90, 0xbf)
  else if 0xf1 ≤ first ∧ first ≤ 0xf3 then some (0x80, 0xbf)
  else if first = 0xf4 then some (0x80, 0x8f)
  else none

/-- How many bytes follow the first byte of a character. -/
def tailLength (first : UInt8) : Nat :=
  if first < 0xe0 then 1 else if first < 0xf0 then 2 else 3

/-- What stands at the front of some bytes: a character and the number of bytes behind its first,
or the reason why there is none and the number of bytes that belong to the broken sequence. -/
def decodeFront (first : UInt8) (rest : List UInt8) : Except (Utf8Reason × Nat) (Char × Nat) :=
  if first < 0x80 then .ok (Char.ofNat first.toNat, 0)
  else match secondBounds first with
  | none => .error (.badStart, 1)
  | some (lo, hi) =>
    let lead : Nat :=
      match tailLength first with
      | 1 => first.toNat % 0x20
      | 2 => first.toNat % 0x10
      | _ => first.toNat % 0x08
    match rest with
    | [] => .error (.truncated, 1)
    | b1 :: rest1 =>
      if b1 < lo ∨ hi < b1 then .error (.badContinuation, 1)
      else
        let n1 := lead * 64 + b1.toNat % 64
        if tailLength first = 1 then .ok (Char.ofNat n1, 1)
        else match rest1 with
        | [] => .error (.truncated, 2)
        | b2 :: rest2 =>
          if b2 < 0x80 ∨ 0xbf < b2 then .error (.badContinuation, 2)
          else
            let n2 := n1 * 64 + b2.toNat % 64
            if tailLength first = 2 then .ok (Char.ofNat n2, 2)
            else match rest2 with
            | [] => .error (.truncated, 3)
            | b3 :: _ =>
              if b3 < 0x80 ∨ 0xbf < b3 then .error (.badContinuation, 3)
              else .ok (Char.ofNat (n2 * 64 + b3.toNat % 64), 3)

/-- Decode the bytes behind `skip` bytes that a character before them has used. -/
def decodeUtf8Aux (position : Nat) (skip : Nat) : List UInt8 → Except Utf8Fault (List Char)
  | [] => .ok []
  | b :: rest =>
    match skip with
    | skip + 1 => decodeUtf8Aux (position + 1) skip rest
    | 0 =>
      match decodeFront b rest with
      | .error (reason, length) => .error ⟨reason, b, position, length⟩
      | .ok (c, used) =>
        match decodeUtf8Aux (position + 1) used rest with
        | .error e => .error e
        | .ok cs => .ok (c :: cs)

/-- The text that bytes spell in UTF-8. -/
def decodeUtf8 (bytes : List UInt8) : Except Utf8Fault String :=
  (decodeUtf8Aux 0 0 bytes).map String.ofList

end Remediation.Text
