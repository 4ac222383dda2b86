import Remediation.Fault
/-!
# Values as lists of pairs

A map can be given as a list of pairs instead: every item that holds two values gives an entry.
-/

set_option autoImplicit false

namespace Remediation

namespace Value

/-- What a value holds one by one, if it holds something: the characters of a text count. -/
def parts? : Value → Option (List Value)
  | .list items => some items
  | .map entries => some (entries.map fun (k, _) => .scalar k)
  | .set items => some (items.map .scalar)
  | .text s => some (s.toList.map fun c => .text c.toString)
  | .scalar (.bytes bs) => some (bs.map fun b => .int b.toNat)
  | .scalar _ => none

/-- The entry that the item of number `n` gives. -/
def pairOf (n : Nat) (item : Value) : Except PairFault (Scalar × Value) :=
  match item.parts? with
  | none => .error (.item n)
  | some [.scalar k, v] => .ok (k, v)
  | some [k, _] => .error (.key k.typeName)
  | some parts => .error (.length n parts.length)

/-- The entries that items give, behind others; the first item has the number `n`. -/
def pairsOf (n : Nat) (before : List (Scalar × Value)) :
    List Value → Except PairFault (List (Scalar × Value))
  | [] => .ok before
  | item :: items =>
    match pairOf n item with
    | .error e => .error e
    | .ok (k, v) => pairsOf (n + 1) (upsertEntry before k v) items

/-- The entries of a map, or of a list of pairs. -/
def toEntries (v : Value) : Except PairFault (List (Scalar × Value)) :=
  match v with
  | .map es => .ok es
  | v =>
    match v.parts? with
    | none => .error (.noItems v.typeName)
    | some items => pairsOf 0 [] items

end Value

/-- Entries with those of another map: of two entries for a key, that of the other one counts. -/
def mergeEntries (entries later : List (Scalar × Value)) : List (Scalar × Value) :=
  later.foldl (fun acc (k, v) => upsertEntry acc k v) entries

end Remediation
