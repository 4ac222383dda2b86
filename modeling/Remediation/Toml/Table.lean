import Remediation.Value
/-!
# Tables of TOML

A document is built line by line.  A header declares the table that the lines behind it fill, and makes
the tables on the way to it; each table is declared once.  The keys of a line may lead through further
tables, which are made as they are needed, but not into one that has been declared.  A header may
also add a table to a list of tables; a path through the list leads into its last table.

A value that has been written out is complete: nothing leads into it, and no key is given twice.
-/

set_option autoImplicit false

namespace Remediation.Toml

/-- What stands under a key. -/
inductive Entry where
  /-- A value that has been written out. -/
  | value (v : Value)
  /-- A table, and whether it has been declared. -/
  | table (declared : Bool) (entries : List (String × Entry))
  /-- A list of tables: those that are complete, and the entries of the last one. -/
  | tables (done : List Value) (entries : List (String × Entry))
  deriving Inhabited

/-- The entries of a table. -/
abbrev Entries := List (String × Entry)

/-- Keys that lead through tables. -/
abbrev Key := List String

mutual

/-- The value of what stands under a key. -/
def Entry.toValue : Entry → Value
  | .value v => v
  | .table _ es => .map (toEntries es)
  | .tables done es => .list (done ++ [.map (toEntries es)])

/-- The entries of a table as those of a map. -/
def toEntries : Entries → List (Scalar × Value)
  | [] => []
  | (k, e) :: es => (.text k, e.toValue) :: toEntries es

end

namespace Entries

/-- Change the table that keys lead to; tables that are not there yet are made. -/
def change (f : Entries → Option Entries) : Key → Entries → Option Entries
  | [], es => f es
  | k :: ks, es =>
    match lookupField es k with
    | none => (change f ks []).map fun sub => setField es k (.table false sub)
    | some (.table declared sub) =>
      (change f ks sub).map fun sub => setField es k (.table declared sub)
    | some (.tables done sub) => (change f ks sub).map fun sub => setField es k (.tables done sub)
    | some (.value _) => none

/-- Declare a table that has not been declared. -/
def declare (k : String) (es : Entries) : Option Entries :=
  match lookupField es k with
  | none => some (setField es k (.table true []))
  | some (.table false sub) => some (setField es k (.table true sub))
  | _ => none

/-- Declare a table that lines have made, if it is there. -/
def settle (k : String) (es : Entries) : Option Entries :=
  match lookupField es k with
  | some (.table _ sub) => some (setField es k (.table true sub))
  | _ => some es

/-- Add a table to a list of tables. -/
def extend (k : String) (es : Entries) : Option Entries :=
  match lookupField es k with
  | none => some (setField es k (.tables [] []))
  | some (.tables done sub) => some (setField es k (.tables (done ++ [.map (toEntries sub)]) []))
  | _ => none

/-- Put a value where keys lead, through tables that have not been declared. -/
def put (v : Value) : Key → Entries → Option Entries
  | [], _ => none
  | [k], es => if (lookupField es k).isSome then none else some (setField es k (.value v))
  | k :: ks, es =>
    match lookupField es k with
    | none => (put v ks []).map fun sub => setField es k (.table false sub)
    | some (.table false sub) => (put v ks sub).map fun sub => setField es k (.table false sub)
    | _ => none

/-- Do something to the last of some keys in the table that the others lead to. -/
def atLast (f : String → Entries → Option Entries) (key : Key) (es : Entries) : Option Entries :=
  match key.getLast? with
  | some k => change (f k) key.dropLast es
  | none => none

theorem put_taken (v : Value) {k : String} {es : Entries} (h : (lookupField es k).isSome) :
    put v [k] es = none := by
  simp [put, h]

theorem declare_twice {k : String} {es fs : Entries} (h : declare k es = some fs) :
    declare k fs = none := by
  have key : ∃ sub, fs = setField es k (.table true sub) := by
    unfold declare at h
    split at h
    · exact ⟨[], (Option.some.inj h).symm⟩
    · rename_i sub _
      exact ⟨sub, (Option.some.inj h).symm⟩
    · cases h
  obtain ⟨sub, rfl⟩ := key
  simp [declare, lookupField_setField_self]

end Entries

end Remediation.Toml
