import Remediation.Condition.Instant
import Remediation.Condition.Stop
/-!
# Operands of conditions

Conditions work on operands of their own types: integers of 64 bits, with and without a sign,
double-precision numbers, texts, bytes, lists, maps, records, instants and spans of time, and on the
bare operands that arithmetic leaves.  Types and functions are operands too, and so are failures.
-/

set_option autoImplicit false

namespace Remediation

namespace Condition

/-- What conditions work on. -/
inductive Operand where
  | null
  /-- A truth value: zero is false, and every other number is true, though only one is `true`. -/
  | bool (n : Int)
  | int (n : Int)
  | uint (n : Nat)
  | double (x : Float)
  | text (s : String)
  | bytes (bs : List UInt8)
  | list (items : List Operand)
  | map (entries : List (Operand × Operand))
  | record (entries : List (Operand × Operand))
  | instant (i : Instant)
  /-- A span of so many microseconds. -/
  | span (micros : Int)
  | bareInt (n : Int)
  | bareDouble (x : Float)
  | bareText (s : String)
  | bareBytes (bs : List UInt8)
  | bareList (items : List Operand)
  | bareSpan (micros : Int)
  | kind (k : Kind)
  | function (name : String)
  /-- The facts whose dotted names start with a name. -/
  | names (entries : List (String × Operand))
  | failure (cause : Failure)
  deriving Inhabited

namespace Operand

/-- The truth values `true` and `false`. -/
def ofBool (b : Bool) : Operand := .bool (if b then 1 else 0)

/-- The type of an operand. -/
def kindOf : Operand → Kind
  | .null => .null
  | .bool _ => .bool
  | .int _ => .int
  | .uint _ => .uint
  | .double _ => .double
  | .text _ => .text
  | .bytes _ => .bytes
  | .list _ => .list
  | .map _ => .map
  | .record _ => .record
  | .instant _ => .instant
  | .span _ => .span
  | .bareInt _ => .bareInt
  | .bareDouble _ => .bareDouble
  | .bareText _ => .bareText
  | .bareBytes _ => .bareBytes
  | .bareList _ => .bareList
  | .bareSpan _ => .bareSpan
  | .kind _ => .kind
  | .function _ => .function
  | .names _ => .names
  | .failure _ => .failure

/-- Whether an operand counts as true where no truth value is asked for. -/
def isSomething : Operand → Bool
  | .null => false
  | .bool n | .int n | .bareInt n => n != 0
  | .uint n => n != 0
  | .double x | .bareDouble x => x != 0.0
  | .text s | .bareText s => s != ""
  | .bytes bs | .bareBytes bs => !bs.isEmpty
  | .list items | .bareList items => !items.isEmpty
  | .map entries | .record entries => !entries.isEmpty
  | .span n | .bareSpan n => n != 0
  | .kind _ | .function _ | .instant _ | .failure _ => true
  | .names entries => !entries.isEmpty

/-- An integer of 64 bits with a sign. -/
def int64? (n : Int) : Option Operand :=
  if -0x8000000000000000 ≤ n ∧ n < 0x8000000000000000 then some (.int n) else none

/-- An integer of 64 bits without a sign. -/
def uint64? (n : Int) : Option Operand :=
  if 0 ≤ n ∧ n < 0x10000000000000000 then some (.uint n.toNat) else none

/-- The whole number that an operand is; truth values count as zero and one. -/
def whole? : Operand → Option Int
  | .bool n | .int n | .bareInt n => some n
  | .uint n => some n
  | _ => none

/-- The floating-point number that an operand is. -/
def float? : Operand → Option Float
  | .double x | .bareDouble x => some x
  | _ => none

/-- The number that an operand is, as a floating-point number. -/
def asFloat? (a : Operand) : Option Float := a.float?.or (a.whole?.map Float.ofInt)

/-- The text that an operand is. -/
def chars? : Operand → Option String
  | .text s | .bareText s => some s
  | _ => none

/-- The bytes that an operand is. -/
def octets? : Operand → Option (List UInt8)
  | .bytes bs | .bareBytes bs => some bs
  | _ => none

/-- The items that an operand has as a list. -/
def items? : Operand → Option (List Operand)
  | .list items | .bareList items => some items
  | _ => none

/-- The entries that an operand has as a map. -/
def entries? : Operand → Option (List (Operand × Operand))
  | .map entries | .record entries => some entries
  | _ => none

/-- The microseconds that an operand is as a span. -/
def micros? : Operand → Option Int
  | .span n | .bareSpan n => some n
  | _ => none

/-- What an operand yields where its parts are gone through one by one: the items of a list, the keys
of a map, the characters of a text, the numbers of bytes. -/
def parts? : Operand → Option (List Operand)
  | .list items | .bareList items => some items
  | .map entries | .record entries => some (entries.map (·.1))
  | .text s | .bareText s => some (s.toList.map fun c => .bareText (String.singleton c))
  | .bytes bs | .bareBytes bs => some (bs.map fun b => .bareInt b.toNat)
  | .names entries => some (entries.map fun (name, _) => .bareText name)
  | _ => none

/-- The cause of a failure. -/
def cause? : Operand → Option Failure
  | .failure cause => some cause
  | _ => none

/-- The first failure among operands. -/
def failureAmong? (operands : List Operand) : Option Failure := operands.findSome? cause?

/-- What an operation gives that does not suit its operands. -/
def unsuited (operation : String) (operands : List Operand) : Operand :=
  .failure (.unsuited operation (operands.map kindOf))

theorem truth_ofBool (b : Bool) : (ofBool b).isSomething = b := by cases b <;> rfl

end Operand

end Condition

end Remediation
