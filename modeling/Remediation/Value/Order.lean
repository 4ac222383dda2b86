import Remediation.Fault
/-!
# The order of scalars

Numbers, texts, bytes and moments have an order among themselves; scalars of different kinds have
none.
-/

set_option autoImplicit false

namespace Remediation

namespace Moment

/-- Whether two moments have an order. -/
def comparable : Moment → Moment → Bool
  | .date _, .date _ | .time _, .time _ => true
  | .dateTime _ _ o, .dateTime _ _ p => o.isSome == p.isSome
  | _, _ => false

end Moment

namespace Scalar

/-- The floating-point number that a number is close to. -/
def float? : Scalar → Option Float
  | .bool b => some (if b then 1.0 else 0.0)
  | .int n => some (Float.ofInt n)
  | .float x => some x
  | _ => none

/-- Whether a number is less than another one. -/
def numberLess (a b : Scalar) (x y : Float) : Bool :=
  match a.whole?, b.whole? with
  | some m, some n => m < n
  | _, _ => x < y

/-- Whether a scalar comes before another one. -/
def less (a b : Scalar) : Except Fault Bool :=
  match a, b with
  | .text s, .text t => .ok (s < t)
  | .bytes bs, .bytes cs => .ok (bs.map UInt8.toNat < cs.map UInt8.toNat)
  | .moment m, .moment n =>
    if m.comparable n then .ok (m.number < n.number) else .error (.momentOrder m n)
  | a, b =>
    match a.float?, b.float? with
    | some x, some y => .ok (numberLess a b x y)
    | _, _ => .error (.notOrdered (Value.scalar a).typeName (Value.scalar b).typeName)

/-- Refuse scalars of which two neighbours have no order. -/
def checkOrder : List Scalar → Except Fault Unit
  | a :: b :: rest =>
    match less b a with
    | .error e => .error e
    | .ok _ => checkOrder (b :: rest)
  | _ => .ok ()

/-- Whether a scalar does not come behind another one, if they have an order. -/
def notAfter (a b : Scalar) : Bool :=
  match less b a with
  | .ok after => !after
  | .error _ => true

/-- Scalars in their order. -/
def sort (scalars : List Scalar) : Except Fault (List Scalar) :=
  (checkOrder scalars).map fun _ => scalars.mergeSort notAfter

end Scalar

end Remediation
