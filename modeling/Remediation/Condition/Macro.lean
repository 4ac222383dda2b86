import Remediation.Condition.Outcome
/-!
# Macros

A macro goes through the parts of an operand.  Most of them evaluate a body for each part, with a name
bound to it.  A body that fails stops the evaluation, unless it is that of a macro that asks whether it
holds for all or for any part.
-/

set_option autoImplicit false

namespace Remediation

namespace Condition

/-- What goes through the parts of an operand. -/
inductive Macro where
  /-- What the body gives for each part. -/
  | map
  /-- The parts that the body is something for. -/
  | filter
  /-- Whether the body holds for all parts. -/
  | all
  /-- Whether the body holds for any part. -/
  | any
  /-- Whether the body is something for exactly one part. -/
  | one
  /-- The body of what there is so far and a part, for one part after the other. -/
  | reduce
  /-- The least part. -/
  | least
  deriving DecidableEq, Repr, Inhabited

namespace Macro

/-- The macro of a name. -/
def ofName? : String → Option Macro
  | "map" => some .map
  | "filter" => some .filter
  | "all" => some .all
  | "exists" => some .any
  | "exists_one" => some .one
  | "reduce" => some .reduce
  | "min" => some .least
  | _ => none

/-- How many arguments a macro has to have. -/
def arity : Macro → Nat
  | .reduce => 4
  | _ => 2

/-- The parts of an operand, which has to have some. -/
def partsOf (a : Operand) : Except Stop (List Operand) :=
  match a.parts? with
  | some parts => .ok parts
  | none => .error (.notIterable a.kindOf.nativeName)

/-- Stop at a failure. -/
def insist : Outcome → Outcome
  | .ok (.failure cause) => .error (.failed cause)
  | o => o

/-- Take a stop for the failure that it is about. -/
def relent : Outcome → Outcome
  | .error (.failed cause) => Outcome.failure cause
  | o => o

/-- The parts together with what the body gives for them. -/
def bodies (body : Operand → Outcome) : List Operand → Except Stop (List (Operand × Operand))
  | [] => .ok []
  | a :: as =>
    match insist (body a) with
    | .error stop => .error stop
    | .ok b => (bodies body as).map ((a, b) :: ·)

/-- Add up what the body gives for each part. -/
def total (add : Operand → Operand → Operand) (body : Operand → Outcome) (sum : Operand) :
    List Operand → Outcome
  | [] => .ok sum
  | a :: as =>
    match relent (body a) with
    | .error stop => .error stop
    | .ok b => total add body (add sum b) as

/-- The body of what there is so far and a part, for one part after the other. -/
def reduceOver (body : Operand → Operand → Outcome) (sum : Operand) : List Operand → Outcome
  | [] => .ok sum
  | a :: as =>
    match insist (body sum a) with
    | .error stop => .error stop
    | .ok sum => reduceOver body sum as

/-- The parts that the body is something for. -/
def chosen (bodies : List (Operand × Operand)) : List Operand :=
  (bodies.filter fun (_, b) => b.isSomething).map (·.1)

/-- Apply a macro of one body to parts. -/
def apply (m : Macro) (body : Operand → Outcome) (parts : List Operand) : Outcome :=
  match m with
  | .map => (bodies body parts).map fun bs => .list (bs.map (·.2))
  | .filter => (bodies body parts).map fun bs => .list (chosen bs)
  | .one => (bodies body parts).map fun bs => .ofBool ((chosen bs).length == 1)
  | .all => total Operand.both body (.ofBool true) parts
  | .any => total Operand.either body (.ofBool false) parts
  | .reduce | .least => .error (.arguments m.arity 2)

/-! ## The least part -/

/-- Why two operands have no order. -/
def disorder (a b : Operand) : Stop :=
  match a.kindOf, b.kindOf with
  | .list, _ => .listOrder
  | .int, _ => .notComparable a.exhibited b.exhibited
  | _, .list => .listOrder
  | _, .int => .notComparable b.exhibited a.exhibited
  | j, k => .notOrdered j.nativeName k.nativeName

/-- The least of an operand and others, the first one of those that are equal. -/
def leastOf (least : Operand) : List Operand → Outcome
  | [] => .ok least
  | a :: as =>
    match Operand.ordered (· == .lt) a least with
    | .ok less => leastOf (if less then a else least) as
    | .error .types => .error (disorder a least)
    | .error .offsets => Outcome.failure .stopped

/-- The least part of an operand. -/
def leastPart (a : Operand) : Outcome :=
  match partsOf a with
  | .error stop => .error stop
  | .ok [] => Outcome.failure .stopped
  | .ok (b :: bs) => leastOf b bs

end Macro

/-! ## The name that is bound -/

namespace Expr

mutual

/-- The last name in an expression, which a macro binds, or else the one found before. -/
def lastName? (found : Option String) (e : Expr) : Option String :=
  match e with
  | .literal _ => found
  | .name bound => some bound
  | .rootName _ args | .call _ args | .list args => lastNameOf? found args
  | .method target _ args => lastNameOf? (lastName? found target) args
  | .member target _ => lastName? found target
  | .index target position => lastName? (lastName? found target) position
  | .record target fields => lastNameOfFields? (lastName? found target) fields
  | .map entries => lastNameOfEntries? found entries
  | .not a | .neg a => lastName? found a
  | .binary _ a b => lastName? (lastName? found a) b
  | .choice a b c => lastName? (lastName? (lastName? found a) b) c

/-- The last name in expressions. -/
def lastNameOf? (found : Option String) (es : List Expr) : Option String :=
  match es with
  | [] => found
  | e :: es => lastNameOf? (lastName? found e) es

/-- The last name in the entries of a map. -/
def lastNameOfEntries? (found : Option String) (es : List (Expr × Expr)) : Option String :=
  match es with
  | [] => found
  | (k, e) :: es => lastNameOfEntries? (lastName? (lastName? found k) e) es

/-- The last name in the fields of a record. -/
def lastNameOfFields? (found : Option String) (es : List (String × List Expr)) : Option String :=
  match es with
  | [] => found
  | (_, parts) :: es => lastNameOfFields? (lastNameOf? found parts) es

end

end Expr

end Condition

end Remediation
