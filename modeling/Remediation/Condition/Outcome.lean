import Remediation.Condition.Builtin
import Remediation.Condition.Calculation
import Remediation.Condition.Expression
import Remediation.Condition.Layout
/-!
# Outcomes of operations

An operation on operands gives an operand, which is a failure if the operation does not suit them, or
it stops.  `and` and `or` are the operations that may decide without one of their operands; all
others fail where one of them has failed.
-/

set_option autoImplicit false

namespace Remediation

namespace Condition

/-- What an expression gives, unless it stops. -/
abbrev Outcome := Except Stop Operand

namespace Outcome

/-- A failure. -/
def failure (cause : Failure) : Outcome := .ok (.failure cause)

/-- Turn stops of some categories into failures. -/
def contain (categories : List Stop.Category) : Outcome → Outcome
  | .error stop => if stop.category ∈ categories then failure .stopped else .error stop
  | .ok a => .ok a

/-- What an operation gives that may have no result for its operands. -/
def ofResult (operation : String) (operands : List Operand) (a : Option Operand) : Outcome :=
  .ok (a.getD (Operand.unsuited operation operands))

/-- What a comparison gives. -/
def ofTest (operation : String) (operands : List Operand) : Except Misfit Bool → Outcome
  | .ok b => .ok (.ofBool b)
  | .error .types => .ok (Operand.unsuited operation operands)
  | .error .offsets => .error .wideOffset

/-- What an operation gives that fails with the first of its operands that has failed. -/
def unlessFailed (operands : List Operand) (a : Outcome) : Outcome :=
  match Operand.failureAmong? operands with
  | some cause => failure cause
  | none => a

theorem contain_ok (categories : List Stop.Category) (a : Operand) :
    contain categories (.ok a) = .ok a := rfl

theorem contain_nil (o : Outcome) : contain [] o = o := by cases o <;> rfl

end Outcome

namespace Operand

/-! ## Truth values -/

/-- The truth value that an operand is. -/
def truth? : Operand → Option Bool
  | .bool n => some (n != 0)
  | _ => none

/-- Both of two operands: a truth value decides over what is none, unless both are none. -/
def both (a b : Operand) : Operand :=
  match a.truth?, b.truth? with
  | some x, some _ => if x then b else a
  | some x, none => if x then b else a
  | none, some y => if y then a else b
  | none, none => unsuited "&&" [a, b]

/-- Either of two operands: a truth value decides over what is none, unless both are none. -/
def either (a b : Operand) : Operand :=
  match a.truth?, b.truth? with
  | some x, some _ => if x then a else b
  | some x, none => if x then a else b
  | none, some y => if y then b else a
  | none, none => unsuited "||" [a, b]

/-- The truth value that an operand is not. -/
def negation (a : Operand) : Operand :=
  match a.truth? with
  | some x => .ofBool !x
  | none => unsuited "!" [a]

theorem both_ofBool (x y : Bool) : both (.ofBool x) (.ofBool y) = .ofBool (x && y) := by
  cases x <;> cases y <;> rfl

theorem either_ofBool (x y : Bool) : either (.ofBool x) (.ofBool y) = .ofBool (x || y) := by
  cases x <;> cases y <;> rfl

theorem negation_ofBool (x : Bool) : negation (.ofBool x) = .ofBool !x := by cases x <;> rfl

/-- What is false decides `and`, whatever stands to its right. -/
theorem both_false (a : Operand) : both (.ofBool false) a = .ofBool false := by
  cases a <;> rfl

/-- What is true decides `or`, whatever stands to its right. -/
theorem either_true (a : Operand) : either (.ofBool true) a = .ofBool true := by
  cases a <;> rfl

/-! ## Membership -/

/-- Whether an operand is within others: one that is equal decides, else those that cannot be
compared make it fail. -/
def withinParts (a : Operand) (unclear : Bool) : List Operand → Except Misfit Bool
  | [] => if unclear then .error .types else .ok false
  | b :: bs =>
    match b.equals a with
    | .ok true => .ok true
    | .ok false => withinParts a unclear bs
    | .error .types => withinParts a true bs
    | .error .offsets => .error .offsets

/-- Whether an operand is within the parts of another one. -/
def within (a b : Operand) : Except Misfit Bool :=
  match b.parts? with
  | some parts => withinParts a false parts
  | none => .error .types

/-! ## Rests and layouts -/

/-- The rest of a division, or a text or bytes with their directives replaced. -/
def rest (a b : Operand) : Outcome :=
  let filled :=
    match a.chars?, a.octets? with
    | some s, _ => Layout.ofText s b
    | _, some bs => Layout.ofBytes bs b
    | _, _ => .ok (a.mod b)
  match filled with
  | .ok c => Outcome.ofResult "%" [a, b] c
  | .error stop => .error stop

end Operand

/-- The spelling of an operation. -/
def Operation.sign : Operation → String
  | .or => "||"
  | .and => "&&"
  | .less => "<"
  | .lessOrEqual => "<="
  | .greater => ">"
  | .greaterOrEqual => ">="
  | .equal => "=="
  | .different => "!="
  | .within => "in"
  | .add => "+"
  | .sub => "-"
  | .mul => "*"
  | .div => "/"
  | .mod => "%"

/-- Apply an operation.  A failure to either side is what it gives, unless it is `and` or `or`, or fills
a layout, which shows failures like all else. -/
def Operation.apply (op : Operation) (a b : Operand) : Outcome :=
  let test (r : Except Misfit Bool) := Outcome.unlessFailed [a, b] (.ofTest op.sign [a, b] r)
  let result (r : Option Operand) := Outcome.unlessFailed [a, b] (.ofResult op.sign [a, b] r)
  match op with
  | .or => .ok (a.either b)
  | .and => .ok (a.both b)
  | .less => test (Operand.ordered (· == .lt) a b)
  | .lessOrEqual => test (Operand.ordered (· != .gt) a b)
  | .greater => test (Operand.ordered (· == .gt) a b)
  | .greaterOrEqual => test (Operand.ordered (· != .lt) a b)
  | .equal => test (a.equals b)
  | .different => test (a.differs b)
  | .within => test (a.within b)
  | .add => result (a.add b)
  | .sub => result (a.sub b)
  | .mul => result (a.mul b)
  | .div => result (a.div b)
  | .mod => if (a.chars?.isSome || a.octets?.isSome) then a.rest b
    else Outcome.unlessFailed [a, b] (a.rest b)

/-- Call a function.  What it refuses is a failure, and so is a stop that is about types, values or
parts. -/
def callFunction (name : String) (args : List Operand) : Outcome :=
  if isFunction name then
    Outcome.unlessFailed args
      (Outcome.contain [.type, .value, .attribute]
        (match applyFunction name args with
          | .ok a => Outcome.ofResult name args a
          | .error stop => .error stop))
  else Outcome.failure (.undeclared name)

end Condition

end Remediation
