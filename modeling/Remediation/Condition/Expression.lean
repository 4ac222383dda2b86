import Remediation.Condition.Operand
/-!
# Expressions of conditions

The tree of a condition.
-/

set_option autoImplicit false

namespace Remediation

namespace Condition

/-- An operation on two operands. -/
inductive Operation where
  | or
  | and
  | less
  | lessOrEqual
  | greater
  | greaterOrEqual
  | equal
  | different
  | within
  | add
  | sub
  | mul
  | div
  | mod
  deriving DecidableEq, Repr, Inhabited

/-- The tree of a condition. -/
inductive Expr where
  /-- A literal; one that spells no operand may also stop the evaluation. -/
  | literal (a : Except Stop Operand)
  | name (name : String)
  /-- A name behind a point, which names nothing for a macro; arguments behind it are evaluated in
  vain. -/
  | rootName (name : String) (args : List Expr)
  | call (function : String) (args : List Expr)
  | method (target : Expr) (function : String) (args : List Expr)
  | member (target : Expr) (name : String)
  | index (target position : Expr)
  /-- A record of a type.  The value of a field is the first of its parts, which are three where the
  field is spelled as a choice. -/
  | record (target : Expr) (fields : List (String × List Expr))
  | list (items : List Expr)
  | map (entries : List (Expr × Expr))
  | not (a : Expr)
  | neg (a : Expr)
  | binary (op : Operation) (a b : Expr)
  | choice (condition yes no : Expr)
  deriving Inhabited

end Condition

end Remediation
