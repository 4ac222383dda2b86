import Remediation.Condition.Operand
import Remediation.Condition.Span
import Remediation.Value.Display
/-!
# Texts of operands

An operand is shown by itself, or quoted as part of a list or a map.  Quoted operands of the types of
conditions are named with their types, unless the list that they stand in is shown as a plain one.
-/

set_option autoImplicit false

namespace Remediation

namespace Condition

namespace Operand

/-- The text of a floating-point number. -/
def floatText (x : Float) : String := Decimal.plainFloat.write x

/-- The text of a truth value. -/
def boolText (b : Bool) : String := if b then "True" else "False"

mutual

/-- An operand as it is shown inside of lists and maps.  Where `typed` is set the types are named;
they always are for bytes, integers without a sign, instants and spans. -/
def quoted (typed : Bool) (a : Operand) : String :=
  let name (body : String) := if typed then a.kindOf.name ++ "(" ++ body ++ ")" else body
  match a with
  | .null => "None"
  | .bool n => name (boolText (n != 0))
  | .int n => name (Decimal.intText n)
  | .uint n => "UintType(" ++ Decimal.intText n ++ ")"
  | .double x => name (floatText x)
  | .text s => name (Text.quote s)
  | .bytes bs => "BytesType(" ++ Text.quoteBytes bs ++ ")"
  | .list items => name ("[" ++ Text.join ", " (quotedItems typed items) ++ "]")
  | .map entries | .record entries =>
    name ("\x7b" ++ Text.join ", " (quotedEntries typed entries) ++ "\x7d")
  | .instant i => "TimestampType(" ++ Text.quote i.text ++ ")"
  | .span n => "DurationType(" ++ Text.quote (Span.text n) ++ ")"
  | .bareInt n => Decimal.intText n
  | .bareDouble x => floatText x
  | .bareText s => Text.quote s
  | .bareBytes bs => Text.quoteBytes bs
  | .bareList items => "[" ++ Text.join ", " (quotedItems true items) ++ "]"
  | .bareSpan n => Span.constructorText n
  | .kind k => k.shown
  | .function f => "<function " ++ f ++ ">"
  | .names _ => "NameContainer"
  | .failure _ => "CELEvalError"

/-- The items of a list as they are shown inside of it. -/
def quotedItems (typed : Bool) : List Operand → List String
  | [] => []
  | a :: as => quoted typed a :: quotedItems typed as

/-- The entries of a map as they are shown inside of it. -/
def quotedEntries (typed : Bool) : List (Operand × Operand) → List String
  | [] => []
  | (k, a) :: es => (quoted typed k ++ ": " ++ quoted typed a) :: quotedEntries typed es

end

/-- An operand as a text by itself. -/
def shown (typed : Bool) : Operand → String
  | .text s | .bareText s => s
  | .bool n => boolText (n != 0)
  | .int n => Decimal.intText n
  | .uint n => Decimal.intText n
  | .double x => floatText x
  | .bytes bs => Text.quoteBytes bs
  | .instant i => i.text
  | .span n => Span.text n
  | .bareSpan n => Span.dayText n
  | a => quoted typed a

/-- An operand as it is shown where it is refused, with its type. -/
def exhibited (a : Operand) : String := a.quoted true ++ " " ++ a.kindOf.shown

end Operand

end Condition

end Remediation
