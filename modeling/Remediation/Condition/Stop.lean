import Remediation.Condition.Kind
import Remediation.Text.Quoted
import Remediation.Decimal.Digits
/-!
# Failures and stops

An operation that does not suit its operands leaves a failure, which is an operand as well: it can
stand in a map, and an operation that decides without it drops it.  A stop is no operand; it ends
the evaluation, unless it is raised inside of a node that turns stops of its category into a failure.
-/

set_option autoImplicit false

namespace Remediation

namespace Condition

/-- Why an expression gives no operand. -/
inductive Failure where
  /-- Nothing has this name. -/
  | undeclared (name : String)
  /-- An operation or a function does not suit operands of these types. -/
  | unsuited (operation : String) (kinds : List Kind)
  /-- An operand has no member of this name. -/
  | noMember (name : String)
  /-- A literal spells no operand. -/
  | spelling (text : String)
  /-- A node has been stopped from within. -/
  | stopped
  deriving DecidableEq, Repr, Inhabited

/-- What stops an evaluation. -/
inductive Stop where
  /-- The body of a macro fails for an item. -/
  | failed (cause : Failure)
  /-- An operand of this type has no items. -/
  | notIterable (type : String)
  /-- A reduction of an operand without items. -/
  | notReducible
  /-- Operands of these types have no order. -/
  | notOrdered (left right : String)
  /-- Two operands, as they are shown, cannot be compared. -/
  | notComparable (left right : String)
  /-- Lists have no order. -/
  | listOrder
  /-- A macro has no name to bind. -/
  | unnamed
  /-- A macro or a test of presence has no arguments. -/
  | noArguments
  /-- A macro has this many arguments, and not as many as expected. -/
  | arguments (expected count : Nat)
  /-- A record has a field twice. -/
  | fieldTwice (name : String)
  /-- A record has a field of a name that is taken. -/
  | fieldTaken
  /-- A map has no such key, as it is shown. -/
  | noKey (shown : String)
  /-- Instants are compared of which one has an offset of a day or more. -/
  | wideOffset
  /-- An instant moves out of the calendar. -/
  | dateRange
  /-- An infinite number has no integer. -/
  | infinite
  /-- A code is greater than that of any character could be. -/
  | hugeCode
  /-- A part of an instant is too great or too small to be looked at. -/
  | hugePart (greater : Bool)
  /-- An escape of this length stands for no byte. -/
  | byteEscape (length : Nat)
  /-- A span is looked at from a zone. -/
  | zonedSpan
  /-- An operand of this type has no such part. -/
  | noPart (type name : String)
  /-- One side of an interval is empty. -/
  | emptySide
  deriving DecidableEq, Repr, Inhabited

namespace Stop

/-- What a stop is about. -/
inductive Category where
  | failure
  | type
  | value
  | key
  | index
  | overflow
  | attribute
  | assertion
  deriving DecidableEq, Repr, Inhabited

/-- What a stop is about. -/
def category : Stop → Category
  | failed _ => .failure
  | notIterable _ | notReducible | notOrdered .. | notComparable .. | listOrder | unnamed
  | fieldTaken | byteEscape _ => .type
  | arguments .. | fieldTwice _ | wideOffset => .value
  | noKey _ => .key
  | noArguments | emptySide => .index
  | dateRange | infinite | hugeCode | hugePart _ => .overflow
  | noPart .. => .attribute
  | zonedSpan => .assertion

/-- The wording of a stop. -/
def message : Stop → String
  | failed _ => "<cel>"
  | notIterable type => s!"'{type}' object is not iterable"
  | notReducible => "reduce() arg 2 must support iteration"
  | notOrdered left right =>
    s!"'<' not supported between instances of '{left}' and '{right}'"
  | notComparable left right => s!"no such overload: {left} != {right}"
  | listOrder => "no such overload"
  | unnamed => "expected string or bytes-like object, got 'NoneType'"
  | noArguments => "list index out of range"
  | arguments expected count =>
    if count < expected then
      s!"not enough values to unpack (expected {Decimal.intText expected}, got {Decimal.intText count})"
    else s!"too many values to unpack (expected {Decimal.intText expected})"
  | fieldTwice name => s!"Duplicate field label {Text.quote name}"
  | fieldTaken => "MessageType.__init__() got multiple values for argument 'self'"
  | noKey shown => shown
  | wideOffset =>
    "offset must be a timedelta strictly between -timedelta(hours=24) and timedelta(hours=24)."
  | dateRange => "date value out of range"
  | infinite => "cannot convert float infinity to integer"
  | hugeCode => "Python int too large to convert to C int"
  | hugePart greater =>
    if greater then "signed integer is greater than maximum"
    else "signed integer is less than minimum"
  | byteEscape length =>
    s!"ord() expected a character, but string of length {Decimal.intText length} found"
  | zonedSpan => ""
  | noPart type name => s!"'{type}' object has no attribute '{name}'"
  | emptySide => "string index out of range"

end Stop

end Condition

end Remediation
