/-!
# Kinds of operands

The types that conditions know, with their names.  Arithmetic may leave operands that are `bare`:
numbers, texts, bytes, lists and spans of time that are of no type of the language of conditions.
-/

set_option autoImplicit false

namespace Remediation

namespace Condition

/-- The type of an operand. -/
inductive Kind where
  | null
  | bool
  | int
  | uint
  | double
  | text
  | bytes
  | list
  | map
  | record
  | instant
  | span
  | bareInt
  | bareDouble
  | bareText
  | bareBytes
  | bareList
  | bareSpan
  | kind
  | function
  | names
  | failure
  deriving DecidableEq, Repr, Inhabited

namespace Kind

/-- The name of a type in messages. -/
def name : Kind → String
  | .null => "NoneType"
  | .bool => "BoolType"
  | .int => "IntType"
  | .uint => "UintType"
  | .double => "DoubleType"
  | .text => "StringType"
  | .bytes => "BytesType"
  | .list => "ListType"
  | .map => "MapType"
  | .record => "MessageType"
  | .instant => "TimestampType"
  | .span => "DurationType"
  | .bareInt => "int"
  | .bareDouble => "float"
  | .bareText => "str"
  | .bareBytes => "bytes"
  | .bareList => "list"
  | .bareSpan => "timedelta"
  | .kind => "type"
  | .function => "function"
  | .names => "NameContainer"
  | .failure => "CELEvalError"

/-- What stands before the name of a type where it is named in full. -/
def home : Kind → String
  | .bool | .int | .uint | .double | .text | .bytes | .list | .map | .record | .instant | .span =>
    "celpy.celtypes."
  | .names | .failure => "celpy.evaluation."
  | .bareSpan => "datetime."
  | _ => ""

/-- A type as it is shown. -/
def shown (k : Kind) : String := "<class '" ++ k.home ++ k.name ++ "'>"

/-- The name of a type where operands of it are refused. -/
def nativeName (k : Kind) : String := if k = .bareSpan then k.home ++ k.name else k.name

/-- The type that a name stands for in conditions. -/
def ofName? : String → Option Kind
  | "bool" => some .bool
  | "bytes" => some .bytes
  | "double" => some .double
  | "duration" => some .span
  | "int" => some .int
  | "list" => some .list
  | "map" => some .map
  | "null_type" => some .null
  | "string" => some .text
  | "timestamp" => some .instant
  | "uint" => some .uint
  | "type" => some .kind
  | _ => none

/-- The types of values in messages, by their names without what all of them start with. -/
def wellKnown : List (String × Kind) :=
  [("Int32Value", .int), ("UInt32Value", .uint), ("Int64Value", .int), ("UInt64Value", .uint),
    ("FloatValue", .double), ("DoubleValue", .double), ("BoolValue", .bool),
    ("BytesValue", .bytes), ("StringValue", .text), ("ListValue", .list), ("Struct", .record)]

end Kind

end Condition

end Remediation
