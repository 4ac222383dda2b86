import Remediation.Value
import Remediation.Decimal.Notation
import Remediation.Text.Quoted
import Remediation.Text.Split
/-!
# Values in messages

A value is shown in two ways: by itself a text is shown as it is, while inside of lists, maps and
sets, and where a message quotes it, it stands between quotes.
-/

set_option autoImplicit false

namespace Remediation

open Text

namespace Scalar

/-- A scalar as it is quoted. -/
def quoted : Scalar → String
  | .null => "None"
  | .bool true => "True"
  | .bool false => "False"
  | .int n => Decimal.intText n
  | .float x => Decimal.plainFloat.write x
  | .text s => quote s
  | .moment m => m.constructorText
  | .bytes bs => quoteBytes bs

/-- A scalar as it is shown by itself. -/
def shown : Scalar → String
  | .text s => s
  | .moment m => m.text
  | s => s.quoted

/-- Whether a scalar can be shown: an integer of too many digits cannot. -/
def isShowable : Scalar → Bool
  | .int n => Decimal.isWritable n
  | _ => true

end Scalar

namespace Value

mutual

/-- A value as it is quoted. -/
def quoted : Value → String
  | .scalar s => s.quoted
  | .list items => "[" ++ join ", " (quotedItems items) ++ "]"
  | .map entries => "\x7b" ++ join ", " (quotedEntries entries) ++ "\x7d"
  | .set [] => "set()"
  | .set items => "\x7b" ++ join ", " (items.map Scalar.quoted) ++ "\x7d"

/-- The quoted items of a list. -/
def quotedItems : List Value → List String
  | [] => []
  | v :: vs => v.quoted :: quotedItems vs

/-- The quoted entries of a map. -/
def quotedEntries : List (Scalar × Value) → List String
  | [] => []
  | (k, v) :: es => (k.quoted ++ ": " ++ v.quoted) :: quotedEntries es

end

/-- A value as it is shown by itself. -/
def shown : Value → String
  | .scalar s => s.shown
  | v => v.quoted

mutual

/-- Whether a value can be shown. -/
def isShowable : Value → Bool
  | .scalar s => s.isShowable
  | .list items => areShowable items
  | .map entries => areEntriesShowable entries
  | .set items => items.all Scalar.isShowable

/-- Whether all items of a list can be shown. -/
def areShowable : List Value → Bool
  | [] => true
  | v :: vs => v.isShowable && areShowable vs

/-- Whether all entries of a map can be shown. -/
def areEntriesShowable : List (Scalar × Value) → Bool
  | [] => true
  | (k, v) :: es => k.isShowable && v.isShowable && areEntriesShowable es

end

end Value

end Remediation
