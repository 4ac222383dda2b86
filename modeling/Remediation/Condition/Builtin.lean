import Remediation.Condition.Conversion
import Remediation.Condition.Zone
import Remediation.LinearPattern.Reader
/-!
# Functions of conditions

The functions that conditions may call, by name, and the types that convert operands.  A function
that does not suit its arguments has no result; a few stop the evaluation instead.
-/

set_option autoImplicit false

namespace Remediation

namespace Condition

namespace Operand

/-! ## Parts -/

/-- The number of parts of an operand; null has none. -/
def size? : Operand → Option Nat
  | .null => some 0
  | .text s | .bareText s => some s.length
  | .bytes bs | .bareBytes bs => some bs.length
  | .list items | .bareList items => some items.length
  | .map entries | .record entries => some entries.length
  | .names entries => some entries.length
  | _ => none

/-- The item of a list at a position, counted from the end for a negative one. -/
def itemAt? {α : Type} (items : List α) (n : Int) : Option α :=
  if 0 ≤ n then items[n.toNat]?
  else if (-n).toNat ≤ items.length then items[items.length - (-n).toNat]? else none

/-- What stands under a key of a map that suits the keys there. -/
def found? (entries : List (Operand × Operand)) (key : Operand) : Option Operand :=
  match under? entries key with
  | .ok a => a
  | .error _ => none

/-- What stands at a position of a list or a text, or under a key of a map. -/
def at? (a i : Operand) : Option Operand :=
  match a with
  | .list items | .bareList items => i.whole?.bind (itemAt? items)
  | .text s | .bareText s =>
    (i.whole?.bind (itemAt? s.toList)).map fun c => .bareText (String.singleton c)
  | .bytes bs | .bareBytes bs => (i.whole?.bind (itemAt? bs)).map fun b => .bareInt b.toNat
  | .map entries | .record entries => if i.isKey then found? entries i else none
  | _ => none

/-- The member of a map, a record or dotted names.  A record has to have it. -/
def member? (a : Operand) (name : String) : Except Stop (Option Operand) :=
  match a with
  | .map entries => .ok (found? entries (.text name))
  | .record entries =>
    match found? entries (.text name) with
    | some b => .ok (some b)
    | none => .error (.noKey (Text.quote name))
  | .names entries => .ok (lookupField entries name)
  | _ => .ok none

/-! ## Texts, bytes and lists -/

/-- Whether an operand is among some others; those that it is compared with before have to be
comparable. -/
def among? (a : Operand) : List Operand → Option Bool
  | [] => some false
  | b :: bs =>
    match equals b a with
    | .ok true => some true
    | .ok false => among? a bs
    | .error _ => none

/-- Whether bytes contain others, or a number of one of them. -/
def hasBytes? (bs : List UInt8) (b : Operand) : Option Bool :=
  match b.octets?, b.whole? with
  | some part, _ => some (Text.occurs part bs)
  | _, some n => if 0 ≤ n ∧ n < 256 then some (bs.contains (UInt8.ofNat n.toNat)) else none
  | _, _ => none

/-- Whether one operand contains another one. -/
def contains? (a b : Operand) : Option Bool :=
  match a with
  | .list items => among? b items
  | .map entries | .record entries =>
    match under? entries b with
    | .ok found => some found.isSome
    | .error _ => none
  | .text s => b.chars?.map fun part => Text.occurs part.toList s.toList
  | .bytes bs => hasBytes? bs b
  | _ => none

/-- Whether the front of one operand is another one, or its end. -/
def borders? (test : {α : Type} → [BEq α] → List α → List α → Bool) (a b : Operand) :
    Option Bool :=
  match a.chars?, b.chars?, a.octets?, b.octets? with
  | some s, some part, _, _ => some (test part.toList s.toList)
  | _, _, some bs, some part => some (test part bs)
  | _, _, _, _ => none

/-- The bytes that an operand is, or that encode it if it is a text. -/
def encoding? (a : Operand) : Option (List UInt8) :=
  (a.chars?.map fun s => s.toUTF8.toList).or a.octets?

/-- The text that an operand is, or that its bytes encode. -/
def spelled? (a : Operand) : Option String :=
  a.chars?.or (a.octets?.bind fun bs => (Text.decodeUtf8 bs).toOption)

/-- Whether a pattern matches somewhere in a text. -/
def matches? (a b : Operand) : Option Bool :=
  match a.encoding?, b.spelled?.bind LinearPattern.read? with
  | some bs, some p => some (p.occursIn bs)
  | _, _ => none

/-- The pieces of a text between separators. -/
def split? (a b : Operand) : Option Operand :=
  match a.chars?, b.chars? with
  | some s, some t => (Text.splitAtText? t s).map fun pieces => .list (pieces.map .text)
  | _, _ => none

end Operand

/-! ## Functions by name -/

/-- The functions of two arguments. -/
def pairFunction? : String → Option (Operand → Operand → Option Operand)
  | "startsWith" => some fun a b => (a.borders? List.isPrefixOf b).map .ofBool
  | "endsWith" => some fun a b => (a.borders? List.isSuffixOf b).map .ofBool
  | "contains" => some fun a b => (a.contains? b).map .ofBool
  | "matches" => some fun a b => (a.matches? b).map .ofBool
  | "split" => some Operand.split?
  | _ => none

/-- Whether a name is that of a function or of a type. -/
def isFunction (name : String) : Bool :=
  name = "size" || timeFunctions.contains name || (pairFunction? name).isSome ||
    (Kind.ofName? name).isSome

/-- Apply a function or a type to arguments. -/
def applyFunction (name : String) (args : List Operand) : Except Stop (Option Operand) :=
  match Kind.ofName? name, args with
  | some k, args => Operand.convert k args
  | none, [a] =>
    if name = "size" then .ok (a.size?.map fun n => .int n)
    else if timeFunctions.contains name then timeNumber name a .null
    else .ok none
  | none, [a, b] =>
    if timeFunctions.contains name then timeNumber name a b
    else .ok ((pairFunction? name).bind fun f => f a b)
  | none, _ => .ok none

/-- What a name stands for that is no fact. -/
def builtin? (name : String) : Option Operand :=
  match Kind.ofName? name with
  | some k => some (.kind k)
  | none => if isFunction name then some (.function name) else none

end Condition

end Remediation
