import Remediation.Condition.Evaluation
import Remediation.Condition.Reader
import Remediation.Substitution
/-!
# Conditions

A condition is an expression over facts: every fact is a name in it.  `Condition.holds` asks for a
truth value, `Condition.texts` for a list of texts.

All facts are taken over before the expression is evaluated, whether it uses them or not: integers
have to fit into 64 bits, and names have to be identifiers with points between them.
-/

set_option autoImplicit false

namespace Remediation

namespace Condition

mutual

/-- A value as an operand.  Moments and bytes are texts, sets are lists, and keys are texts. -/
def Operand.ofValue : Value → Except Fault Operand
  | .null => .ok .null
  | .bool b => .ok (.ofBool b)
  | .int n =>
    match Operand.int64? n with
    | some a => .ok a
    | none => .error .overflow
  | .float x => .ok (.double x)
  | .text s => .ok (.text s)
  | .scalar (.moment m) => .ok (.text m.text)
  | .scalar (.bytes bs) => .ok (.text (Text.quoteBytes bs))
  | .list vs => (Operand.ofValues vs).map .list
  | .map es => (Operand.ofEntries [] es).map fun entries =>
      .map (entries.map fun (name, a) => (.text name, a))
  | .set ss => (Operand.ofScalars ss).map .list

/-- The values of a list as operands. -/
def Operand.ofValues : List Value → Except Fault (List Operand)
  | [] => .ok []
  | v :: vs =>
    match Operand.ofValue v with
    | .error e => .error e
    | .ok a => (Operand.ofValues vs).map (a :: ·)

/-- The entries of a map as operands, behind those before; of keys with the same text the last one
counts. -/
def Operand.ofEntries (before : List (String × Operand)) :
    List (Scalar × Value) → Except Fault (List (String × Operand))
  | [] => .ok before
  | (k, v) :: es =>
    match Operand.ofValue v with
    | .error e => .error e
    | .ok a => Operand.ofEntries (setField before (Value.scalar k).shown a) es

/-- The items of a set as operands. -/
def Operand.ofScalars : List Scalar → Except Fault (List Operand)
  | [] => .ok []
  | .null :: ss => (Operand.ofScalars ss).map (.null :: ·)
  | .bool b :: ss => (Operand.ofScalars ss).map (.ofBool b :: ·)
  | .int n :: ss =>
    match Operand.int64? n with
    | some a => (Operand.ofScalars ss).map (a :: ·)
    | none => .error .overflow
  | .float x :: ss => (Operand.ofScalars ss).map (.double x :: ·)
  | .text s :: ss => (Operand.ofScalars ss).map (.text s :: ·)
  | .moment m :: ss => (Operand.ofScalars ss).map (.text m.text :: ·)
  | .bytes bs :: ss => (Operand.ofScalars ss).map (.text (Text.quoteBytes bs) :: ·)

end

/-- Whether characters are an identifier. -/
def isIdentifier (cs : List Char) : Bool :=
  match cs with
  | [] => false
  | c :: cs => Token.startsWord c && cs.all Token.inWord

/-- The identifiers of a dotted name; a point may stand before the first one and a line end behind
the last one. -/
def pathOf? (name : String) : Option (List String) :=
  let cs := name.toList
  let cs := if cs.head? = some '.' then cs.drop 1 else cs
  let cs := if cs.getLast? = some '\n' then cs.dropLast else cs
  let parts := Text.splitChars '.' cs
  if parts.all isIdentifier then some (parts.map String.ofList) else none

/-- The scope of operands under dotted names.  A name that starts other ones stands for them, whether
it is a fact itself or not. -/
def nest : Nat → List (List String × Operand) → Scope
  | 0, _ => []
  | depth + 1, facts =>
    let heads := (facts.filterMap fun (path, _) => path.head?).foldl appendNew []
    heads.filterMap fun head =>
      let mine := facts.filter fun (path, _) => path.head? = some head
      let below := mine.filterMap fun (path, a) =>
        match path with
        | _ :: next :: rest => some (next :: rest, a)
        | _ => none
      if below.isEmpty then (mine.getLast?).map fun (_, a) => (head, a)
      else some (head, .names (nest depth below))

/-- The names of facts, taken apart. -/
def Scope.paths : List (Scalar × Operand) → Except Fault (List (List String × Operand))
  | [] => .ok []
  | (.text name, a) :: rest =>
    match pathOf? name with
    | some path => (Scope.paths rest).map ((path, a) :: ·)
    | none => .error (.factName name)
  | (k, _) :: _ => .error (.factNameType (Value.scalar k).typeName)

/-- The operands of all facts. -/
def Scope.operands : Facts → Except Fault (List (Scalar × Operand))
  | [] => .ok []
  | (k, v) :: rest =>
    match Operand.ofValue v with
    | .error e => .error e
    | .ok a => (Scope.operands rest).map ((k, a) :: ·)

/-- The types of values in messages under their full names. -/
def Scope.types : List (List String × Operand) :=
  Kind.wellKnown.map fun (name, k) => (["google", "protobuf", name], .kind k)

/-- The scope of facts, which stand in front of types of the same name. -/
def Scope.ofFacts (facts : Facts) : Except Fault Scope :=
  match Scope.operands facts with
  | .error e => .error e
  | .ok operands =>
    match Scope.paths operands with
    | .error e => .error e
    | .ok paths =>
      let all := Scope.types ++ paths
      .ok (nest ((all.map fun (p, _) => p.length).foldl max 0) all)

/-- The operand that a condition gives. -/
def run (expression : String) (facts : Facts) : Except Fault Operand :=
  match Expr.read? expression with
  | none => .error (.conditionUnparsed expression)
  | some e =>
    match Scope.ofFacts facts with
    | .error e => .error e
    | .ok scope =>
      match eval scope e with
      | .ok (.failure _) | .error (.failed _) => .error (.conditionFailed expression)
      | .ok a => .ok a
      | .error stop => .error (.stopped stop)

/-- Whether a condition holds. -/
def holds (expression : String) (facts : Facts) : Except Fault Bool :=
  match run expression facts with
  | .error e => .error e
  | .ok a =>
    match a.truth? with
    | some b => .ok b
    | none => .error (.conditionNotBoolean expression a.kindOf.name)

/-- The name of an operand's type where texts are asked for. -/
def plainName (a : Operand) : String :=
  match a with
  | .bool _ => "bool"
  | .int _ => "int"
  | .double _ => "float"
  | .map _ | .record _ => "dict"
  | a => a.kindOf.name

/-- The texts that a condition gives: those of the items of a list, a single text, or none for
null. -/
def texts (expression : String) (facts : Facts) : Except Fault (List String) :=
  match run expression facts with
  | .error e => .error e
  | .ok .null => .ok []
  | .ok (.text s) | .ok (.bareText s) => .ok [s]
  | .ok (.list items) => .ok (items.map (·.shown false))
  | .ok (.bareList items) => .ok (items.map (·.shown true))
  | .ok a => .error (.conditionNotTexts expression (plainName a))

end Condition

end Remediation
