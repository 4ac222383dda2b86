import Remediation.Condition.Operand
/-!
# Comparing operands

Integers and double-precision numbers are strict: they are compared for equality with their own
type and its bare form alone.  Lists and maps are compared with their like.  All else may be compared
and differs.

What cannot be compared is a misfit.  In lists and maps a difference decides before a misfit does,
unless there are two misfits.  Between bare lists the first pair decides that is not equal.
-/

set_option autoImplicit false

namespace Remediation

namespace Condition

/-- Why operands cannot be compared. -/
inductive Misfit where
  /-- Their types do not fit. -/
  | types
  /-- The offset of an instant is a day or more. -/
  | offsets
  deriving DecidableEq, Repr, Inhabited

namespace Operand

/-! ## Numbers -/

/-- How an integer stands to a floating-point number, if that is a number. -/
def compareWhole (n : Int) (x : Float) : Option Ordering :=
  if x.isNaN then none
  else
    match Scalar.wholeOfFloat? x.floor with
    | some m =>
      some (if n < m then .lt else if m < n then .gt else if x.floor < x then .lt else .eq)
    | none => some (if x < 0.0 then .gt else .lt)

/-- How two numbers stand to each other. -/
def compareNumbers (a b : Operand) : Option Ordering :=
  match a.whole?, a.float?, b.whole?, b.float? with
  | some m, _, some n, _ => some (compare m n)
  | some m, _, _, some y => compareWhole m y
  | _, some x, some n, _ => (compareWhole n x).map Ordering.swap
  | _, some x, _, some y =>
    if x < y then some .lt else if y < x then some .gt else if x == y then some .eq else none
  | _, _, _, _ => none

/-- Whether an operand is a number. -/
def isNumber (a : Operand) : Bool := a.whole?.isSome || a.float?.isSome

/-! ## Keys of maps -/

/-- What keys of maps are found by.  Only keys that have the same code are compared. -/
inductive Code where
  | number (n : Int)
  | text (s : String)
  | bytes (bs : List UInt8)
  | instant (micros : Int)
  | span (micros : Int)
  | null
  | kind (k : Kind)
  | function (name : String)
  deriving DecidableEq, Repr

/-- The number that numbers are reduced to, so that equal ones have the same code. -/
def codeModulus : Nat := 0x1fffffffffffffff

/-- The code of an integer. -/
def codeOfWhole (n : Int) : Code :=
  let size : Int := n.natAbs % codeModulus
  let code := if n < 0 then -size else size
  .number (if code = -1 then -2 else code)

/-- The code of a floating-point number.  A power of two is reduced with its exponent, as the modulus
is one less than the 61st of them. -/
def codeOfFloat (x : Float) : Option Code :=
  match Decimal.Floating.ofBits x.toBits with
  | .nan => none
  | .infinite negative => some (.number (if negative then -314159 else 314159))
  | .zero _ => some (.number 0)
  | .finite negative b =>
    let size : Int := (b.significand * Nat.pow 2 (b.exponent % 61).toNat) % codeModulus
    let code := if negative then -size else size
    some (.number (if code = -1 then -2 else code))

/-- The code of a key; what has none cannot be a key. -/
def code? : Operand → Option Code
  | .null => some .null
  | .bool n | .int n | .bareInt n => some (codeOfWhole n)
  | .uint n => some (codeOfWhole n)
  | .double x | .bareDouble x => codeOfFloat x
  | .text s | .bareText s => some (if s = "" then .number 0 else .text s)
  | .bytes bs | .bareBytes bs => some (if bs.isEmpty then .number 0 else .bytes bs)
  | .instant i => if i.isWide then none else some (.instant i.universal)
  | .span n | .bareSpan n => some (.span n)
  | .kind k => some (.kind k)
  | .function name => some (.function name)
  | .list _ | .bareList _ | .map _ | .record _ | .names _ | .failure _ => none

/-- Whether an operand is a number of no value, which is a key that is never found. -/
def isUnfindable (a : Operand) : Bool := a.float?.elim false Float.isNaN

/-! ## Equality -/

/-- How the comparisons of parts add up. -/
inductive Agreement where
  | equal
  | different
  /-- Some parts cannot be compared. -/
  | unclear
  deriving DecidableEq, Repr, Inhabited

/-- Add the comparison of one more part: a difference decides, but two parts that cannot be compared
are a misfit. -/
def Agreement.add (a : Agreement) (part : Except Misfit Bool) : Except Misfit Agreement :=
  match a, part with
  | _, .error .offsets => .error .offsets
  | .equal, .ok b => .ok (if b then .equal else .different)
  | .different, _ => .ok .different
  | .unclear, .ok b => .ok (if b then .unclear else .different)
  | .equal, .error .types => .ok .unclear
  | .unclear, .error .types => .error .types

/-- What the comparisons of all parts say. -/
def Agreement.conclude : Agreement → Except Misfit Bool
  | .equal => .ok true
  | .different => .ok false
  | .unclear => .error .types

/-- Whether operands of two types without parts can be compared for equality. -/
def comparable (j k : Kind) : Bool :=
  match j, k with
  | .int, .int | .int, .bareInt | .bareInt, .int => true
  | .uint, .uint | .uint, .bareInt | .bareInt, .uint => true
  | .double, .double | .double, .bareDouble | .bareDouble, .double => true
  | .bool, .int | .bool, .uint | .bareDouble, .int | .bareDouble, .uint => true
  | .int, _ | .uint, _ | .double, _ | _, .int | _, .uint | _, .double => false
  | _, _ => true

/-- Whether two comparable operands without parts are equal. -/
def equalScalars (a b : Operand) : Except Misfit Bool :=
  match a, b with
  | .null, .null => .ok true
  | .kind j, .kind k => .ok (j == k)
  | .function f, .function g => .ok (f == g)
  | .failure c, .failure d => .ok (c == d)
  | .names xs, .names ys => .ok (xs.map (·.1) == ys.map (·.1))
  | .instant i, .instant j =>
    match i.compare? j with
    | some o => .ok (o == .eq)
    | none => .error .offsets
  | a, b =>
    match a.micros?, b.micros?, a.octets?, b.octets?, a.chars?, b.chars? with
    | some m, some n, _, _, _, _ => .ok (m == n)
    | _, _, some s, some t, _, _ => .ok (s == t)
    | _, _, _, _, some s, some t => .ok (s == t)
    | _, _, _, _, _, _ => .ok (compareNumbers a b == some .eq)

/-- Whether two keys of maps of the same code are equal. -/
def sameKey (stored sought : Operand) : Except Misfit Bool :=
  if comparable stored.kindOf sought.kindOf then equalScalars stored sought else .error .types

/-- What looking for a key in a map gives: what stands under it, or nothing.  What cannot be a key
cannot be looked for, and neither can a key be compared with those of its code that do not fit it. -/
def under? (entries : List (Operand × Operand)) (key : Operand) :
    Except Misfit (Option Operand) :=
  match key.code? with
  | none => if key.isUnfindable then .ok none else .error .types
  | some code => go code entries
where
  /-- Look among some entries. -/
  go (code : Code) : List (Operand × Operand) → Except Misfit (Option Operand)
    | [] => .ok none
    | (stored, a) :: rest =>
      if stored.code? = some code then
        match sameKey stored key with
        | .ok true => .ok (some a)
        | .ok false => go code rest
        | .error m => .error m
      else go code rest

/-- Whether all keys of a map are keys of another one. -/
def hasKeys (entries : List (Operand × Operand)) : List Operand → Except Misfit Bool
  | [] => .ok true
  | k :: ks =>
    match under? entries k with
    | .ok (some _) => hasKeys entries ks
    | .ok none => .ok false
    | .error m => .error m

/-- The entries of an operand that is a map with the same keys; nothing if it differs without a look at
the values. -/
def sameKeys (strict : Bool) (xs : List (Operand × Operand)) (b : Operand) :
    Except Misfit (Option (List (Operand × Operand))) :=
  match b.entries? with
  | some ys =>
    if xs.length = ys.length then
      (hasKeys ys (xs.map (·.1))).map fun same => if same then some ys else none
    else .ok none
  | none => if b.kindOf = .names ∨ (b.kindOf = .null ∧ !strict) then .ok none else .error .types

/-- Whether an operand may be asked for as a key. -/
def isKey : Operand → Bool
  | .int _ | .uint _ | .bool _ | .text _ | .bareText _ => true
  | _ => false

/-- Whether the operand to the right decides how two operands are compared, as its type is the
narrower one. -/
def isLed (left right : Kind) : Bool :=
  (left = .bareList && right = .list) || (left = .map && right = .record)

mutual

/-- Whether two operands are equal, the second of which stands to the left if they are `swapped`.
The test for a difference is `strict`: it does not compare null with lists and maps. -/
def agree (strict swapped : Bool) (a b : Operand) : Except Misfit Bool :=
  let (left, right) := if swapped then (b, a) else (a, b)
  let swapped := if isLed left.kindOf right.kindOf then !swapped else swapped
  match a with
  | .list xs =>
    match b with
    | .list ys | .bareList ys =>
      if xs.length = ys.length then (agreeItems strict swapped xs ys .equal).bind Agreement.conclude
      else .ok false
    | b => if b.kindOf = .null ∧ !strict then .ok false else .error .types
  | .bareList xs =>
    match b with
    | .list ys =>
      if xs.length = ys.length then (agreeItems strict swapped xs ys .equal).bind Agreement.conclude
      else .ok false
    | .bareList ys => if xs.length = ys.length then agreeBare swapped xs ys else .ok false
    | b => if b.entries?.isSome ∨ !comparable .bareList b.kindOf then .error .types else .ok false
  | .map xs =>
    match sameKeys strict xs b with
    | .ok (some ys) => (agreeEntries strict swapped xs ys .equal).bind Agreement.conclude
    | .ok none => .ok false
    | .error m => .error m
  | .record xs =>
    match sameKeys strict xs b with
    | .ok (some ys) => (agreeEntries strict swapped xs ys .equal).bind Agreement.conclude
    | .ok none => .ok false
    | .error m => .error m
  | a =>
    match b with
    | .map _ | .record _ =>
      if a.kindOf = .names ∨ (a.kindOf = .null ∧ !strict) then .ok false else .error .types
    | .list _ => if a.kindOf = .null ∧ !strict then .ok false else .error .types
    | b => if comparable left.kindOf right.kindOf then equalScalars a b else .error .types
termination_by structural a

/-- Compare the items of two lists pair by pair. -/
def agreeItems (strict swapped : Bool) (xs ys : List Operand) (a : Agreement) :
    Except Misfit Agreement :=
  match xs, ys with
  | x :: xs, y :: ys =>
    match a.add (agree strict swapped x y) with
    | .ok a => agreeItems strict swapped xs ys a
    | .error m => .error m
  | _, _ => .ok a
termination_by structural xs

/-- Compare the items of two bare lists up to the first pair that is not equal. -/
def agreeBare (swapped : Bool) (xs ys : List Operand) : Except Misfit Bool :=
  match xs, ys with
  | x :: xs, y :: ys =>
    match agree false swapped x y with
    | .ok true => agreeBare swapped xs ys
    | r => r
  | _, _ => .ok true
termination_by structural xs

/-- Compare the values of a map with those under the same keys of another one.  The keys have to be
such that may be asked for. -/
def agreeEntries (strict swapped : Bool) (xs ys : List (Operand × Operand)) (a : Agreement) :
    Except Misfit Agreement :=
  match xs with
  | [] => .ok a
  | (k, x) :: xs =>
    if !k.isKey then .error .types
    else
      match under? ys k with
      | .ok (some y) =>
        match a.add (agree strict swapped x y) with
        | .ok a => agreeEntries strict swapped xs ys a
        | .error m => .error m
      | .ok none => .ok .different
      | .error m => .error m
termination_by structural xs

end

/-- Whether two operands are equal. -/
def equals (a b : Operand) : Except Misfit Bool := agree false false a b

/-- Whether two operands differ. -/
def differs (a b : Operand) : Except Misfit Bool := (agree true false a b).map (!·)

/-! ## Order -/

/-- Whether two numbers have an order.  An integer with a sign has none with a number of another type
to its right, bare integers apart; one without a sign has none with an integer to its left that has
one. -/
def orderedNumbers (a b : Operand) : Bool :=
  match a.kindOf, b.kindOf with
  | .int, .int | .int, .bareInt => true
  | .int, _ => false
  | _, _ => a.isNumber && b.isNumber


/-- How two operands stand to each other; nothing if a number is none. -/
def compareScalars (a b : Operand) : Except Misfit (Option Ordering) :=
  if orderedNumbers a b then .ok (compareNumbers a b)
  else if a.kindOf = .int then .error .types
  else
    match a, b with
    | .instant i, .instant j =>
      match i.compare? j with
      | some o => .ok (some o)
      | none => .error .offsets
    | a, b =>
      match a.micros?, b.micros?, a.octets?, b.octets?, a.chars?, b.chars? with
      | some m, some n, _, _, _, _ => .ok (some (compare m n))
      | _, _, some s, some t, _, _ => .ok (some (compare (s.map (·.toNat)) (t.map (·.toNat))))
      | _, _, _, _, some s, some t => .ok (some (compare s t))
      | _, _, _, _, _, _ => .error .types

/-- Whether the order of two operands passes a test. -/
def passes (test : Ordering → Bool) (a b : Operand) : Except Misfit Bool :=
  match compareScalars a b with
  | .ok (some o) => .ok (test o)
  | .ok none => .ok false
  | .error m => .error m

mutual

/-- Whether the order of two operands passes a test.  Bare lists are ordered by their first items that
are not equal, or by their lengths. -/
def ordered (test : Ordering → Bool) (a b : Operand) : Except Misfit Bool :=
  match a with
  | .bareList xs =>
    match b with
    | .bareList ys => orderedItems test xs ys
    | _ => .error .types
  | a => passes test a b

/-- Whether the order of two lists passes a test. -/
def orderedItems (test : Ordering → Bool) (xs ys : List Operand) : Except Misfit Bool :=
  match xs, ys with
  | [], [] => .ok (test .eq)
  | [], _ :: _ => .ok (test .lt)
  | _ :: _, [] => .ok (test .gt)
  | x :: xs, y :: ys =>
    match equals x y with
    | .ok true => orderedItems test xs ys
    | .ok false => ordered test x y
    | .error m => .error m

end

end Operand

end Condition

end Remediation
