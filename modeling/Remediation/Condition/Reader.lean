import Remediation.Condition.Token
/-!
# Reading conditions

The grammar of conditions, by precedence from the loosest on: choices, or, and, comparisons, sums,
products, signs, and what follows a target (members, methods, positions).  All operations on two
operands group to the left.  A list, a map or the arguments of a call have no comma at their end.
-/

set_option autoImplicit false

namespace Remediation

namespace Condition

namespace Expr

/-- The rest behind a sign at the front. -/
def sign? (s : String) : List Token → Option (List Token)
  | .sign t :: rest => if s = t then some rest else none
  | _ => none

/-- The operations of each level of precedence, from the loosest on. -/
def levels : List (List (String × Operation)) :=
  [[("||", .or)], [("&&", .and)],
    [("<", .less), ("<=", .lessOrEqual), (">", .greater), (">=", .greaterOrEqual), ("==", .equal),
      ("!=", .different), ("in", .within)],
    [("+", .add), ("-", .sub)], [("*", .mul), ("/", .div), ("%", .mod)]]

/-- The operation of a level at the front. -/
def operation? (level : List (String × Operation)) : List Token → Option (Operation × List Token)
  | .sign s :: rest => (lookupField level s).map fun op => (op, rest)
  | _ => none

mutual

/-- A condition at the front: a choice, of which neither the question nor the first answer is a
choice, or less. -/
def readChoice (fuel : Nat) (ts : List Token) : Option (Expr × List Token) :=
  match fuel with
  | 0 => none
  | fuel + 1 =>
    match readLevel fuel levels ts with
    | none => none
    | some (condition, rest) =>
      match sign? "?" rest with
      | none => some (condition, rest)
      | some rest =>
        match readLevel fuel levels rest with
        | none => none
        | some (yes, rest) =>
          match sign? ":" rest with
          | none => none
          | some rest =>
            (readChoice fuel rest).map fun (no, rest) => (.choice condition yes no, rest)

/-- A chain of operations of the first of some levels, on operands of the levels behind it. -/
def readLevel (fuel : Nat) (ls : List (List (String × Operation))) (ts : List Token) :
    Option (Expr × List Token) :=
  match fuel with
  | 0 => none
  | fuel + 1 =>
    match ls with
    | [] => readSigned fuel ts
    | level :: ls =>
      match readLevel fuel ls ts with
      | none => none
      | some (a, rest) => readChain fuel level ls a rest

/-- The rest of a chain behind its first operands. -/
def readChain (fuel : Nat) (level : List (String × Operation))
    (ls : List (List (String × Operation))) (a : Expr) (ts : List Token) :
    Option (Expr × List Token) :=
  match fuel with
  | 0 => none
  | fuel + 1 =>
    match operation? level ts with
    | none => some (a, ts)
    | some (op, rest) =>
      match readLevel fuel ls rest with
      | none => none
      | some (b, rest) => readChain fuel level ls (.binary op a b) rest

/-- An operand behind its signs. -/
def readSigned (fuel : Nat) (ts : List Token) : Option (Expr × List Token) :=
  match fuel with
  | 0 => none
  | fuel + 1 =>
    match ts with
    | .sign "!" :: rest => (readSigned fuel rest).map fun (a, rest) => (.not a, rest)
    | .sign "-" :: rest => (readSigned fuel rest).map fun (a, rest) => (.neg a, rest)
    | ts =>
      match readPrimary fuel ts with
      | none => none
      | some (a, rest) => readTail fuel a rest

/-- What follows a target. -/
def readTail (fuel : Nat) (target : Expr) (ts : List Token) : Option (Expr × List Token) :=
  match fuel with
  | 0 => none
  | fuel + 1 =>
    match ts with
    | .sign "." :: .word w :: .sign "(" :: rest =>
      match readItems fuel ")" rest with
      | none => none
      | some (args, rest) => readTail fuel (.method target w args) rest
    | .sign "." :: .word w :: rest => readTail fuel (.member target w) rest
    | .sign "[" :: rest =>
      match readChoice fuel rest with
      | none => none
      | some (position, rest) =>
        match sign? "]" rest with
        | none => none
        | some rest => readTail fuel (.index target position) rest
    | .sign "\x7b" :: rest =>
      match readFields fuel rest with
      | none => none
      | some (fields, rest) => readTail fuel (.record target fields) rest
    | ts => some (target, ts)

/-- An operand by itself. -/
def readPrimary (fuel : Nat) (ts : List Token) : Option (Expr × List Token) :=
  match fuel with
  | 0 => none
  | fuel + 1 =>
    match ts with
    | .literal a :: rest => some (.literal a, rest)
    | .sign "." :: .word w :: .sign "(" :: rest =>
      (readItems fuel ")" rest).map fun (args, rest) => (.rootName w args, rest)
    | .sign "." :: .word w :: rest => some (.rootName w [], rest)
    | .word w :: .sign "(" :: rest =>
      (readItems fuel ")" rest).map fun (args, rest) => (.call w args, rest)
    | .word w :: rest => some (.name w, rest)
    | .sign "(" :: rest =>
      match readChoice fuel rest with
      | none => none
      | some (a, rest) => (sign? ")" rest).map fun rest => (a, rest)
    | .sign "[" :: rest => (readItems fuel "]" rest).map fun (items, rest) => (.list items, rest)
    | .sign "\x7b" :: .sign "\x7d" :: rest => some (.map [], rest)
    | .sign "\x7b" :: rest =>
      (readEntries fuel rest).map fun (entries, rest) => (.map entries, rest)
    | _ => none

/-- Conditions between commas up to a closing sign. -/
def readItems (fuel : Nat) (close : String) (ts : List Token) : Option (List Expr × List Token) :=
  match fuel with
  | 0 => none
  | fuel + 1 =>
    match sign? close ts with
    | some rest => some ([], rest)
    | none => readMoreItems fuel close ts

/-- Conditions between commas, at least one. -/
def readMoreItems (fuel : Nat) (close : String) (ts : List Token) :
    Option (List Expr × List Token) :=
  match fuel with
  | 0 => none
  | fuel + 1 =>
    match readChoice fuel ts with
    | none => none
    | some (a, rest) =>
      match sign? close rest with
      | some rest => some ([a], rest)
      | none =>
        match sign? "," rest with
        | none => none
        | some rest => (readMoreItems fuel close rest).map fun (as, rest) => (a :: as, rest)

/-- The entries of a map, at least one, up to its closing brace. -/
def readEntries (fuel : Nat) (ts : List Token) : Option (List (Expr × Expr) × List Token) :=
  match fuel with
  | 0 => none
  | fuel + 1 =>
    match readChoice fuel ts with
    | none => none
    | some (k, rest) =>
      match sign? ":" rest with
      | none => none
      | some rest =>
        match readChoice fuel rest with
        | none => none
        | some (a, rest) =>
          match sign? "\x7d" rest with
          | some rest => some ([(k, a)], rest)
          | none =>
            match sign? "," rest with
            | none => none
            | some rest => (readEntries fuel rest).map fun (es, rest) => ((k, a) :: es, rest)

/-- The parts of a condition: those of a choice, or the condition itself. -/
def readParts (fuel : Nat) (ts : List Token) : Option (List Expr × List Token) :=
  match fuel with
  | 0 => none
  | fuel + 1 =>
    match readLevel fuel levels ts with
    | none => none
    | some (condition, rest) =>
      match sign? "?" rest with
      | none => some ([condition], rest)
      | some rest =>
        match readLevel fuel levels rest with
        | none => none
        | some (yes, rest) =>
          match sign? ":" rest with
          | none => none
          | some rest => (readChoice fuel rest).map fun (no, rest) => ([condition, yes, no], rest)

/-- The fields of a record up to its closing brace. -/
def readFields (fuel : Nat) (ts : List Token) :
    Option (List (String × List Expr) × List Token) :=
  match fuel with
  | 0 => none
  | fuel + 1 =>
    match ts with
    | .sign "\x7d" :: rest => some ([], rest)
    | .word w :: .sign ":" :: rest =>
      match readParts fuel rest with
      | none => none
      | some (parts, rest) =>
        match sign? "\x7d" rest with
        | some rest => some ([(w, parts)], rest)
        | none =>
          match sign? "," rest with
          | some (.word w' :: rest) =>
            (readFields fuel (.word w' :: rest)).map fun (fields, rest) => ((w, parts) :: fields, rest)
          | _ => none
    | _ => none

end

/-- The condition that a text spells. -/
def read? (s : String) : Option Expr :=
  match Token.ofText? s with
  | none => none
  | some ts =>
    match readChoice (16 * ts.length + 16) ts with
    | some (e, []) => some e
    | _ => none

end Expr

end Condition

end Remediation
