import Remediation.Condition.Macro
/-!
# Evaluating conditions

An expression evaluates to an operand or stops.  Parts are evaluated from the left to the right,
and all of them, apart from the arms of a choice; a failure of one of them is an operand for the
operation around it, and a stop ends the evaluation.

Two nodes turn stops within them into a failure: a choice if they are about types, and a map if they
are about types or values.
-/

set_option autoImplicit false

namespace Remediation

namespace Condition

/-- The operands that names stand for. -/
abbrev Scope := List (String × Operand)

namespace Scope

/-- Let a name stand for an operand, unless dotted names start with it. -/
def bind (scope : Scope) (name : String) (a : Operand) : Scope :=
  match lookupField scope name with
  | some (.names _) => scope
  | _ => setField scope name a

/-- Let the name that a macro binds stand for an operand; there has to be one. -/
def bind? (scope : Scope) (name : Option String) (a : Operand) : Except Stop Scope :=
  match name with
  | some name => .ok (scope.bind name a)
  | none => .error .unnamed

/-- What a name stands for: a fact, or else a function or a type. -/
def find (scope : Scope) (name : String) : Operand :=
  ((lookupField scope name).or (builtin? name)).getD (.failure (.undeclared name))

end Scope

/-! ## Maps and records -/

/-- The map of keys and values, which may be failures.  The keys have to be keys, and none of them
may stand twice. -/
def mapOfParts (before : List (Operand × Operand)) : List (Operand × Operand) → Operand
  | [] => .map before
  | (k, a) :: rest =>
    match k, Operand.under? before k with
    | .failure cause, _ => .failure cause
    | k, .ok none => mapOfParts (before ++ [(k, a)]) rest
    | k, _ => Operand.unsuited "\x7b\x7d" [k]

/-- A field of a record behind others of different names. -/
def addField (before : List (String × Operand)) (name : String) (a : Operand) :
    Except Stop (List (String × Operand)) :=
  if (lookupField before name).isSome then .error (.fieldTwice name)
  else .ok (before ++ [(name, a)])

/-- The record of fields, or null if there are none. -/
def recordOf (fields : List (String × Operand)) : Except Stop Operand :=
  if fields.isEmpty then .ok .null
  else if (lookupField fields "self").isSome then .error .fieldTaken
  else .ok (.record (fields.map fun (name, a) => (.text name, a)))

/-- Make an operand of a type or a function and a record. -/
def fillRecord (target record : Operand) : Outcome :=
  let made : Except Stop (Option Operand) :=
    match target with
    | .kind k => Operand.convert k [record]
    | .function name =>
      if timeFunctions.contains name then .error (.noPart record.kindOf.name name)
      else applyFunction name [record]
    | _ => .ok none
  match target, made with
  | .failure cause, _ => Outcome.failure cause
  | target, .ok a => Outcome.ofResult "\x7b\x7d" [target, record] a
  | _, .error stop => Outcome.contain [.type, .value] (.error stop)

/-! ## Expressions -/

/-- The outcome of a choice for its condition: what is none fails, after the arm that it stands for. -/
def chooseArm (condition arm : Operand) : Operand :=
  match condition with
  | .bool _ => arm
  | condition => Operand.unsuited "?:" [condition]

mutual

/-- Evaluate an expression. -/
def eval (scope : Scope) (e : Expr) : Outcome :=
  match e with
  | .literal a => a
  | .name name => .ok (scope.find name)
  | .rootName name args => (evalAll scope args).map fun _ => scope.find name
  | .call f args =>
    match evalAll scope args with
    | .error stop => .error stop
    | .ok as =>
      if f = "has" ∨ f = "dyn" then
        match as with
        | [] => .error .noArguments
        | a :: _ => .ok (if f = "has" then .ofBool a.cause?.isNone else a)
      else callFunction f as
  | .method target f args =>
    match eval scope target with
    | .error stop => .error stop
    | .ok a =>
      match Macro.ofName? f with
      | none =>
        match evalAll scope args with
        | .error stop => .error stop
        | .ok as => callFunction f (a :: as)
      | some m => evalMacro scope m a args
  | .member target name =>
    match eval scope target with
    | .error stop => .error stop
    | .ok (.failure cause) => Outcome.failure cause
    | .ok a => (a.member? name).map fun b => b.getD (.failure (.noMember name))
  | .index target position =>
    match eval scope target with
    | .error stop => .error stop
    | .ok a =>
      (eval scope position).bind fun i =>
        Outcome.unlessFailed [a, i] (Outcome.ofResult "[]" [a, i] (a.at? i))
  | .record target fields =>
    match eval scope target with
    | .error stop => .error stop
    | .ok a =>
      ((evalFields scope [] fields).bind recordOf).bind (fillRecord a)
  | .list items =>
    (evalAll scope items).bind fun as => Outcome.unlessFailed as (.ok (.list as))
  | .map entries =>
    Outcome.contain [.type, .value] ((evalEntries scope entries).map (mapOfParts []))
  | .not a => (eval scope a).map Operand.negation
  | .neg a =>
    (eval scope a).bind fun a => Outcome.unlessFailed [a] (Outcome.ofResult "-" [a] a.neg)
  | .binary op a b =>
    match eval scope a with
    | .error stop => .error stop
    | .ok a => (eval scope b).bind (op.apply a)
  | .choice condition yes no =>
    match eval scope condition with
    | .error stop => .error stop
    | .ok c =>
      Outcome.contain [.type]
        ((if c.isSomething then eval scope yes else eval scope no).map (chooseArm c))

/-- Go through the parts of an operand. -/
def evalMacro (scope : Scope) (m : Macro) (a : Operand) (args : List Expr) : Outcome :=
  match a, m with
  | .failure cause, _ => Outcome.failure cause
  | a, .least => Macro.leastPart a
  | a, .reduce =>
    match args with
    | [] => .error .noArguments
    | [sum, x, first, body] =>
      match eval scope first with
      | .error stop => .error stop
      | .ok first =>
        match a.parts? with
        | none => .error .notReducible
        | some parts =>
          Macro.reduceOver (fun before part =>
            match (scope.bind? (sum.lastName? none) before).bind fun scope =>
              scope.bind? (x.lastName? none) part with
            | .error stop => .error stop
            | .ok scope => eval scope body) first parts
    | args => .error (.arguments m.arity args.length)
  | a, m =>
    match args with
    | [] => .error .noArguments
    | [x, body] =>
      match Macro.partsOf a with
      | .error stop => .error stop
      | .ok parts =>
        m.apply (fun part =>
          match scope.bind? (x.lastName? none) part with
          | .error stop => .error stop
          | .ok scope => eval scope body) parts
    | args => .error (.arguments m.arity args.length)

/-- Evaluate expressions in order. -/
def evalAll (scope : Scope) (es : List Expr) : Except Stop (List Operand) :=
  match es with
  | [] => .ok []
  | e :: es =>
    match eval scope e with
    | .error stop => .error stop
    | .ok a => (evalAll scope es).map (a :: ·)

/-- Evaluate keys and values in order. -/
def evalEntries (scope : Scope) (es : List (Expr × Expr)) :
    Except Stop (List (Operand × Operand)) :=
  match es with
  | [] => .ok []
  | (k, e) :: es =>
    match eval scope k with
    | .error stop => .error stop
    | .ok k =>
      match eval scope e with
      | .error stop => .error stop
      | .ok a => (evalEntries scope es).map ((k, a) :: ·)

/-- Evaluate the fields of a record in order, behind those before; the first part of each counts. -/
def evalFields (scope : Scope) (before : List (String × Operand))
    (fields : List (String × List Expr)) : Except Stop (List (String × Operand)) :=
  match fields with
  | [] => .ok before
  | (name, parts) :: fields =>
    match evalAll scope parts with
    | .error stop => .error stop
    | .ok as =>
      match addField before name (as.headD .null) with
      | .error stop => .error stop
      | .ok before => evalFields scope before fields

end

end Condition

end Remediation
