import Remediation.Action.Definition
import Remediation.Alias
import Remediation.Condition
import Remediation.Parameters
import Remediation.Rule
import Remediation.Step
/-!
# Expanding rules into steps

Rules whose conditions hold become steps.  A rule with an action becomes one step; a rule with steps
becomes what its children become, one after the other unless they say otherwise; a rule with a
reference becomes what the rules of that file become, with this rule's parameters written over
theirs.

The id of a step is made of the ids of the rules on the way down to it, and what a child says about
its siblings is meant within its scope.  Where all rules of a scope are expanded, dependencies on
siblings are resolved: a sibling stands for the steps that it became, or for what it depended on if
it became none.  Steps below a rule that depend on nothing inside of it depend on what the rule
depends on.

Expansion ends: a chain of references comes by no reference twice, and a library holds finitely many.
-/

set_option autoImplicit false

namespace Remediation

/-- Rule files by reference, as far as they can be read. -/
abbrev Library := List (String × Except Fault (List Rule))

namespace Library

/-- The references that have been looked up. -/
def references (lib : Library) : List String := lib.map Prod.fst

theorem mem_references_of_lookupField {lib : Library} {ref : String}
    {rules : Except Fault (List Rule)} (h : lookupField lib ref = some rules) :
    ref ∈ lib.references := by
  induction lib with
  | nil => simp [lookupField] at h
  | cons e lib ih =>
    obtain ⟨k, v⟩ := e
    simp only [lookupField] at h
    split at h
    next hk => simp [references, hk]
    next => exact List.mem_cons_of_mem _ (ih h)

end Library

namespace Expansion

/-- What rules are expanded against. -/
structure Setting where
  facts : Facts
  /-- The definition of an action. -/
  definition : String → Except Fault Action.Definition
  /-- The rule files, if references can be followed at all. -/
  library : Option Library

namespace Setting

/-- The references that can be followed. -/
def references (w : Setting) : List String :=
  match w.library with
  | some lib => lib.references
  | none => []

/-- The rules of a rule file; a file that the library does not have is absent. -/
def load (w : Setting) (rule ref : String) : Except Fault (List Rule) :=
  match w.library with
  | none => .error (.noRuleLoader rule ref)
  | some lib =>
    match lookupField lib ref with
    | some rules => rules
    | none => .error (.ruleFileUnread ref (.file (.absent ref)))

theorem mem_references_of_load {w : Setting} {rule ref : String} {rules : List Rule}
    (h : w.load rule ref = .ok rules) : ref ∈ w.references := by
  unfold load at h
  unfold references
  cases hl : w.library with
  | none => rw [hl] at h; cases h
  | some lib =>
    rw [hl] at h
    simp only at h ⊢
    split at h
    next found => exact Library.mem_references_of_lookupField found
    next => cases h

end Setting

/-- Where a rule stands: the id of what is above it, and the parameters that are written over its
own. -/
structure Frame where
  parent : String
  overrides : Fields
  deriving Inhabited

namespace Frame

/-- Where the rules stand that stand below nothing. -/
def root : Frame := ⟨"", []⟩

/-- An id within the frame. -/
def id (f : Frame) (child : String) : String :=
  if f.parent = "" ∨ child = "" then child else f.parent ++ "-" ++ child

/-- An output reference within the frame: what stands before its point is an id. -/
def reference (f : Frame) (ref : String) : String :=
  match Text.cut '.' ref with
  | (source, some output) => f.id source ++ "." ++ output
  | (_, none) => ref

/-- The parameters of a rule within the frame. -/
def parameters (f : Frame) (r : Rule) : Fields := overlay r.parameters f.overrides

end Frame

/-- Texts of two lists one behind the other, each once. -/
def mergeUnique (xs ys : List String) : List String := (xs ++ ys).foldl appendNew []

/-- A step that depends on what the rule above it depends on, unless it depends on a step inside. -/
def inherit (deps inner : List String) (s : Step) : Step :=
  if s.dependsOn.any (· ∈ inner) then s else { s with dependsOn := mergeUnique deps s.dependsOn }

/-- What the rules of a scope have become so far. -/
structure Progress where
  steps : List Step
  /-- What the ids of the rules stand for. -/
  aliases : Aliases
  deriving Inhabited

namespace Progress

/-- No rule has been expanded. -/
def start : Progress := ⟨[], []⟩

/-- The steps of a rule as its scope sees them. -/
def adopt (composite : Bool) (deps : List String) (steps : List Step) : List Step :=
  if composite ∧ !deps.isEmpty then steps.map (inherit deps (steps.map (·.id))) else steps

/-- Add the steps of a rule of some id. -/
def add (p : Progress) (id : String) (composite : Bool) (deps : List String) (steps : List Step) :
    Progress where
  steps := p.steps ++ adopt composite deps steps
  aliases :=
    if id = "" then p.aliases
    else setField p.aliases id (if steps.isEmpty then deps else steps.map (·.id))

/-- The steps of the scope, with the dependencies on siblings resolved. -/
def finish (p : Progress) : List Step :=
  p.steps.map fun s => { s with dependsOn := p.aliases.resolve s.dependsOn }

end Progress

/-- What a rule of a scope depends on: what it says, or else, among children that run one after the
other, the child before it. -/
def effectiveDeps (sequential : Bool) (previous : String) (r : Rule) : List String :=
  if sequential ∧ r.dependsOn = [] ∧ previous ≠ "" then [previous] else r.dependsOn

/-- Whether the condition of a rule holds. -/
def applies (w : Setting) (id : String) (r : Rule) : Except Fault Bool :=
  if Text.strip r.condition = "" then .ok true
  else
    match Condition.holds r.condition w.facts with
    | .ok b => .ok b
    | .error e => .error (if e.kind = .condition then .ruleCondition id e else e)

/-- The definition of the action of a rule. -/
def definitionOf (w : Setting) (id action : String) : Except Fault Action.Definition :=
  match w.definition action with
  | .ok d => .ok d
  | .error e => .error (if e.kind = .actionResolution then .ruleAction id e else e)

/-- Say that the names are missing in a rule. -/
def missingIn (id : String) : Fault → Fault
  | .missingParameters names _ => .missingParameters names (.rule id)
  | e => e

/-- The step of a rule with an action, and the actions that are planned then. -/
def leaf (w : Setting) (f : Frame) (deps : List String) (r : Rule) (planned : List String) :
    Except Fault (List Step) × List String :=
  let id := f.id r.id
  if r.once && decide (r.action ∈ planned) then (.ok [], planned)
  else if id = "" then (.error (.ruleWithoutId r.action), planned)
  else
    match definitionOf w id r.action with
    | .error e => (.error e, planned)
    | .ok definition =>
      match materialize w.facts definition.schema (f.parameters r) with
      | .error e => (.error (missingIn id e), planned)
      | .ok params =>
        let step : Step :=
          { id := id, action := r.action, params := params, reason := r.reason
            dependsOn := deps
            outputs := r.outputs
            outputRefs := r.outputRefs.map fun (param, ref) => (param, f.reference ref)
            status := .pending, error := none }
        (.ok [step], appendNew planned r.action)

mutual

/-- Expand a rule that depends on `deps`; `planned` are the actions that are planned already, and
`history` is the chain of references on the way down. -/
def rule (w : Setting) (history : List String) (f : Frame) (deps : List String) (r : Rule)
    (planned : List String) : Except Fault (List Step) × List String :=
  if _hc : r.reference ≠ "" ∧ r.reference ∈ history then
    (.error (.circularReference (history ++ [r.reference])), planned)
  else
    match applies w (f.id r.id) r with
    | .error e => (.error e, planned)
    | .ok false => (.ok [], planned)
    | .ok true =>
      if _hr : r.reference ≠ "" then
        match _hl : w.load (f.id r.id) r.reference with
        | .error e => (.error e, planned)
        | .ok rules =>
          scope w (history ++ [r.reference]) ⟨f.id r.id, f.parameters r⟩ false rules planned
      else if r.steps ≠ [] then
        scope w history ⟨f.id r.id, f.overrides⟩ true r.steps planned
      else if r.action = "" then (.error (.ruleWithoutBody (f.id r.id)), planned)
      else leaf w f deps r planned
termination_by (unseen w.references history, sizeOf r, 0)
decreasing_by
  · exact Prod.Lex.left _ _ (unseen_concat_lt (Setting.mem_references_of_load _hl)
      fun h => _hc ⟨_hr, h⟩)
  · refine Prod.Lex.right _ (Prod.Lex.left _ _ ?_)
    cases r
    simp only [Rule.mk.sizeOf_spec]
    omega

/-- Expand the rules of a scope and resolve the dependencies on siblings. -/
def scope (w : Setting) (history : List String) (f : Frame) (sequential : Bool) (rules : List Rule)
    (planned : List String) : Except Fault (List Step) × List String :=
  match each w history f sequential "" rules .start planned with
  | (.error e, planned) => (.error e, planned)
  | (.ok progress, planned) => (.ok progress.finish, planned)
termination_by (unseen w.references history, sizeOf rules, 2)

/-- Expand rules one after the other, behind the rule of id `previous`. -/
def each (w : Setting) (history : List String) (f : Frame) (sequential : Bool) (previous : String)
    (rules : List Rule) (progress : Progress) (planned : List String) :
    Except Fault Progress × List String :=
  match rules with
  | [] => (.ok progress, planned)
  | r :: rest =>
    let deps := (effectiveDeps sequential previous r).map f.id
    match rule w history f deps r planned with
    | (.error e, planned) => (.error e, planned)
    | (.ok steps, planned) =>
      each w history f sequential r.id rest (progress.add (f.id r.id) r.isComposite deps steps)
        planned
termination_by (unseen w.references history, sizeOf rules, 1)

end

/-- Expand the rules of a root rule file. -/
def run (w : Setting) (rules : List Rule) : Except Fault (List Step) :=
  (scope w [] .root false rules []).1

end Expansion

end Remediation
