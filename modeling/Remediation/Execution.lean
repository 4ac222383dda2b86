import Remediation.Execution.Options
import Remediation.Plan
import Remediation.Session
import Remediation.Substitution
/-!
# Running plans

The steps of a plan run one at a time, in order.  A step takes the outputs that it refers to, is
carried out, and ends in success or failure; it leaves its outputs for the steps behind it.  A dry run
says what would be done instead of doing it.  A failure stops the run, unless the options say to go
on; then the run fails at its end.

What carries out an action, prints and reports is a `Backend`; the rest is a function of plan, options
and outputs.
-/

set_option autoImplicit false

namespace Remediation

/-- How carrying out an action ends. -/
inductive Attempt where
  /-- There is no such action. -/
  | unresolved (cause : Fault)
  | failed (cause : Fault)
  /-- It is done, with what it captured. -/
  | done (captured : Option Fields)
  deriving Inhabited

/-- What a run acts on. -/
structure Backend (σ : Type) where
  /-- Carry out an action. -/
  perform : String → Fields → σ → Attempt × σ
  /-- Print a line. -/
  printLine : String → σ → σ
  /-- Report something. -/
  report : Level → String → σ → σ

namespace Execution

/-- The outputs that steps have left, by step. -/
abbrev Outputs := List (String × Fields)

/-- Step and output of a reference, which have a single point between them. -/
def readReference? (ref : String) : Option (String × String) :=
  match Text.split '.' ref with
  | [source, output] => if source = "" ∨ output = "" then none else some (source, output)
  | _ => none

/-- The output that a reference means. -/
def resolve (table : Outputs) (ref : String) : Except ReferenceFault Value :=
  match readReference? ref with
  | none => .error (.form ref)
  | some (source, output) =>
    match lookupField table source with
    | none => .error (.step source)
    | some fields =>
      match lookupField fields output with
      | none => .error (.output output source)
      | some v => .ok v

/-- Parameters with the outputs that references mean, up to the first reference that means none. -/
def fill (table : Outputs) (params : Fields) :
    List (String × String) → Fields × Option ReferenceFault
  | [] => (params, none)
  | (param, ref) :: refs =>
    match resolve table ref with
    | .error e => (params, some e)
    | .ok v => fill table (setField params param v) refs

/-- A step with the outputs that it refers to. -/
def takeReferences (table : Outputs) (s : Step) : Step × Except Fault Unit :=
  match fill table s.params s.outputRefs with
  | (params, none) => ({ s with params := params }, .ok ())
  | (params, some e) => ({ s with params := params }, .error (.reference e s.id))

/-- The convention of JSON on the screen: what has no form is shown as a text. -/
def screenConvention : Convention :=
  { plainConvention with other := fun v => if v.isShowable then some (.text v.shown) else none }

/-- Fields on the screen. -/
def screenText (fields : Fields) : Except Fault String :=
  match (Value.ofFields fields).toJson screenConvention with
  | .ok j => .ok (j.render Json.blockStyle)
  | .error (.value _) => .error .longInteger
  | .error r => .error (.unwritable r)

/-- The outputs that a step leaves. -/
def leave (table : Outputs) (s : Step) : Outputs :=
  match s.outputs with
  | some outputs => setField table s.id outputs
  | none => table

/-- What has become of a step. -/
structure Stage (σ : Type) where
  step : Step
  outputs : Outputs
  result : Except Fault Unit
  state : σ

variable {σ : Type} (b : Backend σ) (o : RunOptions)

/-- Print lines. -/
def printLines (lines : List String) (state : σ) : σ :=
  lines.foldl (fun state line => b.printLine line state) state

/-- A step that has failed. -/
def fail (s : Step) (table : Outputs) (e : Fault) (state : σ) : Stage σ :=
  ⟨{ s with status := .failure, error := some e.message }, table, .error e,
    b.report .error s!"Step {s.id} failed: {e.message}" state⟩

/-- Say what a step would do. -/
def pretend (s : Step) (table : Outputs) (state : σ) : Stage σ :=
  match screenText s.params with
  | .error e => ⟨s, table, .error e, state⟩
  | .ok params =>
    let lines := s!"  Would execute action '{s.action}' with parameters:" ::
      (Text.lines params).map ("    " ++ ·)
    let s := { s with status := Status.success }
    ⟨s, leave table s, .ok (), printLines b lines state⟩

/-- A step with the outputs that its action captured, if it captured any. -/
def adopt (captured : Option Fields) (s : Step) : Step :=
  match captured with
  | some (f :: fs) => { s with outputs := some (f :: fs) }
  | _ => s

/-- Say that a step is done, with the outputs that it has left, if there are any. -/
def announce (table : Outputs) (s : Step) (state : σ) : Except Fault Unit × σ :=
  match o.verbose, lookupField table s.id with
  | true, some (f :: fs) =>
    let state := b.printLine "Step completed successfully" state
    match screenText (f :: fs) with
    | .ok outputs => (.ok (), b.printLine s!"  Outputs: {outputs}" state)
    | .error e => (.error e, state)
  | _, _ => (.ok (), state)

/-- A step whose action is done. -/
def succeed (s : Step) (table : Outputs) (captured : Option Fields) (state : σ) : Stage σ :=
  let s := adopt captured { s with status := .success }
  let table := leave table s
  let (result, state) := announce b o table s state
  ⟨s, table, result, state⟩

/-- Carry out the action of a step. -/
def carryOut (s : Step) (table : Outputs) (state : σ) : Stage σ :=
  match b.perform s.action s.params state with
  | (.unresolved e, state) => fail b s table (.stepAction s.action e s.id) state
  | (.failed e, state) => fail b s table (.stepFailed e s.id) state
  | (.done captured, state) => succeed b o s table captured state

/-- Run a step. -/
def step (s : Step) (table : Outputs) (state : σ) : Stage σ :=
  let s := { s with status := Status.running }
  let state :=
    if o.verbose then
      printLines b [s!"Executing step: {s.id} (Action: {s.action})", s!"Reason: {s.reason}"] state
    else state
  match takeReferences table s with
  | (s, .error e) => fail b s table e state
  | (s, .ok _) => if o.dryRun then pretend b s table state else carryOut b o s table state

/-- How many steps have ended well and badly. -/
structure Summary where
  succeeded : Nat
  failed : Nat
  total : Nat
  deriving DecidableEq, Repr, Inhabited

/-- What has become of steps. -/
structure Outcome (σ : Type) where
  steps : List Step
  outputs : Outputs
  result : Except Fault Summary
  state : σ

/-- How far a run has come. -/
structure Progress where
  /-- The number of the next step. -/
  position : Nat
  total : Nat
  succeeded : Nat
  /-- The steps that have failed. -/
  failures : List String
  deriving DecidableEq, Repr, Inhabited

namespace Progress

/-- No step has run. -/
def start (total : Nat) : Progress := ⟨1, total, 0, []⟩

/-- A step has ended well. -/
def succeed (p : Progress) : Progress :=
  { p with position := p.position + 1, succeeded := p.succeeded + 1 }

/-- A step has failed. -/
def fail (p : Progress) (id : String) : Progress :=
  { p with position := p.position + 1, failures := p.failures ++ [id] }

/-- The numbers of steps. -/
def summary (p : Progress) : Summary := ⟨p.succeeded, p.failures.length, p.total⟩

end Progress

/-- Sum up a run: it has failed if a step has. -/
def conclude (p : Progress) (state : σ) : Except Fault Summary × σ :=
  let m := p.summary
  let number := Decimal.natDigits
  let text (n : Nat) := String.ofList (number n)
  let state := printLines b ["", s!"Execution summary: {text m.succeeded} successful, {text m.failed} failed (out of {text m.total} total steps)"] state
  if p.failures.isEmpty then (.ok m, state)
  else (.error (.planFailed m.succeeded m.failed m.total),
    b.report .warning ("Failed steps: " ++ Text.join ", " p.failures) state)

/-- Run steps, one after the other. -/
def runSteps (p : Progress) (table : Outputs) (state : σ) : List Step → Outcome σ
  | [] =>
    let (result, state) := conclude b p state
    ⟨[], table, result, state⟩
  | s :: rest =>
    let number (n : Nat) := String.ofList (Decimal.natDigits n)
    let state := b.printLine s!"Executing step {number p.position}/{number p.total}: {s.id}" state
    let stage := step b o s table state
    let goOn (p : Progress) : Outcome σ :=
      let behind := runSteps p stage.outputs stage.state rest
      { behind with steps := stage.step :: behind.steps }
    match stage.result with
    | .ok _ => goOn p.succeed
    | .error e =>
      if e.kind.isExecution ∧ o.continueOnError then goOn (p.fail s.id)
      else ⟨stage.step :: rest, stage.outputs, .error e, stage.state⟩

/-- Run a list of steps. -/
def run (steps : List Step) (table : Outputs) (state : σ) : Outcome σ :=
  runSteps b o (.start steps.length) table state steps

end Execution

end Remediation
