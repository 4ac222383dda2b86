import Remediation.Condition.Stop
import Remediation.Problem
import Remediation.Json
import Remediation.Pattern.Fault
import Remediation.Text.Utf8
/-!
# Faults

Everything that can stop the work, by cause.  A fault that arises on the way out of another one
keeps it as its cause, and `Fault.message` words the chain from the outside inwards.

`Fault.kind` sorts faults by what they mean to a caller.  Faults of plans abort the building of a
plan, faults of execution are recorded on the step that failed, and the rest are faults of the data
or of the surroundings.  The texts that are refused by the readers of JSON, YAML and conditions are
not quoted again: their messages name the format between angle brackets.
-/

set_option autoImplicit false

namespace Remediation

/-- Why a file cannot be read or written. -/
inductive FileFault where
  | absent (path : String)
  | directory (path : String)
  | notDirectory (path : String)
  | nameTooLong (path : String)
  deriving DecidableEq, Repr, Inhabited

/-- Why a value cannot be taken as a list of pairs. -/
inductive PairFault where
  /-- A value of this type has no items. -/
  | noItems (type : String)
  /-- The item of this number is no sequence. -/
  | item (n : Nat)
  /-- The item of this number has this length, which is not two. -/
  | length (n length : Nat)
  /-- A key of this type cannot be a key. -/
  | key (type : String)
  deriving DecidableEq, Repr, Inhabited

/-- What an output of a step is asked for that cannot be given. -/
inductive ReferenceFault where
  /-- The reference is not of the form step, point, output. -/
  | form (reference : String)
  /-- The step has left no outputs. -/
  | step (step : String)
  /-- The step has left no output of this name. -/
  | output (output step : String)
  deriving DecidableEq, Repr, Inhabited

/-- How a command failed. -/
inductive CommandFault where
  /-- It could not be started. -/
  | launch (reason : String)
  /-- It ended with a status other than zero. -/
  | exit (program : String) (status : Int) (detail : String)
  deriving DecidableEq, Repr, Inhabited

/-- What a missing parameter is missing in. -/
inductive Whereabouts where
  | template (text : String)
  | parameter (name : String)
  | rule (id : String)
  deriving DecidableEq, Repr, Inhabited

/-- Everything that can stop the work. -/
inductive Fault where
  -- rules
  | ruleWithoutBody (rule : String)
  | ruleWithoutId (action : String)
  | noRuleLoader (rule reference : String)
  | circularReference (chain : List String)
  | ruleFileUnread (path : String) (cause : Fault)
  | ruleFileUnparsed (path : String) (cause : Fault)
  | ruleFileShape (path : String)
  | ruleFileInvalid (path : String) (invalid : Invalid)
  | ruleFileEmpty (path : String)
  -- conditions
  | conditionUnparsed (expression : String)
  | conditionFailed (expression : String)
  | conditionNotBoolean (expression type : String)
  | conditionNotTexts (expression type : String)
  | ruleCondition (rule : String) (cause : Fault)
  -- parameters
  | missingParameters (names : List String) (place : Whereabouts)
  -- actions
  | actionUnknown (name searched : String)
  | actionUnread (path : String) (cause : Fault)
  | actionShape (path : String)
  | actionInvalid (path : String) (invalid : Invalid)
  | actionType (type : String)
  | actionWithoutCommand (name : String)
  | actionUnresolved (name : String) (cause : Fault)
  | ruleAction (rule : String) (cause : Fault)
  -- plans
  | duplicateStep (id : String)
  | missingDependency (step dependency : String)
  | circularDependency (cycle : List String)
  | planWithoutSteps
  | stepWithoutId
  | stepWithoutAction (id : String)
  | planRefused (cause : Fault)
  | planUnread (path : String) (cause : Fault)
  | planInvalid (path : String) (invalid : Invalid)
  | noResolver (purpose : String)
  -- inputs
  | inputUnread (what path : String) (cause : Fault)
  | inputUnparsed (what path : String) (cause : Fault)
  | reportShape (path : String)
  | parametersShape (path : String)
  | inlineUnparsed (cause : Fault)
  | inlineShape
  | defaultsUnread (path : String) (cause : Fault)
  | defaultsShape (path : String)
  | answerMissing (name : String)
  -- execution
  | reference (fault : ReferenceFault) (step : String)
  | stepAction (action : String) (cause : Fault) (step : String)
  | stepFailed (cause : Fault) (step : String)
  | commandTemplate (action : String) (cause : Fault)
  | command (fault : CommandFault)
  | planFailed (succeeded failed total : Nat)
  -- data and surroundings
  | invalid (invalid : Invalid)
  | file (fault : FileFault)
  | repositoryAbsent (path : String)
  | undecodable (fault : Text.Utf8Fault)
  | zeroByte
  | json (fault : JsonFault)
  | yaml
  | toml
  | longInteger
  | longDigits (digits : Nat)
  | moment (fault : MomentFault)
  | badNumber (reader text : String)
  /-- A number is declared where there is no text. -/
  | noNumber
  /-- An escape names a code that no character has. -/
  | codePoint (code : Nat)
  | unknownWord (word : String)
  | noMatch (type name : String)
  | pairs (fault : PairFault)
  | unwritable (refusal : JsonRefusal)
  | overflow
  | factName (name : String)
  /-- The name of a fact is of this type and no text. -/
  | factNameType (type : String)
  /-- The evaluation of a condition has stopped. -/
  | stopped (stop : Condition.Stop)
  /-- Values of these types have no order. -/
  | notOrdered (left right : String)
  /-- These moments have no order. -/
  | momentOrder (left right : Moment)
  | notObject (name : String)
  | notArray (part : String)
  | outOfBounds (index : Nat)
  | patternAbsent (pattern : String)
  /-- A text spells no pattern. -/
  | pattern (fault : PatternFault) (text : String)
  /-- A value is no pattern. -/
  | wrongPattern (reason : String)
  | cyclicGraph
  | creator (action : String)
  | raised (text : String)
  | interrupted
  deriving Inhabited

/-- What a fault means to a caller. -/
inductive FaultKind where
  | ruleStructure
  | circularReference
  | circularDependency
  | missingParameter
  | missingDependency
  | duplicateStep
  | actionResolution
  | condition
  | plan
  | outputReference
  | stepExecution
  | planExecution
  | validation
  | fileAbsent
  | fileIsDirectory
  | fileNotDirectory
  | fileOther
  | undecodable
  | json
  | yaml
  | toml
  | value
  | type
  | key
  | index
  | overflow
  | attribute
  | pattern
  | graph
  | assertion
  | runtime
  | interrupt
  deriving DecidableEq, Repr, Inhabited

namespace FaultKind

/-- Faults that abort the building of a plan. -/
def isPlan : FaultKind → Bool
  | .ruleStructure | .circularReference | .circularDependency | .missingParameter
  | .missingDependency | .duplicateStep | .actionResolution | .condition | .plan => true
  | _ => false

/-- Faults that are recorded on a step. -/
def isExecution : FaultKind → Bool
  | .outputReference | .stepExecution | .planExecution => true
  | _ => false

/-- Faults of reaching a file. -/
def isFile : FaultKind → Bool
  | .fileAbsent | .fileIsDirectory | .fileNotDirectory | .fileOther => true
  | _ => false

/-- Faults of a value, which include those of plans and of texts that cannot be read. -/
def isValue (k : FaultKind) : Bool :=
  k.isPlan || match k with
    | .validation | .undecodable | .json | .value => true
    | _ => false

end FaultKind

/-- What a stop of a condition means. -/
def Condition.Stop.Category.kind : Condition.Stop.Category → FaultKind
  | .failure => .condition
  | .type => .type
  | .value => .value
  | .key => .key
  | .index => .index
  | .overflow => .overflow
  | .attribute => .attribute
  | .assertion => .assertion

/-- What a fault of a file means. -/
def FileFault.kind : FileFault → FaultKind
  | .absent _ => .fileAbsent
  | .directory _ => .fileIsDirectory
  | .notDirectory _ => .fileNotDirectory
  | .nameTooLong _ => .fileOther

/-- The wording of a fault of a file. -/
def FileFault.message : FileFault → String
  | .absent path => s!"[Errno 2] No such file or directory: {Text.quote path}"
  | .directory path => s!"[Errno 21] Is a directory: {Text.quote path}"
  | .notDirectory path => s!"[Errno 20] Not a directory: {Text.quote path}"
  | .nameTooLong path => s!"[Errno 36] File name too long: {Text.quote path}"

/-- The wording of a fault of a list of pairs. -/
def PairFault.message : PairFault → String
  | .noItems type => s!"object of type '{type}' has no len()"
  | .item n =>
    s!"cannot convert dictionary update sequence element #{Decimal.intText n} to a sequence"
  | .length n found =>
    s!"dictionary update sequence element #{Decimal.intText n} has length {Decimal.intText found}; 2 is required"
  | .key type => s!"unhashable type: '{type}'"

/-- The wording of a fault of an output reference. -/
def ReferenceFault.message : ReferenceFault → String
  | .form ref => s!"invalid output reference format: {ref}"
  | .step id => s!"referenced step {id} not found or has not completed successfully"
  | .output name id => s!"output {name} not found in step {id}"

/-- The wording of a fault of a command. -/
def CommandFault.message : CommandFault → String
  | .launch reason => s!"command execution failed: {reason}"
  | .exit program status detail =>
    s!"command execution failed: {program} exited with status {Decimal.intText status}: {detail}"

/-- The wording of where a parameter is missing. -/
def Whereabouts.text : Whereabouts → String
  | .template text => Text.quote text
  | .parameter name => s!"parameter '{name}'"
  | .rule id => s!"rule '{id}'"

/-- The wording of numbers that are no moment. -/
def MomentFault.message : MomentFault → String
  | .year given => s!"year {Decimal.intText given} is out of range"
  | .month => "month must be in 1..12"
  | .day => "day is out of range for month"
  | .hour => "hour must be in 0..23"
  | .minute => "minute must be in 0..59"
  | .second => "second must be in 0..59"
  | .offset seconds =>
    s!"offset must be a timedelta strictly between -timedelta(hours=24) and timedelta(hours=24), not {Moment.durationText seconds}."

/-- Why bytes are no text. -/
def utf8Reason : Text.Utf8Reason → String
  | .badStart => "invalid start byte"
  | .badContinuation => "invalid continuation byte"
  | .truncated => "unexpected end of data"

/-- The wording of bytes that are no text. -/
def utf8Message (f : Text.Utf8Fault) : String :=
  let first := Decimal.intText f.position
  let place :=
    if f.length = 1 then
      s!"byte 0x{String.ofList (Text.hexDigits 2 f.byte.toNat)} in position {first}"
    else
      s!"bytes in position {first}-{Decimal.intText (f.position + f.length - 1)}"
  s!"'utf-8' codec can't decode {place}: {utf8Reason f.reason}"

/-- The wording of an integer that is too long to be read. -/
def longDigitsMessage (digits : Nat) : String :=
  s!"Exceeds the limit ({Decimal.intText Decimal.digitLimit} digits) for integer string conversion: value has {Decimal.intText digits} digits; use sys.set_int_max_str_digits() to increase the limit"

/-- The wording of an integer that is too long to be written. -/
def longIntegerMessage : String :=
  s!"Exceeds the limit ({Decimal.intText Decimal.digitLimit} digits) for integer string conversion; use sys.set_int_max_str_digits() to increase the limit"

/-- The wording of moments that have no order. -/
def momentOrderMessage (left right : Moment) : String :=
  match left, right with
  | .dateTime .., .dateTime .. => "can't compare offset-naive and offset-aware datetimes"
  | _, _ => "can't compare datetime.datetime to datetime.date"

/-- The wording of data that has no JSON form. -/
def JsonRefusal.message : JsonRefusal → String
  | .longInteger => longIntegerMessage
  | .key k =>
    let type := (Value.scalar k).typeName
    let name := ((Text.split '.' type).getLast?).getD type
    s!"keys must be str, int, float, bool or None, not {name}"
  | .value v =>
    let name := ((Text.split '.' v.typeName).getLast?).getD v.typeName
    s!"Object of type {name} is not JSON serializable"

namespace Fault

/-- What a fault means to a caller. -/
def kind : Fault → FaultKind
  | ruleWithoutBody _ | ruleWithoutId _ | noRuleLoader .. | ruleFileUnread .. | ruleFileUnparsed ..
  | ruleFileShape _ | ruleFileInvalid .. | ruleFileEmpty _ => .ruleStructure
  | circularReference _ => .circularReference
  | conditionUnparsed _ | conditionFailed _ | conditionNotBoolean .. | conditionNotTexts ..
  | ruleCondition .. => .condition
  | missingParameters .. => .missingParameter
  | actionUnknown .. | actionUnread .. | actionShape _ | actionInvalid .. | actionType _
  | actionWithoutCommand _ | actionUnresolved .. | ruleAction .. => .actionResolution
  | duplicateStep _ => .duplicateStep
  | missingDependency .. => .missingDependency
  | circularDependency _ => .circularDependency
  | planWithoutSteps | stepWithoutId | stepWithoutAction _ | planRefused _ | planUnread ..
  | planInvalid .. | noResolver _ | inputUnread .. | inputUnparsed .. | reportShape _
  | parametersShape _ | inlineUnparsed _ | inlineShape | defaultsUnread .. | defaultsShape _
  | answerMissing _ => .plan
  | reference .. => .outputReference
  | stepAction .. | stepFailed .. | commandTemplate .. | command _ => .stepExecution
  | planFailed .. => .planExecution
  | invalid _ => .validation
  | file f => f.kind
  | repositoryAbsent _ => .fileAbsent
  | undecodable _ => .undecodable
  | json (.longInteger _) => .value
  | json .malformed => .json
  | yaml => .yaml
  | toml => .toml
  | zeroByte | longInteger | longDigits _ | moment _ | badNumber .. | overflow | factName _
  | notObject _ | notArray _ | outOfBounds _ | patternAbsent _ => .value
  | noNumber => .index
  | codePoint code => if code < 0x80000000 then .value else .overflow
  | unknownWord _ => .key
  | noMatch .. => .attribute
  | pairs (.length ..) => .value
  | pairs _ => .type
  | unwritable .longInteger => .value
  | unwritable _ => .type
  | notOrdered .. | momentOrder .. | factNameType _ => .type
  | stopped stop => stop.category.kind
  | pattern f _ => if f.problem = .repeatSize then .overflow else .pattern
  | wrongPattern _ => .type
  | cyclicGraph => .graph
  | creator _ => .type
  | raised _ => .runtime
  | interrupted => .interrupt

/-- The wording of a fault. -/
def message : Fault → String
  | ruleWithoutBody rule => s!"rule '{rule}' has no action, steps, or rule reference"
  | ruleWithoutId action => s!"rule for action '{action}' has no id"
  | noRuleLoader rule ref => s!"rule '{rule}' references '{ref}' but no rule loader is configured"
  | circularReference chain => "circular rule reference detected: " ++ Text.join " -> " chain
  | ruleFileUnread path cause => s!"error reading mapping file {path}: {cause.message}"
  | ruleFileUnparsed path cause => s!"error parsing mapping file {path}: {cause.message}"
  | ruleFileShape path => s!"mapping file {path} must contain a 'mappings' list"
  | ruleFileInvalid path i => s!"invalid mapping file {path}: {i.message}"
  | ruleFileEmpty path => s!"mapping file {path} contains no rules"
  | conditionUnparsed expression => s!"error parsing expression {Text.quote expression}: <cel>"
  | conditionFailed expression => s!"error evaluating expression {Text.quote expression}: <cel>"
  | conditionNotBoolean expression type =>
    s!"expression {Text.quote expression} did not evaluate to a boolean (got {type})"
  | conditionNotTexts expression type =>
    s!"expression {Text.quote expression} did not evaluate to a string array or string, got: {type}"
  | ruleCondition rule cause => s!"error evaluating rule {rule}: {cause.message}"
  | missingParameters names place =>
    "missing parameter value(s): " ++ Text.join ", " names ++ " in " ++ place.text
  | actionUnknown name searched =>
    s!"action '{name}' not found in any configured location: {searched}"
  | actionUnread path cause => s!"error reading action file {path}: {cause.message}"
  | actionShape path => s!"action file {path} must contain a mapping"
  | actionInvalid path i => s!"invalid action file {path}: {i.message}"
  | actionType type => s!"unknown action type: {Text.quote type}"
  | actionWithoutCommand name => s!"command is required for CLI action '{name}'"
  | actionUnresolved name cause => s!"could not resolve action '{name}': {cause.message}"
  | ruleAction rule cause => s!"error getting action config for rule {rule}: {cause.message}"
  | duplicateStep id => s!"duplicate step ID: {id}"
  | missingDependency step dependency =>
    s!"step '{step}' depends on non-existent step '{dependency}'"
  | circularDependency cycle => "circular dependency: " ++ Text.join " -> " cycle
  | planWithoutSteps => "plan contains no steps"
  | stepWithoutId => "step has empty ID"
  | stepWithoutAction id => s!"step '{id}' has empty action name"
  | planRefused cause => s!"invalid plan: {cause.message}"
  | planUnread path cause => s!"error reading plan file {path}: {cause.message}"
  | planInvalid path i => s!"error parsing plan JSON {path}: {i.message}"
  | noResolver purpose => s!"an action resolver is required to {purpose} a plan"
  | inputUnread what path cause => s!"error reading {what} file {path}: {cause.message}"
  | inputUnparsed what path cause =>
    s!"error parsing {what} file {path} (tried JSON and YAML): {cause.message}"
  | reportShape path => s!"report {path} must contain a mapping of findings"
  | parametersShape path => s!"parameters file {path} must contain a mapping"
  | inlineUnparsed cause => s!"error parsing JSON parameters: {cause.message}"
  | inlineShape => "JSON parameters must be an object"
  | defaultsUnread path cause => s!"error loading default parameters from {path}: {cause.message}"
  | defaultsShape path => s!"default parameters file {path} must contain a mapping"
  | answerMissing name => s!"error reading input for parameter '{name}'"
  | reference f _ => f.message
  | stepAction action cause _ => s!"error resolving action '{action}': {cause.message}"
  | stepFailed cause _ => s!"execution failed: {cause.message}"
  | commandTemplate action cause => s!"action '{action}': {cause.message}"
  | command f => f.message
  | planFailed _ failed total =>
    s!"{Decimal.intText failed} of {Decimal.intText total} steps failed during execution"
  | invalid i => i.message
  | file f => f.message
  | repositoryAbsent path => s!"repository path does not exist: {path}"
  | undecodable f => utf8Message f
  | zeroByte => "embedded null byte"
  | json .malformed => "<json>"
  | json (.longInteger digits) => longDigitsMessage digits
  | yaml => "<yaml>"
  | toml => "<toml>"
  | longInteger => longIntegerMessage
  | longDigits digits => longDigitsMessage digits
  | moment f => f.message
  | badNumber reader text => s!"{reader}: {Text.quote text}"
  | noNumber => "string index out of range"
  | codePoint code =>
    if code < 0x80000000 then "chr() arg not in range(0x110000)"
    else "Python int too large to convert to C int"
  | unknownWord word => Text.quote word
  | noMatch type name => s!"'{type}' object has no attribute '{name}'"
  | pairs f => f.message
  | unwritable r => r.message
  | overflow => "overflow"
  | factName name => s!"Invalid name {name}"
  | factNameType type => s!"expected string or bytes-like object, got '{type}'"
  | stopped stop => stop.message
  | notOrdered left right =>
    s!"'<' not supported between instances of '{left}' and '{right}'"
  | momentOrder left right => momentOrderMessage left right
  | notObject name => s!"not an object at path: {name}"
  | notArray part => s!"not an array at path: {part}"
  | outOfBounds index => s!"array index out of bounds: {Decimal.intText index}"
  | patternAbsent sought => s!"no matches found for pattern: {sought}"
  | pattern f text => f.message text
  | wrongPattern reason => reason
  | cyclicGraph => "Graph contains a cycle or graph changed during iteration"
  | creator action => s!"bad creator for {action}"
  | raised wording => wording
  | interrupted => ""

end Fault

end Remediation
