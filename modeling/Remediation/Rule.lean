import Remediation.Checked
/-!
# Rules

A rule proposes work where its condition holds: an action, rules of its own (its steps), or the rules
of another rule file.  Rules are read from documents by `Rule.check`, rule files by `RuleFile.check`.
-/

set_option autoImplicit false

namespace Remediation

/-- A rule. -/
structure Rule where
  /-- Unique among its siblings. -/
  id : String
  /-- When the rule applies; a blank condition always holds. -/
  condition : String
  /-- The rule file whose rules stand for this rule, if any. -/
  reference : String
  /-- The action of a rule without steps and reference. -/
  action : String
  /-- Why the work is proposed. -/
  reason : String
  labels : List (String × List String)
  parameters : Fields
  /-- The siblings that come first. -/
  dependsOn : List String
  /-- Whether the action is planned at most once. -/
  once : Bool
  /-- The rules below this one, which run one after the other. -/
  steps : List Rule
  /-- The outputs of siblings that parameters are taken from, as sibling, point, output. -/
  outputRefs : List (String × String)
  /-- The outputs that are known beforehand. -/
  outputs : Option Fields
  deriving Inhabited, BEq

namespace Rule

/-- Whether a rule stands for other rules. -/
def isComposite (r : Rule) : Bool := r.reference != "" || !r.steps.isEmpty

/-- The rule of a record whose steps have been checked. -/
def ofRecord (es : List (Scalar × Value)) (steps : Checked (List Rule)) : Checked Rule :=
  let text (spellings : List String) := Checked.field es spellings "" Checked.text
  Checked.apply (.apply (.apply (.apply (.apply (.apply (.apply (.apply (.apply (.apply (.apply
    ((text ["id"]).map Rule.mk)
    (text ["condition"]))
    (text ["ruleRef", "rule_ref", "mappingRef", "mapping_ref"]))
    (text ["action"]))
    (text ["reason"]))
    (Checked.field es ["labels"] [] (Checked.table (Checked.list Checked.text))))
    (Checked.field es ["parameters"] [] Checked.fields))
    (Checked.field es ["dependsOn", "depends_on"] [] (Checked.list Checked.text)))
    (Checked.field es ["once"] false Checked.truth))
    steps)
    (Checked.field es ["outputRefs", "output_refs"] [] (Checked.table Checked.text)))
    (Checked.field es ["outputs"] none (Checked.optional Checked.fields))

mutual

/-- The rule that a value holds. -/
def check (v : Value) : Checked Rule :=
  match v with
  | .map es =>
    ofRecord es <|
      match _h : Checked.spelled? es ["steps"] with
      | some (name, .list vs) => (checkItems 0 vs).inside (.field name)
      | some (name, w) => (Checked.list (fun _ => .fail .notRecord) w).inside (.field name)
      | none => .ok []
  | _ => .fail .notRecord
termination_by sizeOf v
decreasing_by
  have := Checked.sizeOf_spelled?_lt _h
  simp only [Value.list.sizeOf_spec] at this
  simp only [Value.map.sizeOf_spec]
  omega

/-- The rules that values hold, the first of which stands at place `n`. -/
def checkItems (n : Nat) (vs : List Value) : Checked (List Rule) :=
  match vs with
  | [] => .ok []
  | v :: vs => Checked.apply ((check v).inside (.item n) |>.map List.cons) (checkItems (n + 1) vs)
termination_by sizeOf vs

end

/-- The rule that a document holds. -/
def read (v : Value) : Except Invalid Rule := (check v).named "MappingRule"

end Rule

namespace RuleFile

/-- The rules that the document of a rule file holds. -/
def read (v : Value) : Except Invalid (List Rule) :=
  Checked.named "MappingConfig" <|
    match v with
    | .map es => Checked.field es ["mappings"] [] (Checked.list Rule.check)
    | _ => .fail .notRecord

end RuleFile

end Remediation
