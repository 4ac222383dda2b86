import Remediation.Template
import Remediation.Unseen
/-!
# Aliases

Within one scope the id of a rule stands for the steps that the rule has produced, or, if it has
produced none, for what the rule itself depended on.  Resolving a dependency follows these aliases
until it comes to names that stand for nothing else; a name that has been followed on the way down is
not followed again, so that aliases in a circle lead nowhere.
-/

set_option autoImplicit false

namespace Remediation

/-- What names stand for. -/
abbrev Aliases := List (String × List String)

namespace Aliases

/-- The names that stand for something. -/
def names (table : Aliases) : List String := table.map Prod.fst

theorem mem_names_of_lookupField {table : Aliases} {name : String} {targets : List String}
    (h : lookupField table name = some targets) : name ∈ table.names := by
  induction table with
  | nil => simp [lookupField] at h
  | cons e table ih =>
    obtain ⟨k, v⟩ := e
    simp only [lookupField] at h
    split at h
    next hk => simp [names, hk]
    next => exact List.mem_cons_of_mem _ (ih h)

mutual

/-- Add what a name stands for in the end to what has been found. -/
def visit (table : Aliases) (seen found : List String) (name : String) : List String :=
  match _h : lookupField table name with
  | none => appendNew found name
  | some targets =>
    if targets = [name] then appendNew found name
    else if _hs : name ∈ seen then found
    else visitAll table (name :: seen) found targets
termination_by (unseen table.names seen, 0)
decreasing_by
  exact Prod.Lex.left _ _ (unseen_cons_lt (mem_names_of_lookupField _h) _hs)

/-- Add what names stand for in the end to what has been found, in order. -/
def visitAll (table : Aliases) (seen found : List String) (names : List String) : List String :=
  match names with
  | [] => found
  | name :: rest => visitAll table seen (visit table seen found name) rest
termination_by (unseen table.names seen, names.length + 1)

end

/-- What dependencies stand for in the end, each once. -/
def resolve (table : Aliases) (deps : List String) : List String := visitAll table [] [] deps

end Aliases

end Remediation
