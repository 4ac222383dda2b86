import Remediation.Proofs.Condition.Decision
import Remediation.Proofs.Parameters.Coercion
import Remediation.Proofs.Parameters.Texts
/-!
# Faults of conditions and of parameters

A condition that cannot be decided and parameters that cannot be filled have their own faults each
(`Condition.Undecided`, `Unfilled`).  They are found where values are read, and are passed on from
there: the lemmas go up along the definitions, from the innermost value to the whole.
-/

set_option autoImplicit false

namespace Remediation

variable {facts : Facts} {e : Fault}

/-! ## Parameters -/

/-- Why parameters cannot be filled. -/
inductive Unfilled : Fault → Prop where
  | missing (names : List String) (place : Whereabouts) : Unfilled (.missingParameters names place)
  | longInteger : Unfilled .longInteger
  | longDigits (digits : Nat) : Unfilled (.longDigits digits)

theorem Value.eq_longInteger_of_inText {v : Value} (h : v.inText = .error e) : e = .longInteger := by
  unfold Value.inText at h
  split at h
  · cases h
  · split at h
    · cases h
    · split at h
      · cases h
      · exact (Except.error.inj h).symm

namespace Template

theorem Piece.eq_longInteger_of_fill {p : Piece} (h : p.fill facts = .error e) :
    e = .longInteger := by
  unfold Piece.fill at h
  split at h
  · cases h
  · split at h
    · cases h
    · exact Value.eq_longInteger_of_inText (eq_error_of_map h)

theorem eq_longInteger_of_fill {pieces : List Piece} (h : fill facts pieces = .error e) :
    e = .longInteger := by
  rw [fill_eq_mapM] at h
  obtain ⟨p, -, hp⟩ := exists_of_mapM_eq_error (eq_error_of_map h)
  exact Piece.eq_longInteger_of_fill hp

theorem unfilled_of_substitute {s : String} (h : substitute s facts = .error e) : Unfilled e := by
  rcases substitute_eq_error h with hfill | ⟨-, rfl⟩
  · rw [eq_longInteger_of_fill hfill]
    exact .longInteger
  · exact .missing _ _

end Template

theorem Unfilled.inParameter (h : Unfilled e) (name : String) : Unfilled (e.inParameter name) := by
  cases h with
  | missing names place => exact .missing names _
  | longInteger => exact .longInteger
  | longDigits digits => exact .longDigits digits

/-- Parameters are filled, or there is a reason against it. -/
theorem unfilled_of_materialize {schema fields : Fields}
    (h : materialize facts schema fields = .error e) : Unfilled e := by
  obtain ⟨f, -, hf⟩ := exists_of_materialize_eq_error h
  rcases exists_of_materializeParameter_eq_error hf with
    ⟨s, inside, -, hsubstitute, rfl⟩ | ⟨s, hcoerce⟩
  · exact (Template.unfilled_of_substitute hsubstitute).inParameter f.1
  · obtain ⟨count, -, rfl⟩ := Coercion.coerce_eq_error_iff.1 hcoerce
    exact .longDigits count

/-! ## Conditions -/

namespace Condition

/-- Why a condition cannot be decided. -/
inductive Undecided : Fault → Prop where
  | unparsed (expression : String) : Undecided (.conditionUnparsed expression)
  | failed (expression : String) : Undecided (.conditionFailed expression)
  | notBoolean (expression type : String) : Undecided (.conditionNotBoolean expression type)
  | stopped (stop : Stop) : Undecided (.stopped stop)
  | overflow : Undecided .overflow
  | factName (name : String) : Undecided (.factName name)
  | factNameType (type : String) : Undecided (.factNameType type)

theorem undecided_of_nameFault? {k : Scalar} (h : nameFault? k = some e) : Undecided e := by
  cases k with
  | text name =>
    rw [nameFault?] at h
    split at h
    · cases h
    · exact Option.some.inj h ▸ .factName name
  | null | bool | int | float | moment | bytes => exact Option.some.inj h ▸ .factNameType _

theorem undecided_of_ofFacts (h : Scope.ofFacts facts = .error e) : Undecided e := by
  obtain ⟨fault, hrefused, hfacts⟩ | ⟨-, scope, hfacts, -⟩ := Scope.ofFacts_cases facts
  · obtain rfl := Except.error.inj (h.symm.trans hfacts)
    cases hrefused with
    | overflow => exact .overflow
    | name _ hname =>
      obtain ⟨k, -, hk⟩ := List.exists_of_findSome?_eq_some hname
      exact undecided_of_nameFault? hk
  · cases h.symm.trans hfacts

theorem undecided_of_run {expression : String} (h : run expression facts = .error e) :
    Undecided e := by
  unfold run at h
  split at h
  next => exact Except.error.inj h ▸ .unparsed expression
  next =>
    split at h
    next hfacts => exact Except.error.inj h ▸ undecided_of_ofFacts hfacts
    next =>
      split at h
      next => exact Except.error.inj h ▸ .failed expression
      next => exact Except.error.inj h ▸ .failed expression
      next => cases h
      next stop _ _ => exact Except.error.inj h ▸ .stopped stop

theorem undecided_of_holds {expression : String} (h : holds expression facts = .error e) :
    Undecided e := by
  unfold holds at h
  split at h
  next hrun => exact Except.error.inj h ▸ undecided_of_run hrun
  next =>
    split at h
    next => cases h
    next => exact Except.error.inj h ▸ .notBoolean expression _

end Condition
end Remediation
