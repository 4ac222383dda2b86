import Remediation.Execution
import Remediation.Proofs.Fields
/-!
# JSON values on the screen

A JSON value has text keys alone and no integer that is too long to be written.  Fields of JSON values
can always be shown (`exists_screenText`), so that a run never fails for what it prints.
-/

set_option autoImplicit false

namespace Remediation

namespace Value

/-- Null, a truth value, a number, a text, or a list or a map of such values whose keys are texts.
Integers are short enough to be written. -/
inductive IsJson : Value → Prop where
  | null : IsJson .null
  | bool (b : Bool) : IsJson (.bool b)
  | int {n : Int} : Decimal.isWritable n = true → IsJson (.int n)
  | float (x : Float) : IsJson (.float x)
  | text (s : String) : IsJson (.text s)
  | list {items : List Value} : (∀ v ∈ items, IsJson v) → IsJson (.list items)
  | map {entries : List (Scalar × Value)} : (∀ e ∈ entries, ∃ k, e.1 = .text k) →
      (∀ e ∈ entries, IsJson e.2) → IsJson (.map entries)

variable {c : Convention}

theorem exists_toJsonItems {items : List Value} (h : ∀ v ∈ items, ∃ j, v.toJson c = .ok j) :
    ∃ js, toJsonItems c items = .ok js := by
  induction items with
  | nil => exact ⟨[], rfl⟩
  | cons v vs ih =>
    obtain ⟨j, hj⟩ := h v List.mem_cons_self
    obtain ⟨js, hjs⟩ := ih fun w hw => h w (List.mem_cons_of_mem _ hw)
    exact ⟨j :: js, by simp [toJsonItems, hj, hjs, Except.map]⟩

theorem exists_toJsonFields {entries : List (Scalar × Value)}
    (hkeys : ∀ e ∈ entries, ∃ k, e.1 = .text k)
    (hvalues : ∀ e ∈ entries, ∃ j, e.2.toJson c = .ok j) :
    ∃ fields, toJsonFields c entries = .ok fields := by
  induction entries with
  | nil => exact ⟨[], rfl⟩
  | cons e es ih =>
    obtain ⟨key, v⟩ := e
    obtain ⟨k, rfl⟩ := hkeys _ List.mem_cons_self
    obtain ⟨j, hj⟩ := hvalues _ List.mem_cons_self
    obtain ⟨fields, hfields⟩ := ih (fun e he => hkeys e (List.mem_cons_of_mem _ he))
      fun e he => hvalues e (List.mem_cons_of_mem _ he)
    exact ⟨(k, j) :: fields, by simp_all [toJsonFields, keyText, Except.map]⟩

/-- A JSON value has a JSON form under every convention. -/
theorem IsJson.exists_toJson {v : Value} (h : v.IsJson) : ∃ j, v.toJson c = .ok j := by
  induction h with
  | null => exact ⟨.null, by rw [toJson]⟩
  | bool b => exact ⟨.bool b, by rw [toJson]⟩
  | int hshort => exact ⟨_, by rw [toJson, if_pos hshort]⟩
  | float x => exact ⟨c.float x, by rw [toJson]⟩
  | text s => exact ⟨.text s, by rw [toJson]⟩
  | list _ ih =>
    obtain ⟨js, hjs⟩ := exists_toJsonItems ih
    exact ⟨.list js, by rw [toJson, hjs]; rfl⟩
  | map hkeys _ ih =>
    obtain ⟨fields, hfields⟩ := exists_toJsonFields hkeys ih
    exact ⟨.map fields, by rw [toJson, hfields]; rfl⟩

end Value

/-- Fields that hold JSON values alone. -/
def Fields.AreJson (fields : Fields) : Prop := ∀ e ∈ fields, e.2.IsJson

namespace Fields.AreJson

variable {fields : Fields}

theorem ofFields (h : fields.AreJson) : (Value.ofFields fields).IsJson := by
  refine .map ?_ ?_
  · intro e he
    obtain ⟨field, -, rfl⟩ := List.mem_map.1 he
    exact ⟨field.1, rfl⟩
  · intro e he
    obtain ⟨field, hfield, rfl⟩ := List.mem_map.1 he
    exact h field hfield

theorem setField (h : fields.AreJson) {key : String} {v : Value} (hv : v.IsJson) :
    Fields.AreJson (setField fields key v) := by
  intro e he
  rcases mem_setField he with rfl | hold
  · exact hv
  · exact h e hold

theorem lookupField (h : fields.AreJson) {key : String} {v : Value}
    (hlookup : lookupField fields key = some v) : v.IsJson :=
  h _ (mem_of_lookupField hlookup)

/-- Fields of JSON values can be shown. -/
theorem exists_screenText (h : fields.AreJson) : ∃ text, Execution.screenText fields = .ok text := by
  obtain ⟨j, hj⟩ := h.ofFields.exists_toJson (c := Execution.screenConvention)
  exact ⟨_, by rw [Execution.screenText, hj]⟩

end Fields.AreJson

end Remediation
