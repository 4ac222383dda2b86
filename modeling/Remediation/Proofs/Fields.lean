import Remediation.Proofs.Distinct
import Remediation.Value
/-!
# Fields that are written and looked up

Looking up a field finds one of the entries, and writing one adds no other entry than that.  Fields
that are written over others win; writing over in turns is the same in whichever order the turns are
taken together (`overlay_overlay`).
-/

set_option autoImplicit false

namespace Remediation

variable {α : Type} {fields later : List (String × α)} {key : String} {v : α}

theorem mem_of_lookupField (h : lookupField fields key = some v) : (key, v) ∈ fields := by
  induction fields with
  | nil => simp [lookupField] at h
  | cons e rest ih =>
    obtain ⟨k, old⟩ := e
    simp only [lookupField] at h
    split at h
    next hk =>
      obtain rfl := Option.some.inj h
      simp [hk]
    next => exact List.mem_cons_of_mem _ (ih h)

theorem mem_of_entryAt? {entries : List (Scalar × Value)} {key : String} {v : Value}
    (h : entryAt? entries key = some v) : (.text key, v) ∈ entries := by
  induction entries with
  | nil => cases h
  | cons e rest ih =>
    obtain ⟨k, w⟩ := e
    cases k with
    | text s =>
      rw [entryAt?] at h
      split at h
      next hkey =>
        obtain rfl := Option.some.inj h
        rw [hkey]
        exact List.mem_cons_self
      next => exact List.mem_cons_of_mem _ (ih h)
    | null | bool | int | float | moment | bytes => exact List.mem_cons_of_mem _ (ih h)

theorem mem_setField {e : String × α} (h : e ∈ setField fields key v) :
    e = (key, v) ∨ e ∈ fields := by
  induction fields with
  | nil => exact Or.inl (by simpa [setField] using h)
  | cons first rest ih =>
    obtain ⟨k, old⟩ := first
    simp only [setField] at h
    split at h
    next hk =>
      rcases List.mem_cons.1 h with rfl | hrest
      · exact Or.inl (by rw [hk])
      · exact Or.inr (List.mem_cons_of_mem _ hrest)
    next =>
      rcases List.mem_cons.1 h with rfl | hrest
      · exact Or.inr List.mem_cons_self
      · exact (ih hrest).imp_right (List.mem_cons_of_mem _)

theorem lookupField_map_of_mem (f : String → α) {names : List String} {name : String}
    (h : name ∈ names) : lookupField (names.map fun name => (name, f name)) name = some (f name) := by
  induction names with
  | nil => cases h
  | cons first names ih =>
    by_cases hfirst : first = name
    · simp [lookupField, hfirst]
    · rw [List.map_cons, lookupField, if_neg hfirst]
      exact ih ((List.mem_cons.1 h).resolve_left (Ne.symm hfirst))

theorem lookupField_eq_none_iff : lookupField fields key = none ↔ key ∉ fields.map Prod.fst := by
  induction fields with
  | nil => simp [lookupField]
  | cons first rest ih =>
    obtain ⟨k, old⟩ := first
    by_cases hk : k = key
    · simp [lookupField, hk]
    · simp [lookupField, hk, ih, Ne.symm hk]

/-- A field is looked up among the first fields and then among those behind them. -/
theorem lookupField_append (fields later : List (String × α)) (key : String) :
    lookupField (fields ++ later) key = (lookupField fields key).or (lookupField later key) := by
  induction fields with
  | nil => rfl
  | cons first rest ih =>
    obtain ⟨k, old⟩ := first
    by_cases hk : k = key
    · simp [lookupField, hk]
    · simp [lookupField, hk, ih]

/-- A field that is not there is written behind the others. -/
theorem setField_of_notMem (h : key ∉ fields.map Prod.fst) (v : α) :
    setField fields key v = fields ++ [(key, v)] := by
  induction fields with
  | nil => rfl
  | cons first rest ih =>
    obtain ⟨k, old⟩ := first
    obtain ⟨hk, hrest⟩ := List.ne_and_not_mem_of_not_mem_cons h
    rw [setField, if_neg hk.symm, ih hrest, List.cons_append]

/-! ## Keys -/

/-- The keys are those that were there, and the one that is written. -/
theorem map_fst_setField (fields : List (String × α)) (key : String) (v : α) :
    (setField fields key v).map Prod.fst = appendNew (fields.map Prod.fst) key := by
  induction fields with
  | nil => rfl
  | cons first rest ih =>
    obtain ⟨k, old⟩ := first
    by_cases hk : k = key
    · simp [setField, appendNew, hk]
    · rw [setField, if_neg hk, List.map_cons, ih]
      by_cases hmem : key ∈ rest.map Prod.fst
      · simp only [appendNew, List.map_cons, if_pos hmem, if_pos (List.mem_cons_of_mem k hmem)]
      · have hnot : key ∉ k :: rest.map Prod.fst := by
          simpa [Ne.symm hk] using hmem
        simp only [appendNew, List.map_cons, if_neg hmem, if_neg hnot, List.cons_append]

theorem nodup_setField (h : (fields.map Prod.fst).Nodup) (key : String) (v : α) :
    ((setField fields key v).map Prod.fst).Nodup := by
  rw [map_fst_setField]
  exact nodup_appendNew h key

/-! ## Fields that are written over others -/

theorem overlay_cons (fields : List (String × α)) (e : String × α) (later : List (String × α)) :
    overlay fields (e :: later) = overlay (setField fields e.1 e.2) later := rfl

theorem mem_overlay {e : String × α} (h : e ∈ overlay fields later) : e ∈ fields ∨ e ∈ later := by
  induction later generalizing fields with
  | nil => exact Or.inl h
  | cons first rest ih =>
    rw [overlay_cons] at h
    rcases ih h with hwritten | hrest
    · rcases mem_setField hwritten with rfl | hold
      · exact Or.inr List.mem_cons_self
      · exact Or.inl hold
    · exact Or.inr (List.mem_cons_of_mem first hrest)

theorem mem_map_fst_overlay : key ∈ (overlay fields later).map Prod.fst ↔
    key ∈ fields.map Prod.fst ∨ key ∈ later.map Prod.fst := by
  induction later generalizing fields with
  | nil => exact (or_iff_left List.not_mem_nil).symm
  | cons e rest ih =>
    rw [overlay_cons, ih, map_fst_setField, mem_appendNew, List.map_cons, List.mem_cons, or_assoc]

/-- Fields that are written over others are found before them. -/
theorem lookupField_overlay (h : (later.map Prod.fst).Nodup) :
    lookupField (overlay fields later) key =
      (lookupField later key).or (lookupField fields key) := by
  induction later generalizing fields with
  | nil => rfl
  | cons e rest ih =>
    obtain ⟨k, v⟩ := e
    obtain ⟨hk, hrest⟩ := List.nodup_cons.1 h
    rw [overlay_cons, ih hrest]
    by_cases hkey : k = key
    · subst hkey
      rw [lookupField_eq_none_iff.2 hk, lookupField_setField_self]
      simp [lookupField]
    · rw [lookupField_setField_ne _ _ hkey]
      simp [lookupField, hkey]

theorem setField_setField_self (fields : List (String × α)) (key : String) (v later : α) :
    setField (setField fields key v) key later = setField fields key later := by
  induction fields with
  | nil => simp [setField]
  | cons first rest ih =>
    obtain ⟨k, old⟩ := first
    by_cases hk : k = key <;> simp [setField, hk, ih]

/-- A field that is there can be written before another one as well as behind it. -/
theorem setField_comm {other : String} (hkey : key ∈ fields.map Prod.fst) (hne : key ≠ other)
    (v later : α) :
    setField (setField fields other later) key v =
      setField (setField fields key v) other later := by
  induction fields with
  | nil => simp at hkey
  | cons first rest ih =>
    obtain ⟨k, old⟩ := first
    by_cases hk : k = key
    · simp [setField, hk, hne]
    · have hrest : key ∈ rest.map Prod.fst := by simpa [Ne.symm hk] using hkey
      by_cases hother : k = other
      · simp [setField, hother, Ne.symm hne]
      · simp [setField, hk, hother, ih hrest]

/-- Writing a field that other fields do not have can be done before writing those, where it is there
already. -/
theorem setField_overlay (hkey : key ∈ fields.map Prod.fst) (hnot : key ∉ later.map Prod.fst)
    (v : α) : setField (overlay fields later) key v = overlay (setField fields key v) later := by
  induction later generalizing fields with
  | nil => rfl
  | cons e rest ih =>
    obtain ⟨other, old⟩ := e
    simp only [List.map_cons, List.mem_cons, not_or] at hnot
    have hstays : key ∈ (setField fields other old).map Prod.fst := by
      rw [map_fst_setField]
      exact mem_appendNew.2 (Or.inl hkey)
    rw [overlay_cons, overlay_cons, ih hstays hnot.2, setField_comm hkey hnot.1]

theorem overlay_setField (h : (later.map Prod.fst).Nodup) (fields : List (String × α))
    (key : String) (v : α) :
    overlay fields (setField later key v) = setField (overlay fields later) key v := by
  induction later generalizing fields with
  | nil => rfl
  | cons e rest ih =>
    obtain ⟨k, old⟩ := e
    obtain ⟨hk, hrest⟩ := List.nodup_cons.1 h
    by_cases hkey : k = key
    · subst hkey
      have hthere : k ∈ (setField fields k old).map Prod.fst := by
        rw [map_fst_setField]
        exact mem_appendNew.2 (Or.inr rfl)
      rw [setField, if_pos rfl, overlay_cons, overlay_cons, setField_overlay hthere hk,
        setField_setField_self]
    · rw [setField, if_neg hkey, overlay_cons, overlay_cons, ih hrest]

/-- Fields can be written over others before those are written over further ones. -/
theorem overlay_overlay (h : (later.map Prod.fst).Nodup) (fields last : List (String × α)) :
    overlay (overlay fields later) last = overlay fields (overlay later last) := by
  induction last generalizing later with
  | nil => rfl
  | cons e rest ih =>
    rw [overlay_cons, overlay_cons, ← overlay_setField h, ih (nodup_setField h e.1 e.2)]

end Remediation
