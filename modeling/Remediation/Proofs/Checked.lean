import Remediation.Checked
import Remediation.Proofs.Fields
/-!
# Documents that have been written

Lists and maps that hold what the checks of their items accept are accepted as they are.  What a list is
found to hold has been checked item by item, and the fields of a map that has been read have different
keys.
-/

set_option autoImplicit false

namespace Remediation.Checked

variable {α β : Type} {check : Value → Checked α} {form : α → Value}

@[simp] theorem apply_ok (f : α → β) (a : α) : apply (.ok f) (.ok a) = .ok (f a) := rfl

@[simp] theorem inside_ok (place : Place) (a : α) : inside place (.ok a) = .ok a := rfl

theorem apply_eq_ok_iff {f : Checked (α → β)} {a : Checked α} {b : β} :
    apply f a = .ok b ↔ ∃ g x, f = .ok g ∧ a = .ok x ∧ g x = b := by
  cases f <;> cases a <;> simp [apply]

theorem inside_eq_ok_iff {place : Place} {a : Checked α} {x : α} :
    inside place a = .ok x ↔ a = .ok x := by
  cases a <;> simp [inside]

theorem map_eq_ok_iff {f : α → β} {a : Checked α} {b : β} :
    a.map f = .ok b ↔ ∃ x, a = .ok x ∧ f x = b := by
  cases a <;> simp [Except.map]

theorem mem_of_spelled? {es : List (Scalar × Value)} {spellings : List String} {name : String}
    {v : Value} (h : spelled? es spellings = some (name, v)) : (.text name, v) ∈ es := by
  induction spellings with
  | nil => cases h
  | cons first rest ih =>
    rw [spelled?] at h
    split at h
    next hentry =>
      cases h
      exact mem_of_entryAt? hentry
    next => exact ih h

/-- A field holds what an entry has been checked to be, or what it is when it is left out. -/
theorem eq_absent_or_of_field {es : List (Scalar × Value)} {spellings : List String}
    {absent x : α} (h : field es spellings absent check = .ok x) :
    x = absent ∨ ∃ e ∈ es, check e.2 = .ok x := by
  unfold field at h
  split at h
  next hspelled => exact Or.inr ⟨_, mem_of_spelled? hspelled, inside_eq_ok_iff.1 h⟩
  next => exact Or.inl (Except.ok.inj h).symm

/-- Each item of a list has been checked. -/
theorem exists_of_mem_items {n : Nat} {vs : List Value} {xs : List α}
    (h : items check n vs = .ok xs) : ∀ x ∈ xs, ∃ v ∈ vs, check v = .ok x := by
  induction vs generalizing n xs with
  | nil =>
    obtain rfl := Except.ok.inj h
    exact List.forall_mem_nil _
  | cons v rest ih =>
    rw [items, apply_eq_ok_iff] at h
    obtain ⟨_, found, hfirst, hrest, rfl⟩ := h
    obtain ⟨x, hx, rfl⟩ := map_eq_ok_iff.1 hfirst
    refine List.forall_mem_cons.2 ⟨⟨v, List.mem_cons_self, inside_eq_ok_iff.1 hx⟩, ?_⟩
    intro y hy
    obtain ⟨w, hw, hy⟩ := ih hrest y hy
    exact ⟨w, List.mem_cons_of_mem _ hw, hy⟩

theorem exists_of_mem_list {v : Value} {xs : List α} (h : list check v = .ok xs) :
    ∀ x ∈ xs, ∃ w, check w = .ok x := by
  intro x hx
  unfold list at h
  split at h
  next vs _ =>
    obtain ⟨w, -, hw⟩ := exists_of_mem_items h x hx
    exact ⟨w, hw⟩
  next => cases h

theorem items_map {xs : List α} (h : ∀ a ∈ xs, check (form a) = .ok a) (n : Nat) :
    items check n (xs.map form) = .ok xs := by
  induction xs generalizing n with
  | nil => rfl
  | cons a rest ih =>
    obtain ⟨ha, hrest⟩ := List.forall_mem_cons.1 h
    rw [List.map_cons, items, ha, ih hrest]
    rfl

theorem list_map {xs : List α} (h : ∀ a ∈ xs, check (form a) = .ok a) :
    list check (.list (xs.map form)) = .ok xs :=
  items_map h 0

theorem list_texts (texts : List String) : list text (.list (texts.map .text)) = .ok texts :=
  list_map fun _ _ => rfl

/-- Fields as the entries of a map, their values in some form. -/
def entriesOf (form : α → Value) (fields : List (String × α)) : List (Scalar × Value) :=
  fields.map fun (k, a) => (.text k, form a)

theorem entries_entriesOf {fields : List (String × α)}
    (h : ∀ e ∈ fields, check (form e.2) = .ok e.2) (before : List (String × α))
    (hkeys : ((before ++ fields).map Prod.fst).Nodup) :
    entries check before (entriesOf form fields) = .ok (before ++ fields) := by
  induction fields generalizing before with
  | nil => simp [entriesOf, entries]
  | cons e rest ih =>
    obtain ⟨k, a⟩ := e
    obtain ⟨ha, hrest⟩ := List.forall_mem_cons.1 h
    have hnew : k ∉ before.map Prod.fst := notMem_before (by simpa using hkeys)
    have hset := setField_of_notMem hnew a
    have hmore := ih hrest (before ++ [(k, a)]) (by simpa using hkeys)
    simp only [entriesOf, List.map_cons, entries, ha, text, inside, hset] at hmore ⊢
    rw [hmore, List.append_assoc, List.singleton_append]

theorem table_entriesOf {fields : List (String × α)}
    (h : ∀ e ∈ fields, check (form e.2) = .ok e.2) (hkeys : (fields.map Prod.fst).Nodup) :
    table check (.map (entriesOf form fields)) = .ok fields :=
  entries_entriesOf h [] hkeys

theorem fields_ofFields {fields : Fields} (hkeys : (fields.map Prod.fst).Nodup) :
    Checked.fields (Value.ofFields fields) = .ok fields := by
  have hany : ∀ e ∈ fields, any (id e.2) = .ok e.2 := fun _ _ => rfl
  exact table_entriesOf hany hkeys

@[simp] theorem optional_text (s : String) : optional text (.text s) = .ok (some s) := rfl

theorem optional_ofFields {fields : Fields} (hkeys : (fields.map Prod.fst).Nodup) :
    optional Checked.fields (Value.ofFields fields) = .ok (some fields) := by
  have hsome : optional Checked.fields (Value.ofFields fields) =
      (Checked.fields (Value.ofFields fields)).map some := rfl
  rw [hsome, fields_ofFields hkeys]
  rfl

/-! ## Fields that have been read -/

/-- Each entry of a map has been checked. -/
theorem exists_of_mem_entries {before found : List (String × α)} {es : List (Scalar × Value)}
    (h : entries check before es = .ok found) :
    ∀ f ∈ found, f ∈ before ∨ ∃ e ∈ es, check e.2 = .ok f.2 := by
  induction es generalizing before with
  | nil =>
    obtain rfl := Except.ok.inj h
    exact fun f hf => Or.inl hf
  | cons e rest ih =>
    obtain ⟨k, v⟩ := e
    simp only [entries] at h
    split at h
    next key a _ hvalue =>
      intro f hf
      rcases ih h f hf with hbefore | ⟨e, he, hcheck⟩
      · rcases mem_setField hbefore with rfl | hold
        · exact Or.inr ⟨(k, v), List.mem_cons_self, inside_eq_ok_iff.1 hvalue⟩
        · exact Or.inl hold
      · exact Or.inr ⟨e, List.mem_cons_of_mem _ he, hcheck⟩
    next => cases h


theorem nodup_of_entries {before found : List (String × α)} {es : List (Scalar × Value)}
    (h : entries check before es = .ok found) (hbefore : (before.map Prod.fst).Nodup) :
    (found.map Prod.fst).Nodup := by
  induction es generalizing before with
  | nil =>
    obtain rfl := Except.ok.inj h
    exact hbefore
  | cons e rest ih =>
    obtain ⟨k, v⟩ := e
    simp only [entries] at h
    split at h
    next => exact ih h (nodup_setField hbefore _ _)
    next => cases h

/-- The fields of a map that has been read have different keys. -/
theorem nodup_of_table {found : List (String × α)} {v : Value} (h : table check v = .ok found) :
    (found.map Prod.fst).Nodup := by
  unfold table at h
  split at h
  next => exact nodup_of_entries h List.nodup_nil
  next => cases h

end Remediation.Checked
