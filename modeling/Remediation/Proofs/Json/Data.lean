import Remediation.Proofs.Json.RoundTrip
/-!
# Data values of JSON values

A JSON value that fits is the JSON form of its data value, whatever the convention: none of its parts
needs one.

A value nests no deeper than what is written of it is long (`Fits.fits_write`).  So a reader that takes
values as deep as they nest reads back every value without floating-point numbers (`read_lenient_render`),
and data values that are built from such values alone are data values of these (`IsPlain.isData`).
-/

set_option autoImplicit false

namespace Remediation

namespace Json

variable {c : Convention} {limit deep : Nat} {j v : Json}

theorem toJsonItems_toValues {items : List Json}
    (h : ∀ v ∈ items, v.toValue.toJson c = .ok v) :
    Value.toJsonItems c (toValues items) = .ok items := by
  induction items with
  | nil => rfl
  | cons v vs ih =>
    obtain ⟨hv, hvs⟩ := List.forall_mem_cons.1 h
    simp only [toValues, Value.toJsonItems, hv, ih hvs, Except.map]

theorem toJsonFields_toEntries {fields : List (String × Json)}
    (h : ∀ e ∈ fields, e.2.toValue.toJson c = .ok e.2) :
    Value.toJsonFields c (toEntries fields) = .ok fields := by
  induction fields with
  | nil => rfl
  | cons e fs ih =>
    obtain ⟨he, hfs⟩ := List.forall_mem_cons.1 h
    simp only [toEntries, Value.toJsonFields, Value.keyText, he, ih hfs, Except.map]

/-- A value that fits is the JSON form of its data value. -/
theorem Fits.toJson_toValue (h : j.Fits limit) (c : Convention) : j.toValue.toJson c = .ok j := by
  induction h with
  | null => rw [toValue, Value.toJson]
  | bool b => rw [toValue, Value.toJson]
  | int hn => rw [toValue, Value.toJson, if_pos hn]
  | text s => rw [toValue, Value.toJson]
  | noItems => rfl
  | noFields => rfl
  | list _ ih =>
    rw [toValue, Value.toJson, toJsonItems_toValues ih]
    rfl
  | map _ _ ih =>
    rw [toValue, Value.toJson, toJsonFields_toEntries ih]
    rfl

/-- The data values of fields. -/
def dataOf (fields : List (String × Json)) : Fields := fields.map fun (k, j) => (k, j.toValue)

theorem ofFields_dataOf (fields : List (String × Json)) :
    Value.ofFields (dataOf fields) = (Json.map fields).toValue := by
  rw [toValue, Value.ofFields, dataOf, List.map_map]
  congr 1
  induction fields with
  | nil => rfl
  | cons e fs ih =>
    rw [List.map_cons, ih]
    rfl

theorem map_fst_dataOf (fields : List (String × Json)) :
    (dataOf fields).map Prod.fst = fields.map Prod.fst := by
  simp [dataOf]

/-! ## Depth and length -/

theorem Fits.mono (h : j.Fits limit) (hle : limit ≤ deep) : j.Fits deep := by
  induction h generalizing deep with
  | null => exact .null
  | bool b => exact .bool b
  | int hn => exact .int hn
  | text s => exact .text s
  | noItems => exact .noItems
  | noFields => exact .noFields
  | list _ ih =>
    obtain ⟨deep, rfl⟩ := Nat.exists_eq_add_of_le' (Nat.one_le_of_lt hle)
    exact .list fun v hv => ih v hv (Nat.le_of_succ_le_succ hle)
  | map hkeys _ ih =>
    obtain ⟨deep, rfl⟩ := Nat.exists_eq_add_of_le' (Nat.one_le_of_lt hle)
    exact .map hkeys fun e he => ih e he (Nat.le_of_succ_le_succ hle)

theorem length_write_le_writeItems (style : Style) (depth : Nat) {vs : List Json} (h : v ∈ vs) :
    (v.write style depth).length ≤ (writeItems style depth vs).length := by
  induction vs with
  | nil => cases h
  | cons u us ih =>
    simp only [writeItems_cons, List.length_append]
    rcases List.mem_cons.1 h with rfl | hmore
    · omega
    · have := ih hmore
      omega

theorem length_write_le_writeFields (style : Style) (depth : Nat) {e : String × Json}
    {fs : List (String × Json)} (h : e ∈ fs) :
    (e.2.write style depth).length ≤ (writeFields style depth fs).length := by
  induction fs with
  | nil => cases h
  | cons f fs ih =>
    simp only [writeFields_cons, List.length_append]
    rcases List.mem_cons.1 h with rfl | hmore
    · omega
    · have := ih hmore
      omega

/-- An item is shorter than its list. -/
theorem length_write_lt_list (style : Style) (depth : Nat) {items : List Json} (h : v ∈ items) :
    (v.write style (depth + 1)).length < ((Json.list items).write style depth).length := by
  obtain _ | ⟨u, us⟩ := items
  · cases h
  simp only [write_items, List.length_append, List.length_cons]
  rcases List.mem_cons.1 h with rfl | hmore
  · omega
  · have := length_write_le_writeItems style (depth + 1) hmore
    omega

/-- The value of a field is shorter than its map. -/
theorem length_write_lt_map (style : Style) (depth : Nat) {e : String × Json}
    {fields : List (String × Json)} (h : e ∈ fields) :
    (e.2.write style (depth + 1)).length < ((Json.map fields).write style depth).length := by
  obtain _ | ⟨f, fs⟩ := fields
  · cases h
  simp only [write_fields, List.length_append, List.length_cons]
  rcases List.mem_cons.1 h with rfl | hmore
  · omega
  · have := length_write_le_writeFields style (depth + 1) hmore
    omega

theorem Opens.exists_length {cs : List Char} (h : Opens cs) : ∃ n, cs.length = n + 1 := by
  obtain ⟨c, rest, rfl, -⟩ := h
  exact ⟨rest.length, rfl⟩

/-- A value nests no deeper than what is written of it is long. -/
theorem Fits.fits_write (h : j.Fits limit) (style : Style) (depth : Nat) :
    j.Fits (j.write style depth).length := by
  induction h generalizing depth with
  | null => exact .null
  | bool b => exact .bool b
  | int hn => exact .int hn
  | text s => exact .text s
  | noItems => exact .noItems
  | noFields => exact .noFields
  | @list _ items _ ih =>
    obtain ⟨n, hn⟩ := (opens_list items style depth).exists_length
    rw [hn]
    refine .list fun v hv => (ih v hv (depth + 1)).mono ?_
    have hlength := length_write_lt_list style depth hv
    omega
  | @map _ fields hkeys _ ih =>
    obtain ⟨n, hn⟩ := (opens_map fields style depth).exists_length
    rw [hn]
    refine .map hkeys fun e he => (ih e he (depth + 1)).mono ?_
    have hlength := length_write_lt_map style depth he
    omega

theorem legible_lineStyle : lineStyle.Legible where
  itemGap := ⟨[' '], by simp [lineStyle], by simp [AreGaps, isGap]⟩
  keyGap := ⟨[' '], by simp [lineStyle], by simp [AreGaps, isGap]⟩

/-- A value that is written on one line is read back, however deep it nests. -/
theorem read_lenient_render (h : j.Fits limit) : read lenient (j.render lineStyle) = .ok j :=
  read_render legible_lineStyle (h.fits_write lineStyle 0)

end Json

/-- Fields that are the data values of JSON values which nest at most `limit` lists and maps that hold
something, the map of the fields included. -/
def Fields.Storable (limit : Nat) (fields : Fields) : Prop :=
  ∃ stored : List (String × Json), (Json.map stored).Fits limit ∧ Json.dataOf stored = fields

theorem Fields.Storable.nodup {limit : Nat} {fields : Fields} (h : fields.Storable limit) :
    (fields.map Prod.fst).Nodup := by
  obtain ⟨stored, hfits, rfl⟩ := h
  rw [Json.map_fst_dataOf]
  cases hfits with
  | noFields => exact List.nodup_nil
  | map hkeys _ => exact hkeys

/-! ## Data values that are built from plain ones -/

namespace Value

/-- Null, a truth value, an integer that is short enough to be written, a text, or a list or a map of such
values whose keys are texts, each once. -/
inductive IsPlain : Value → Prop where
  | null : IsPlain .null
  | bool (b : Bool) : IsPlain (.bool b)
  | int {n : Int} : Decimal.isWritable n = true → IsPlain (.int n)
  | text (s : String) : IsPlain (.text s)
  | list {items : List Value} : (∀ v ∈ items, IsPlain v) → IsPlain (.list items)
  | map {entries : List (Scalar × Value)} : (∀ e ∈ entries, ∃ k, e.1 = .text k) →
      (entries.map Prod.fst).Nodup → (∀ e ∈ entries, IsPlain e.2) → IsPlain (.map entries)

/-- A value is the data value of a JSON value that nests to some depth. -/
def IsData (v : Value) : Prop := ∃ (j : Json) (limit : Nat), j.Fits limit ∧ j.toValue = v

theorem exists_fits_items {items : List Value} (h : ∀ v ∈ items, v.IsData) :
    ∃ (js : List Json) (limit : Nat), (∀ j ∈ js, j.Fits limit) ∧ Json.toValues js = items := by
  induction items with
  | nil => exact ⟨[], 0, List.forall_mem_nil _, rfl⟩
  | cons v vs ih =>
    obtain ⟨⟨j, limit, hj, rfl⟩, hvs⟩ := List.forall_mem_cons.1 h
    obtain ⟨js, more, hjs, rfl⟩ := ih hvs
    refine ⟨j :: js, max limit more, List.forall_mem_cons.2 ⟨hj.mono (Nat.le_max_left _ _), ?_⟩, rfl⟩
    exact fun u hu => (hjs u hu).mono (Nat.le_max_right _ _)

theorem exists_fits_entries {entries : List (Scalar × Value)}
    (hkeys : ∀ e ∈ entries, ∃ k, e.1 = .text k) (h : ∀ e ∈ entries, e.2.IsData) :
    ∃ (fields : List (String × Json)) (limit : Nat), (∀ f ∈ fields, f.2.Fits limit) ∧
      Json.toEntries fields = entries := by
  induction entries with
  | nil => exact ⟨[], 0, List.forall_mem_nil _, rfl⟩
  | cons e es ih =>
    obtain ⟨key, v⟩ := e
    obtain ⟨⟨k, rfl⟩, hmore⟩ := List.forall_mem_cons.1 hkeys
    obtain ⟨⟨j, limit, hj, rfl⟩, hes⟩ := List.forall_mem_cons.1 h
    obtain ⟨fields, more, hfields, rfl⟩ := ih hmore hes
    refine ⟨(k, j) :: fields, max limit more,
      List.forall_mem_cons.2 ⟨hj.mono (Nat.le_max_left _ _), ?_⟩, rfl⟩
    exact fun f hf => (hfields f hf).mono (Nat.le_max_right _ _)

theorem map_fst_toEntries (fields : List (String × Json)) :
    (Json.toEntries fields).map Prod.fst = (fields.map Prod.fst).map .text := by
  induction fields with
  | nil => rfl
  | cons f fs ih => rw [Json.toEntries, List.map_cons, ih]; rfl

/-- A plain value is the data value of a JSON value. -/
theorem IsPlain.isData {v : Value} (h : v.IsPlain) : v.IsData := by
  induction h with
  | null => exact ⟨.null, 0, .null, rfl⟩
  | bool b => exact ⟨.bool b, 0, .bool b, rfl⟩
  | @int n hn => exact ⟨.int n, 0, .int hn, rfl⟩
  | text s => exact ⟨.text s, 0, .text s, rfl⟩
  | list _ ih =>
    obtain ⟨js, limit, hjs, rfl⟩ := exists_fits_items ih
    exact ⟨.list js, limit + 1, .list hjs, rfl⟩
  | map hkeys hnodup _ ih =>
    obtain ⟨fields, limit, hfields, rfl⟩ := exists_fits_entries hkeys ih
    rw [map_fst_toEntries] at hnodup
    exact ⟨.map fields, limit + 1, .map hnodup.of_map hfields, rfl⟩

end Value

end Remediation
