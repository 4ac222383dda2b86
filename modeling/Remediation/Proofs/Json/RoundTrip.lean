import Remediation.Proofs.Fields
import Remediation.Proofs.Json.Number
import Remediation.Proofs.Json.Quoted
/-!
# JSON values that are written and read

A value without floating-point numbers whose maps have no key twice is read back from what has been
written, in every style that puts nothing but gaps between its parts, if it nests no deeper than the
reader goes (`read_render`).  If it nests deeper, it is refused (`read_render_eq_error`).

What has been written is always enough fuel for the reader: each part that it goes into is written in at
least one character.
-/

set_option autoImplicit false

namespace Remediation.Json

/-! ## Values -/

/-- A value that nests at most `limit` lists and maps that hold something, without floating-point numbers,
with integers that are short enough to be written, and with no key twice in a map. -/
inductive Fits : Nat → Json → Prop where
  | null {limit : Nat} : Fits limit .null
  | bool {limit : Nat} (b : Bool) : Fits limit (.bool b)
  | int {limit : Nat} {n : Int} : Decimal.isWritable n = true → Fits limit (.int n)
  | text {limit : Nat} (s : String) : Fits limit (.text s)
  | noItems {limit : Nat} : Fits limit (.list [])
  | noFields {limit : Nat} : Fits limit (.map [])
  | list {limit : Nat} {items : List Json} : (∀ v ∈ items, Fits limit v) →
      Fits (limit + 1) (.list items)
  | map {limit : Nat} {fields : List (String × Json)} : (fields.map Prod.fst).Nodup →
      (∀ e ∈ fields, Fits limit e.2) → Fits (limit + 1) (.map fields)

theorem Fits.of_list {limit : Nat} {items : List Json} {v : Json}
    (h : (Json.list items).Fits (limit + 1)) (hv : v ∈ items) : v.Fits limit := by
  cases h with
  | noItems => cases hv
  | list hitems => exact hitems v hv

theorem Fits.of_map {limit : Nat} {fields : List (String × Json)} {e : String × Json}
    (h : (Json.map fields).Fits (limit + 1)) (he : e ∈ fields) : e.2.Fits limit := by
  cases h with
  | noFields => cases he
  | map _ hfields => exact hfields e he

/-! ## Gaps -/

/-- Characters that may stand between the parts of a value. -/
def AreGaps (gaps : List Char) : Prop := ∀ c ∈ gaps, isGap c = true

theorem skipGap_append {gaps : List Char} (h : AreGaps gaps) (rest : List Char) :
    skipGap (gaps ++ rest) = skipGap rest :=
  List.dropWhile_append_of_pos h

theorem skipGap_cons {c : Char} (h : isGap c = false) (rest : List Char) :
    skipGap (c :: rest) = c :: rest := by
  simp [skipGap, h]

theorem skipGap_of_stop {gaps : List Char} {c : Char} (h : AreGaps gaps) (hc : isGap c = false)
    (rest : List Char) : skipGap (gaps ++ c :: rest) = c :: rest := by
  rw [skipGap_append h, skipGap_cons hc]

theorem AreGaps.ends {gaps rest : List Char} (h : AreGaps gaps) (hrest : Ends rest) :
    Ends (gaps ++ rest) := by
  cases gaps with
  | nil => exact hrest
  | cons c gaps => exact ends_cons.2 (Or.inr (Or.inr (Or.inr (h c List.mem_cons_self))))

namespace Style

variable {style : Style}

/-- A style that puts a comma between items, a colon behind keys, and nothing else but gaps between the
parts of a value. -/
structure Legible (style : Style) : Prop where
  itemGap : ∃ gaps, style.itemGap.toList = ',' :: gaps ∧ AreGaps gaps
  keyGap : ∃ gaps, style.keyGap.toList = ':' :: gaps ∧ AreGaps gaps

theorem areGaps_line (width : Nat) : AreGaps ('\n' :: List.replicate width ' ') := by
  intro c hc
  rcases List.mem_cons.1 hc with rfl | hblank
  · decide
  · obtain rfl := List.eq_of_mem_replicate hblank
    decide

theorem areGaps_openBreak (style : Style) (depth : Nat) : AreGaps (style.openBreak depth) := by
  unfold openBreak
  split
  · exact List.forall_mem_nil _
  · exact areGaps_line _

theorem Legible.itemBreak_eq (h : style.Legible) (depth : Nat) :
    ∃ gaps, style.itemBreak depth = ',' :: gaps ∧ AreGaps gaps := by
  unfold itemBreak
  split
  · exact h.itemGap
  · exact ⟨_, rfl, areGaps_line _⟩

end Style

variable {d : Dialect} {style : Style} {limit : Nat} {j : Json}

/-! ## How values begin -/

/-- A value begins there: the first character stops none. -/
def Opens (cs : List Char) : Prop := ∃ c rest, cs = c :: rest ∧ ¬ Stops c

theorem Opens.append {cs : List Char} (h : Opens cs) (rest : List Char) : Opens (cs ++ rest) := by
  obtain ⟨c, more, rfl, hc⟩ := h
  exact ⟨c, more ++ rest, rfl, hc⟩

/-- Gaps in front of a value are skipped, and nothing of the value. -/
theorem Opens.skipGap_append {cs gaps : List Char} (h : Opens cs) (hgaps : AreGaps gaps) :
    skipGap (gaps ++ cs) = cs := by
  obtain ⟨c, rest, rfl, hc⟩ := h
  have hgap : isGap c = false := Bool.eq_false_iff.2 fun hgap => hc (Or.inr (Or.inr (Or.inr hgap)))
  exact skipGap_of_stop hgaps hgap rest

theorem opens_intDigits (n : Int) : Opens (Decimal.intDigits n) := by
  obtain ⟨c, rest, hcons, hc⟩ := Decimal.intDigits_eq_cons n
  refine ⟨c, rest, hcons, fun hstops => ?_⟩
  rcases hc with rfl | hdigit
  · exact absurd hstops (by decide)
  · rw [hstops.not_number.1] at hdigit
    cases hdigit

theorem opens_writeText (asciiOnly : Bool) (s : String) : Opens (writeText asciiOnly s) :=
  ⟨'"', _, rfl, by decide⟩

theorem opens_list (items : List Json) (style : Style) (depth : Nat) :
    Opens ((Json.list items).write style depth) := by
  cases items with
  | nil => exact ⟨'[', _, rfl, by decide⟩
  | cons v vs => exact ⟨'[', _, rfl, by decide⟩

theorem opens_map (fields : List (String × Json)) (style : Style) (depth : Nat) :
    Opens ((Json.map fields).write style depth) := by
  cases fields with
  | nil => exact ⟨'\x7b', _, rfl, by decide⟩
  | cons e fs => exact ⟨'\x7b', _, rfl, by decide⟩

theorem Fits.opens (h : j.Fits limit) (style : Style) (depth : Nat) :
    Opens (j.write style depth) := by
  cases h with
  | null => exact ⟨'n', _, rfl, by decide⟩
  | bool b =>
    cases b with
    | true => exact ⟨'t', _, rfl, by decide⟩
    | false => exact ⟨'f', _, rfl, by decide⟩
  | int hn =>
    rw [write_int]
    exact opens_intDigits _
  | text s =>
    rw [write_text]
    exact opens_writeText style.asciiOnly s
  | noItems => exact opens_list [] style depth
  | noFields => exact opens_map [] style depth
  | list _ => exact opens_list _ style depth
  | map _ _ => exact opens_map _ style depth

/-! ## Values that are read back or refused -/

/-- A value is read back from what has been written at any depth. -/
def Returns (d : Dialect) (style : Style) (limit : Nat) (j : Json) : Prop :=
  ∀ fuel depth rest, (j.write style depth).length ≤ fuel → Ends rest →
    readValue d fuel limit (j.write style depth ++ rest) = .ok (j, rest)

/-- A value is refused at any depth, whatever stands behind it. -/
def Refuses (d : Dialect) (style : Style) (limit : Nat) (j : Json) : Prop :=
  ∀ fuel depth rest, (j.write style depth).length ≤ fuel →
    readValue d fuel limit (j.write style depth ++ rest) = .error .malformed

theorem readValue_plain {c : Char} (hquote : c ≠ '"') (hlist : c ≠ '[') (hmap : c ≠ '\x7b')
    (fuel : Nat) (rest : List Char) :
    readValue d (fuel + 1) limit (c :: rest) =
      match readWord? (c :: rest) with
      | some found => .ok found
      | none => readNumber (c :: rest) := by
  rw [readValue.eq_def]
  split
  next heq => cases heq
  next heq =>
    obtain rfl := Nat.succ.inj heq
    split
    next heq => exact absurd (List.cons_eq_cons.1 heq).1 hquote
    next heq => exact absurd (List.cons_eq_cons.1 heq).1 hlist
    next heq => exact absurd (List.cons_eq_cons.1 heq).1 hmap
    next => rfl

/-- A value that is written from a character on which begins no text, list or map. -/
theorem returns_of_plain {c : Char} {more : List Char}
    (hwrite : ∀ depth, j.write style depth = c :: more) (hquote : c ≠ '"') (hlist : c ≠ '[')
    (hmap : c ≠ '\x7b')
    (hread : ∀ rest, Ends rest → readWord? (c :: more ++ rest) = some (j, rest) ∨
      readWord? (c :: more ++ rest) = none ∧ readNumber (c :: more ++ rest) = .ok (j, rest)) :
    Returns d style limit j := by
  intro fuel depth rest hfuel hrest
  rw [hwrite] at hfuel
  obtain _ | fuel := fuel
  · cases hfuel
  · rw [hwrite, List.cons_append, readValue_plain hquote hlist hmap]
    rcases hread rest hrest with hword | ⟨hword, hnumber⟩
    · rw [← List.cons_append, hword]
    · rw [← List.cons_append, hword, hnumber]

theorem returns_null : Returns d style limit .null :=
  returns_of_plain (fun _ => rfl) (by decide) (by decide) (by decide)
    fun _ _ => Or.inl rfl

theorem returns_bool (b : Bool) : Returns d style limit (.bool b) := by
  cases b with
  | true =>
    exact returns_of_plain (fun _ => rfl) (by decide) (by decide) (by decide)
      fun _ _ => Or.inl rfl
  | false =>
    exact returns_of_plain (fun _ => rfl) (by decide) (by decide) (by decide)
      fun _ _ => Or.inl rfl

theorem returns_int {n : Int} (hn : Decimal.isWritable n = true) : Returns d style limit (.int n) := by
  obtain ⟨c, more, hcons, hc⟩ := Decimal.intDigits_eq_cons n
  have hne {bracket : Char} (hminus : bracket ≠ '-') (hdigit : bracket.isDigit = false) :
      c ≠ bracket := by
    rintro rfl
    exact hc.elim hminus fun h => Bool.false_ne_true (hdigit.symm.trans h)
  refine returns_of_plain (fun _ => by rw [write_int, hcons]) (hne (by decide) (by decide))
    (hne (by decide) (by decide)) (hne (by decide) (by decide)) fun rest hrest => ?_
  rw [← hcons]
  exact Or.inr ⟨readWord?_intDigits n rest, readNumber_intDigits hn hrest⟩

theorem returns_text (s : String) : Returns d style limit (.text s) := by
  intro fuel depth rest hfuel _
  obtain ⟨behind, hwrite, hread⟩ := writeText_append style.asciiOnly s rest
  rw [write_text] at hfuel ⊢
  obtain _ | fuel := fuel
  · cases hfuel
  · rw [hwrite, readValue_quote, hread d]
    simp

/-! ## Lists -/

theorem length_writeItems_lt (hstyle : style.Legible) (depth : Nat) (v : Json) (vs : List Json) :
    (v.write style depth).length + (writeItems style depth vs).length <
      (writeItems style depth (v :: vs)).length := by
  obtain ⟨gaps, hbreak, -⟩ := hstyle.itemBreak_eq depth
  simp only [writeItems_cons, hbreak, List.length_append, List.length_cons]
  omega

/-- Behind an item that is read back the next one is read. -/
theorem readItems_next (hstyle : style.Legible) {v u : Json} {depth : Nat}
    (hreturns : Returns d style limit v) (hopens : Opens (u.write style depth)) {fuel : Nat}
    (hfuel : (v.write style depth).length ≤ fuel) (vs : List Json) (tail : List Char) :
    readItems d (fuel + 1) limit (v.write style depth ++ (writeItems style depth (u :: vs) ++ tail)) =
      match readItems d fuel limit (u.write style depth ++ (writeItems style depth vs ++ tail)) with
      | .ok (us, rest) => .ok (v :: us, rest)
      | .error e => .error e := by
  obtain ⟨gaps, hbreak, hgaps⟩ := hstyle.itemBreak_eq depth
  generalize hbehind : u.write style depth ++ (writeItems style depth vs ++ tail) = behind
  have hu : Opens behind := hbehind ▸ hopens.append _
  have hv := hreturns fuel depth (',' :: (gaps ++ behind)) hfuel (ends_cons.2 (by decide))
  have hcomma := skipGap_cons (c := ',') (by decide) (gaps ++ behind)
  have hnext := hu.skipGap_append hgaps
  simp only [writeItems_cons, hbreak, List.append_assoc, List.cons_append, hbehind]
  rw [readItems_succ, hv]
  rcases hmore : readItems d fuel limit behind with e | ⟨us, rest⟩
  · simp only [hcomma, hnext, hmore]
  · simp only [hcomma, hnext, hmore]

/-- The items of a list are read back up to its closing bracket. -/
theorem readItems_write (hstyle : style.Legible) {v : Json} {vs : List Json}
    (hopens : ∀ u ∈ v :: vs, ∀ depth, Opens (u.write style depth))
    (hreturns : ∀ u ∈ v :: vs, Returns d style limit u) {gaps : List Char}
    (hgaps : AreGaps gaps) (rest : List Char) (fuel depth : Nat)
    (hfuel : (v.write style depth).length + (writeItems style depth vs).length < fuel) :
    readItems d fuel limit
      (v.write style depth ++ (writeItems style depth vs ++ (gaps ++ ']' :: rest))) =
      .ok (v :: vs, rest) := by
  induction vs generalizing v fuel with
  | nil =>
    obtain _ | fuel := fuel
    · cases hfuel
    · have hends : Ends (gaps ++ ']' :: rest) := hgaps.ends (ends_cons.2 (by decide))
      have hv := hreturns v List.mem_cons_self fuel depth _ (by omega) hends
      have hclose := skipGap_of_stop (c := ']') hgaps (by decide) rest
      rw [writeItems_nil, List.nil_append, readItems_succ, hv]
      simp only [hclose]
  | cons u vs ih =>
    obtain _ | fuel := fuel
    · cases hfuel
    · obtain ⟨-, hopens⟩ := List.forall_mem_cons.1 hopens
      obtain ⟨hv, hreturns⟩ := List.forall_mem_cons.1 hreturns
      have hlength := length_writeItems_lt hstyle depth u vs
      rw [readItems_next hstyle hv (hopens u List.mem_cons_self depth) (by omega),
        ih hopens hreturns fuel (by omega)]

/-- Items of which one is refused are refused. -/
theorem readItems_refused (hstyle : style.Legible) {v : Json} {vs : List Json}
    (hopens : ∀ u ∈ v :: vs, ∀ depth, Opens (u.write style depth))
    (hall : ∀ u ∈ v :: vs, Returns d style limit u ∨ Refuses d style limit u)
    (hsome : ∃ u ∈ v :: vs, Refuses d style limit u) (tail : List Char) (fuel depth : Nat)
    (hfuel : (v.write style depth).length + (writeItems style depth vs).length < fuel) :
    readItems d fuel limit (v.write style depth ++ (writeItems style depth vs ++ tail)) =
      .error .malformed := by
  obtain ⟨x, hx, hrefused⟩ := hsome
  induction vs generalizing v fuel with
  | nil =>
    obtain _ | fuel := fuel
    · cases hfuel
    · obtain rfl := List.mem_singleton.1 hx
      rw [readItems_succ, hrefused fuel depth _ (by omega)]
  | cons u vs ih =>
    obtain _ | fuel := fuel
    · cases hfuel
    · obtain ⟨-, hopens⟩ := List.forall_mem_cons.1 hopens
      obtain ⟨hv, hall⟩ := List.forall_mem_cons.1 hall
      have hlength := length_writeItems_lt hstyle depth u vs
      by_cases hrefuses : Refuses d style limit v
      · rw [readItems_succ, hrefuses fuel depth _ (by omega)]
      · have hmem : x ∈ u :: vs := (List.mem_cons.1 hx).resolve_left fun h => hrefuses (h ▸ hrefused)
        rw [readItems_next hstyle (hv.resolve_right hrefuses) (hopens u List.mem_cons_self depth)
          (by omega), ih hopens hall fuel (by omega) hmem]

theorem readValue_list {gaps rest : List Char} (hgaps : AreGaps gaps) (h : Opens rest)
    (fuel limit : Nat) :
    readValue d (fuel + 1) limit ('[' :: (gaps ++ rest)) =
      match limit with
      | 0 => .error .malformed
      | limit + 1 =>
        match readItems d fuel limit rest with
        | .ok (items, rest) => .ok (.list items, rest)
        | .error e => .error e := by
  rw [readValue_bracket, h.skipGap_append hgaps]
  obtain ⟨c, more, rfl, hc⟩ := h
  split
  next heq =>
    obtain ⟨rfl, -⟩ := List.cons_eq_cons.1 heq
    exact absurd (by decide) hc
  next => rfl

/-- What reading a list that has been written makes of the reading of its items. -/
theorem readValue_write_list {v : Json} {vs : List Json}
    (hopens : ∀ u ∈ v :: vs, ∀ depth, Opens (u.write style depth)) (fuel limit depth : Nat)
    (rest : List Char) :
    readValue d (fuel + 1) limit ((Json.list (v :: vs)).write style depth ++ rest) =
      match limit with
      | 0 => .error .malformed
      | limit + 1 =>
        match readItems d fuel limit (v.write style (depth + 1) ++
          (writeItems style (depth + 1) vs ++ (style.openBreak depth ++ ']' :: rest))) with
        | .ok (items, rest) => .ok (.list items, rest)
        | .error e => .error e := by
  simp only [write_items, List.cons_append, List.append_assoc, List.nil_append]
  exact readValue_list (style.areGaps_openBreak (depth + 1))
    ((hopens v List.mem_cons_self _).append _) fuel limit

theorem returns_noItems : Returns d style limit (.list []) := by
  intro fuel depth rest hfuel _
  obtain _ | fuel := fuel
  · simp [write_noItems] at hfuel
  · have hclose := skipGap_cons (c := ']') (by decide) rest
    simp only [write_noItems, List.cons_append, List.nil_append, readValue_bracket, hclose]

theorem returns_list (hstyle : style.Legible) {items : List Json}
    (hfits : ∀ v ∈ items, v.Fits limit) (hreturns : ∀ v ∈ items, Returns d style limit v) :
    Returns d style (limit + 1) (.list items) := by
  cases items with
  | nil => exact returns_noItems
  | cons v vs =>
    intro fuel depth rest hfuel _
    obtain _ | fuel := fuel
    · simp [write_items] at hfuel
    have hopens : ∀ u ∈ v :: vs, ∀ depth, Opens (u.write style depth) :=
      fun u hu => (hfits u hu).opens style
    simp only [write_items, List.length_append, List.length_cons] at hfuel
    have hitems := readItems_write hstyle hopens hreturns (style.areGaps_openBreak depth) rest fuel
      (depth + 1) (by omega)
    simp only [readValue_write_list hopens, hitems]

theorem refuses_list (hstyle : style.Legible) {items : List Json}
    (hopens : ∀ u ∈ items, ∀ depth, Opens (u.write style depth))
    (hall : ∀ u ∈ items, Returns d style limit u ∨ Refuses d style limit u)
    (hsome : ∃ u ∈ items, Refuses d style limit u) : Refuses d style (limit + 1) (.list items) := by
  intro fuel depth rest hfuel
  obtain _ | fuel := fuel
  · exact readValue_zero _
  cases items with
  | nil =>
    obtain ⟨u, hu, -⟩ := hsome
    cases hu
  | cons v vs =>
    simp only [write_items, List.length_append, List.length_cons] at hfuel
    have hitems := readItems_refused hstyle hopens hall hsome
      (style.openBreak depth ++ ']' :: rest) fuel (depth + 1) (by omega)
    simp only [readValue_write_list hopens, hitems]

/-! ## Maps -/

/-- A field that has been written, with what stands behind it. -/
def fieldThen (style : Style) (depth : Nat) (e : String × Json) (tail : List Char) : List Char :=
  writeText style.asciiOnly e.1 ++ (style.keyGap.toList ++ (e.2.write style depth ++ tail))

theorem opens_fieldThen (depth : Nat) (e : String × Json) (tail : List Char) :
    Opens (fieldThen style depth e tail) := (opens_writeText style.asciiOnly e.1).append _

theorem length_writeFields_lt (hstyle : style.Legible) (depth : Nat) (e : String × Json)
    (fs : List (String × Json)) :
    (e.2.write style depth).length + (writeFields style depth fs).length <
      (writeFields style depth (e :: fs)).length := by
  obtain ⟨gaps, hbreak, -⟩ := hstyle.itemBreak_eq depth
  simp only [writeFields_cons, hbreak, List.length_append, List.length_cons]
  omega

theorem writeFields_append (hstyle : style.Legible) (depth : Nat) (e : String × Json)
    (fs : List (String × Json)) :
    ∃ gaps, AreGaps gaps ∧ ∀ tail, writeFields style depth (e :: fs) ++ tail =
      ',' :: (gaps ++ fieldThen style depth e (writeFields style depth fs ++ tail)) := by
  obtain ⟨gaps, hbreak, hgaps⟩ := hstyle.itemBreak_eq depth
  refine ⟨gaps, hgaps, fun tail => ?_⟩
  simp only [writeFields_cons, hbreak, fieldThen, List.append_assoc, List.cons_append]

/-- What the reader makes of a field behind others: of its value, and of what stands behind it. -/
def readBehind (d : Dialect) (fuel limit : Nat) (before : List (String × Json)) (key : String) :
    Except JsonFault (Json × List Char) → Except JsonFault (List (String × Json) × List Char)
  | .error e => .error e
  | .ok (v, rest) =>
    match skipGap rest with
    | '\x7d' :: rest => .ok (setField before key v, rest)
    | ',' :: rest => readFields d fuel limit (setField before key v) (skipGap rest)
    | _ => .error .malformed

theorem readFields_quote (fuel : Nat) (before : List (String × Json)) (rest : List Char) :
    readFields d (fuel + 1) limit before ('"' :: rest) =
      match readText? d rest rest with
      | none => .error .malformed
      | some (key, rest) =>
        match skipGap rest with
        | ':' :: rest =>
          readBehind d fuel limit before (String.ofList key) (readValue d fuel limit (skipGap rest))
        | _ => .error .malformed := rfl

/-- A field is read as its key and then its value. -/
theorem readFields_fieldThen (hstyle : style.Legible) {depth : Nat} {e : String × Json}
    (hopens : Opens (e.2.write style depth)) (fuel : Nat) (before : List (String × Json))
    (tail : List Char) :
    readFields d (fuel + 1) limit before (fieldThen style depth e tail) =
      readBehind d fuel limit before e.1
        (readValue d fuel limit (e.2.write style depth ++ tail)) := by
  obtain ⟨gaps, hkey, hgaps⟩ := hstyle.keyGap
  obtain ⟨behind, hwrite, hread⟩ := writeText_append style.asciiOnly e.1
    (style.keyGap.toList ++ (e.2.write style depth ++ tail))
  have hcolon : skipGap (style.keyGap.toList ++ (e.2.write style depth ++ tail)) =
      ':' :: (gaps ++ (e.2.write style depth ++ tail)) := by
    rw [hkey, List.cons_append, skipGap_cons (by decide)]
  have hvalue := (hopens.append tail).skipGap_append hgaps
  rw [fieldThen, hwrite, readFields_quote, hread d]
  simp only [hcolon, hvalue, String.ofList_toList]

/-- Behind a field that is read back the next one is read. -/
theorem readFields_next (hstyle : style.Legible) {depth : Nat} {e : String × Json}
    (hopens : Opens (e.2.write style depth)) (hreturns : Returns d style limit e.2) {fuel : Nat}
    (hfuel : (e.2.write style depth).length ≤ fuel) (before : List (String × Json))
    (f : String × Json) (fs : List (String × Json)) (tail : List Char) :
    readFields d (fuel + 1) limit before
        (fieldThen style depth e (writeFields style depth (f :: fs) ++ tail)) =
      readFields d fuel limit (setField before e.1 e.2)
        (fieldThen style depth f (writeFields style depth fs ++ tail)) := by
  obtain ⟨gaps, hgaps, hcons⟩ := writeFields_append hstyle depth f fs
  have hv := hreturns fuel depth (',' :: (gaps ++ fieldThen style depth f
    (writeFields style depth fs ++ tail))) hfuel (ends_cons.2 (by decide))
  have hcomma := skipGap_cons (c := ',') (by decide)
    (gaps ++ fieldThen style depth f (writeFields style depth fs ++ tail))
  rw [readFields_fieldThen hstyle hopens, hcons, hv]
  simp only [readBehind, hcomma, (opens_fieldThen depth f _).skipGap_append hgaps]

/-- The fields of a map are read back up to its closing brace, behind those that have been read. -/
theorem readFields_write (hstyle : style.Legible) {e : String × Json} {fs : List (String × Json)}
    (hopens : ∀ f ∈ e :: fs, ∀ depth, Opens (f.2.write style depth))
    (hreturns : ∀ f ∈ e :: fs, Returns d style limit f.2) {gaps : List Char}
    (hgaps : AreGaps gaps) (rest : List Char) (before : List (String × Json))
    (hkeys : ((before ++ e :: fs).map Prod.fst).Nodup) (fuel depth : Nat)
    (hfuel : (e.2.write style depth).length + (writeFields style depth fs).length < fuel) :
    readFields d fuel limit before
      (fieldThen style depth e (writeFields style depth fs ++ (gaps ++ '\x7d' :: rest))) =
      .ok (before ++ e :: fs, rest) := by
  induction fs generalizing e before fuel with
  | nil =>
    obtain _ | fuel := fuel
    · cases hfuel
    · have hnew : e.1 ∉ before.map Prod.fst := notMem_before (by simpa using hkeys)
      have hends : Ends (gaps ++ '\x7d' :: rest) := hgaps.ends (ends_cons.2 (by decide))
      have hv := hreturns e List.mem_cons_self fuel depth _ (by omega) hends
      have hclose := skipGap_of_stop (c := '\x7d') hgaps (by decide) rest
      rw [readFields_fieldThen hstyle (hopens e List.mem_cons_self depth), writeFields_nil,
        List.nil_append, hv]
      simp only [readBehind, hclose, setField_of_notMem hnew]
  | cons f fs ih =>
    obtain _ | fuel := fuel
    · cases hfuel
    · obtain ⟨hopen, hopens⟩ := List.forall_mem_cons.1 hopens
      obtain ⟨hv, hreturns⟩ := List.forall_mem_cons.1 hreturns
      have hnew : e.1 ∉ before.map Prod.fst := notMem_before (by simpa using hkeys)
      have hlength := length_writeFields_lt hstyle depth f fs
      rw [readFields_next hstyle (hopen depth) hv (by omega), setField_of_notMem hnew,
        ih hopens hreturns _ (by simpa using hkeys) fuel (by omega)]
      simp

/-- Fields of which one has a value that is refused are refused. -/
theorem readFields_refused (hstyle : style.Legible) {e : String × Json} {fs : List (String × Json)}
    (hopens : ∀ f ∈ e :: fs, ∀ depth, Opens (f.2.write style depth))
    (hall : ∀ f ∈ e :: fs, Returns d style limit f.2 ∨ Refuses d style limit f.2)
    (hsome : ∃ f ∈ e :: fs, Refuses d style limit f.2) (tail : List Char)
    (before : List (String × Json)) (fuel depth : Nat)
    (hfuel : (e.2.write style depth).length + (writeFields style depth fs).length < fuel) :
    readFields d fuel limit before
      (fieldThen style depth e (writeFields style depth fs ++ tail)) = .error .malformed := by
  obtain ⟨x, hx, hrefused⟩ := hsome
  induction fs generalizing e before fuel with
  | nil =>
    obtain _ | fuel := fuel
    · cases hfuel
    · obtain rfl := List.mem_singleton.1 hx
      rw [readFields_fieldThen hstyle (hopens x hx depth), hrefused fuel depth _ (by omega)]
      rfl
  | cons f fs ih =>
    obtain _ | fuel := fuel
    · cases hfuel
    · obtain ⟨hopen, hopens⟩ := List.forall_mem_cons.1 hopens
      obtain ⟨hv, hall⟩ := List.forall_mem_cons.1 hall
      have hlength := length_writeFields_lt hstyle depth f fs
      by_cases hrefuses : Refuses d style limit e.2
      · rw [readFields_fieldThen hstyle (hopen depth), hrefuses fuel depth _ (by omega)]
        rfl
      · have hmem : x ∈ f :: fs := (List.mem_cons.1 hx).resolve_left fun h => hrefuses (h ▸ hrefused)
        rw [readFields_next hstyle (hopen depth) (hv.resolve_right hrefuses) (by omega),
          ih hopens hall _ fuel (by omega) hmem]

theorem readValue_map {gaps rest : List Char} (hgaps : AreGaps gaps) (h : Opens rest)
    (fuel limit : Nat) :
    readValue d (fuel + 1) limit ('\x7b' :: (gaps ++ rest)) =
      match limit with
      | 0 => .error .malformed
      | limit + 1 =>
        match readFields d fuel limit [] rest with
        | .ok (fields, rest) => .ok (.map fields, rest)
        | .error e => .error e := by
  rw [readValue_brace, h.skipGap_append hgaps]
  obtain ⟨c, more, rfl, hc⟩ := h
  split
  next heq =>
    obtain ⟨rfl, -⟩ := List.cons_eq_cons.1 heq
    exact absurd (by decide) hc
  next => rfl

/-- What reading a map that has been written makes of the reading of its fields. -/
theorem readValue_write_map (e : String × Json) (fs : List (String × Json)) (fuel limit depth : Nat)
    (rest : List Char) :
    readValue d (fuel + 1) limit ((Json.map (e :: fs)).write style depth ++ rest) =
      match limit with
      | 0 => .error .malformed
      | limit + 1 =>
        match readFields d fuel limit [] (fieldThen style (depth + 1) e
          (writeFields style (depth + 1) fs ++ (style.openBreak depth ++ '\x7d' :: rest))) with
        | .ok (fields, rest) => .ok (.map fields, rest)
        | .error e => .error e := by
  rw [← readValue_map (style.areGaps_openBreak (depth + 1)) (opens_fieldThen (depth + 1) e _) fuel]
  simp only [write_fields, fieldThen, List.cons_append, List.append_assoc, List.nil_append]

theorem returns_noFields : Returns d style limit (.map []) := by
  intro fuel depth rest hfuel _
  obtain _ | fuel := fuel
  · simp [write_noFields] at hfuel
  · have hclose := skipGap_cons (c := '\x7d') (by decide) rest
    simp only [write_noFields, List.cons_append, List.nil_append, readValue_brace, hclose]

theorem returns_map (hstyle : style.Legible) {fields : List (String × Json)}
    (hkeys : (fields.map Prod.fst).Nodup) (hfits : ∀ e ∈ fields, e.2.Fits limit)
    (hreturns : ∀ e ∈ fields, Returns d style limit e.2) :
    Returns d style (limit + 1) (.map fields) := by
  cases fields with
  | nil => exact returns_noFields
  | cons e fs =>
    intro fuel depth rest hfuel _
    obtain _ | fuel := fuel
    · simp [write_fields] at hfuel
    have hopens : ∀ f ∈ e :: fs, ∀ depth, Opens (f.2.write style depth) :=
      fun f hf => (hfits f hf).opens style
    simp only [write_fields, List.length_append, List.length_cons] at hfuel
    have hfields := readFields_write hstyle hopens hreturns (style.areGaps_openBreak depth) rest []
      hkeys fuel (depth + 1) (by omega)
    simp only [readValue_write_map, hfields, List.nil_append]

theorem refuses_map (hstyle : style.Legible) {fields : List (String × Json)}
    (hopens : ∀ f ∈ fields, ∀ depth, Opens (f.2.write style depth))
    (hall : ∀ f ∈ fields, Returns d style limit f.2 ∨ Refuses d style limit f.2)
    (hsome : ∃ f ∈ fields, Refuses d style limit f.2) :
    Refuses d style (limit + 1) (.map fields) := by
  intro fuel depth rest hfuel
  obtain _ | fuel := fuel
  · exact readValue_zero _
  cases fields with
  | nil =>
    obtain ⟨f, hf, -⟩ := hsome
    cases hf
  | cons e fs =>
    simp only [write_fields, List.length_append, List.length_cons] at hfuel
    have hfields := readFields_refused hstyle hopens hall hsome
      (style.openBreak depth ++ '\x7d' :: rest) [] fuel (depth + 1) (by omega)
    simp only [readValue_write_map, hfields]

/-! ## Texts of values -/

theorem Fits.returns (hstyle : style.Legible) (h : j.Fits limit) : Returns d style limit j := by
  induction h with
  | null => exact returns_null
  | bool b => exact returns_bool b
  | int hn => exact returns_int hn
  | text s => exact returns_text s
  | noItems => exact returns_noItems
  | noFields => exact returns_noFields
  | list hfits ih => exact returns_list hstyle hfits ih
  | map hkeys hfits ih => exact returns_map hstyle hkeys hfits ih

/-- Where nothing may nest a list holds nothing, or it is refused. -/
theorem fits_or_refuses_list_zero {items : List Json}
    (hopens : ∀ v ∈ items, ∀ depth, Opens (v.write style depth)) :
    (Json.list items).Fits 0 ∨ Refuses d style 0 (.list items) := by
  cases items with
  | nil => exact Or.inl .noItems
  | cons v vs =>
    refine Or.inr fun fuel depth rest _ => ?_
    obtain _ | fuel := fuel
    · exact readValue_zero _
    · rw [readValue_write_list hopens]

/-- Where nothing may nest a map holds nothing, or it is refused. -/
theorem fits_or_refuses_map_zero (fields : List (String × Json)) :
    (Json.map fields).Fits 0 ∨ Refuses d style 0 (.map fields) := by
  cases fields with
  | nil => exact Or.inl .noFields
  | cons e fs =>
    refine Or.inr fun fuel depth rest _ => ?_
    obtain _ | fuel := fuel
    · exact readValue_zero _
    · rw [readValue_write_map]

/-- A value is refused if it nests deeper than the reader goes. -/
theorem Fits.fits_or_refuses (hstyle : style.Legible) {deep : Nat} (h : j.Fits deep) (limit : Nat) :
    j.Fits limit ∨ Refuses d style limit j := by
  induction h generalizing limit with
  | null => exact Or.inl .null
  | bool b => exact Or.inl (.bool b)
  | int hn => exact Or.inl (.int hn)
  | text s => exact Or.inl (.text s)
  | noItems => exact Or.inl .noItems
  | noFields => exact Or.inl .noFields
  | @list _ items hfits ih =>
    obtain _ | limit := limit
    · exact fits_or_refuses_list_zero fun v hv => (hfits v hv).opens style
    by_cases hall : ∀ v ∈ items, v.Fits limit
    · exact Or.inl (.list hall)
    · simp only [not_forall] at hall
      obtain ⟨v, hv, hnot⟩ := hall
      refine Or.inr (refuses_list hstyle (fun u hu => (hfits u hu).opens style) ?_ ?_)
      · exact fun u hu => (ih u hu limit).imp_left fun hu => hu.returns hstyle
      · exact ⟨v, hv, (ih v hv limit).resolve_left hnot⟩
  | @map _ fields hkeys hfits ih =>
    obtain _ | limit := limit
    · exact fits_or_refuses_map_zero fields
    by_cases hall : ∀ e ∈ fields, e.2.Fits limit
    · exact Or.inl (.map hkeys hall)
    · simp only [not_forall] at hall
      obtain ⟨e, he, hnot⟩ := hall
      refine Or.inr (refuses_map hstyle (fun f hf => (hfits f hf).opens style) ?_ ?_)
      · exact fun f hf => (ih f hf limit).imp_left fun hf => hf.returns hstyle
      · exact ⟨e, he, (ih e he limit).resolve_left hnot⟩

theorem skipGap_toList_render (h : j.Fits limit) (style : Style) :
    skipGap (j.render style).toList = j.write style 0 := by
  have hskip : skipGap ([] ++ j.write style 0) = j.write style 0 :=
    (h.opens style 0).skipGap_append (List.forall_mem_nil _)
  rw [render, String.toList_ofList]
  exact hskip

theorem length_toList_render (style : Style) :
    (j.render style).toList.length = (j.write style 0).length := by
  rw [render, String.toList_ofList]

/-- Reading the text of a value gives the value, if it nests no deeper than the reader goes. -/
theorem read_render (hstyle : style.Legible) (h : j.Fits (d.depthIn (j.write style 0).length)) :
    read d (j.render style) = .ok j := by
  have hvalue := h.returns (d := d) hstyle (2 * (j.write style 0).length + 2) 0 [] (by omega) ends_nil
  have hend : skipGap [] = [] := rfl
  rw [List.append_nil] at hvalue
  simp [read, skipGap_toList_render h, length_toList_render, hvalue, hend]

/-- The text of a value that nests deeper than the reader goes is refused. -/
theorem read_render_eq_error (hstyle : style.Legible) {deep : Nat} (h : j.Fits deep)
    (hnot : ¬ j.Fits (d.depthIn (j.write style 0).length)) :
    read d (j.render style) = .error .malformed := by
  have hrefuses :=
    (h.fits_or_refuses (d := d) hstyle (d.depthIn (j.write style 0).length)).resolve_left hnot
  have hvalue := hrefuses (2 * (j.write style 0).length + 2) 0 [] (by omega)
  rw [List.append_nil] at hvalue
  simp [read, skipGap_toList_render h, length_toList_render, hvalue]

end Remediation.Json
