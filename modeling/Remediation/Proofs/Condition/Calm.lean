import Remediation.Condition.Evaluation
import Remediation.Proofs.Fields
/-!
# Operands that stop nothing

Instants are all that stops a comparison, and records all that stops the look at a member.  Operands in
which there are neither (`Calm`) are calculated with and compared without a stop, and what is taken from
them or made of them is calm again.
-/

set_option autoImplicit false

namespace Remediation

namespace Condition

namespace Operand

/-- An operand without parts that is no instant. -/
def isPlain : Operand → Bool
  | .list _ | .bareList _ | .map _ | .record _ | .names _ | .instant _ => false
  | _ => true

/-- An operand in which there are neither instants nor records. -/
inductive Calm : Operand → Prop where
  | plain {a : Operand} : a.isPlain = true → Calm a
  | list {items : List Operand} : (∀ a ∈ items, Calm a) → Calm (.list items)
  | bareList {items : List Operand} : (∀ a ∈ items, Calm a) → Calm (.bareList items)
  | map {entries : List (Operand × Operand)} : (∀ e ∈ entries, Calm e.1) →
      (∀ e ∈ entries, Calm e.2) → Calm (.map entries)
  | names {entries : List (String × Operand)} : (∀ e ∈ entries, Calm e.2) → Calm (.names entries)

variable {a b c : Operand} {strict swapped : Bool} {test : Ordering → Bool}

namespace Calm

theorem ne_instant (h : Calm a) (i : Instant) : a ≠ .instant i := by
  rintro rfl
  cases h with
  | plain hplain => cases hplain

theorem ne_record (h : Calm a) (entries : List (Operand × Operand)) : a ≠ .record entries := by
  rintro rfl
  cases h with
  | plain hplain => cases hplain

theorem of_mem_list {items : List Operand} (h : Calm (.list items)) : ∀ a ∈ items, Calm a := by
  cases h with
  | plain hplain => cases hplain
  | list hitems => exact hitems

theorem of_mem_bareList {items : List Operand} (h : Calm (.bareList items)) :
    ∀ a ∈ items, Calm a := by
  cases h with
  | plain hplain => cases hplain
  | bareList hitems => exact hitems

theorem of_mem_map {entries : List (Operand × Operand)} (h : Calm (.map entries)) :
    ∀ e ∈ entries, Calm e.1 ∧ Calm e.2 := by
  cases h with
  | plain hplain => cases hplain
  | map hkeys hvalues => exact fun e he => ⟨hkeys e he, hvalues e he⟩

theorem of_mem_names {entries : List (String × Operand)} (h : Calm (.names entries)) :
    ∀ e ∈ entries, Calm e.2 := by
  cases h with
  | plain hplain => cases hplain
  | names hentries => exact hentries

theorem ofBool (b : Bool) : Calm (.ofBool b) := .plain rfl

theorem failure (cause : Failure) : Calm (.failure cause) := .plain rfl

theorem unsuited (operation : String) (operands : List Operand) :
    Calm (Operand.unsuited operation operands) := .plain rfl

theorem bareText (s : String) : Calm (.bareText s) := .plain rfl

/-- The items of a calm operand are calm. -/
theorem items (h : Calm a) {xs : List Operand} (hitems : a.items? = some xs) : ∀ x ∈ xs, Calm x := by
  cases a with
  | list => exact Option.some.inj hitems ▸ h.of_mem_list
  | bareList => exact Option.some.inj hitems ▸ h.of_mem_bareList
  | _ => cases hitems

/-- What a calm operand yields one by one is calm. -/
theorem parts (h : Calm a) {xs : List Operand} (hparts : a.parts? = some xs) : ∀ x ∈ xs, Calm x := by
  cases a with
  | list => exact Option.some.inj hparts ▸ h.of_mem_list
  | bareList => exact Option.some.inj hparts ▸ h.of_mem_bareList
  | map entries =>
    obtain rfl := Option.some.inj hparts
    exact List.forall_mem_map.2 fun e he => (h.of_mem_map e he).1
  | record entries => exact absurd rfl (h.ne_record entries)
  | text | bareText =>
    obtain rfl := Option.some.inj hparts
    exact List.forall_mem_map.2 fun c _ => .bareText _
  | bytes | bareBytes =>
    obtain rfl := Option.some.inj hparts
    exact List.forall_mem_map.2 fun c _ => .plain rfl
  | names entries =>
    obtain rfl := Option.some.inj hparts
    exact List.forall_mem_map.2 fun e _ => .bareText e.1
  | _ => cases hparts

end Calm

/-! ## Comparing -/

/-- A comparison that misfits, if it does, for the types of its operands. -/
def TypesOnly {α : Type} (x : Except Misfit α) : Prop := ∀ m, x = .error m → m = .types

namespace TypesOnly

variable {α β : Type} {x : Except Misfit α}

theorem ok (a : α) : TypesOnly (.ok a) := nofun

theorem types : TypesOnly (.error .types : Except Misfit α) := by
  intro m h
  exact (Except.error.inj h).symm

theorem ite {p : Prop} [Decidable p] {x y : Except Misfit α} (hx : TypesOnly x)
    (hy : TypesOnly y) : TypesOnly (if p then x else y) := by
  split
  · exact hx
  · exact hy

/-- A misfit that is passed on. -/
theorem of_eq (h : TypesOnly x) {m : Misfit} (hx : x = .error m) :
    TypesOnly (.error m : Except Misfit β) := h m hx ▸ types

theorem map (h : TypesOnly x) (f : α → β) : TypesOnly (x.map f) := by
  cases x with
  | ok a => exact ok _
  | error m => exact h.of_eq rfl

theorem bind (h : TypesOnly x) {f : α → Except Misfit β} (hf : ∀ a, TypesOnly (f a)) :
    TypesOnly (x.bind f) := by
  cases x with
  | ok a => exact hf a
  | error m => exact h.of_eq rfl

end TypesOnly

theorem typesOnly_equalScalars (h : ∀ i j, a = .instant i → b ≠ .instant j) :
    TypesOnly (equalScalars a b) := by
  unfold equalScalars
  split
  case h_6 i j => exact absurd rfl (h i j rfl)
  case h_7 => split <;> exact .ok _
  all_goals exact .ok _

theorem typesOnly_compareScalars (h : ∀ i j, a = .instant i → b ≠ .instant j) :
    TypesOnly (compareScalars a b) := by
  unfold compareScalars
  split
  · exact .ok _
  · split
    · exact .types
    · split
      next i j _ _ => exact absurd rfl (h i j rfl)
      next =>
        split
        case h_4 => exact .types
        all_goals exact .ok _

theorem typesOnly_under? (h : ∀ i, a ≠ .instant i) (entries : List (Operand × Operand)) :
    TypesOnly (under? entries a) := by
  have hgo (code : Code) : TypesOnly (under?.go a code entries) := by
    induction entries with
    | nil => exact .ok none
    | cons e rest ih =>
      obtain ⟨stored, b⟩ := e
      rw [under?.go]
      split
      · have hkey : TypesOnly (sameKey stored a) := by
          unfold sameKey
          split
          · exact typesOnly_equalScalars fun i j _ => h j
          · exact .types
        split
        next => exact .ok _
        next => exact ih
        next m hm => exact hkey.of_eq hm
      · exact ih
  unfold under?
  split
  · split
    · exact .ok none
    · exact .types
  · exact hgo _

theorem Agreement.typesOnly_add (x : Agreement) {part : Except Misfit Bool} (h : TypesOnly part) :
    TypesOnly (x.add part) := by
  rcases part with m | b
  · obtain rfl := h m rfl
    cases x with
    | equal | different => exact .ok _
    | unclear => exact .types
  · cases x <;> exact .ok _

theorem Agreement.typesOnly_conclude (x : Agreement) : TypesOnly x.conclude := by
  cases x with
  | equal | different => exact .ok _
  | unclear => exact .types

theorem typesOnly_hasKeys {keys : List Operand} (h : ∀ k ∈ keys, Calm k)
    (entries : List (Operand × Operand)) : TypesOnly (hasKeys entries keys) := by
  induction keys with
  | nil => exact .ok true
  | cons k rest ih =>
    obtain ⟨hk, hrest⟩ := List.forall_mem_cons.1 h
    rw [hasKeys]
    split
    next => exact ih hrest
    next => exact .ok false
    next m hunder => exact (typesOnly_under? hk.ne_instant entries).of_eq hunder

theorem typesOnly_sameKeys {xs : List (Operand × Operand)} (h : ∀ e ∈ xs, Calm e.1) :
    TypesOnly (sameKeys strict xs b) := by
  unfold sameKeys
  split
  next ys _ =>
    split
    · exact (typesOnly_hasKeys (List.forall_mem_map.2 h) ys).map _
    · exact .ok none
  next =>
    split
    · exact .ok none
    · exact .types

section Parts

variable {xs : List Operand}

theorem typesOnly_agreeItems (h : ∀ x ∈ xs, ∀ strict swapped b, TypesOnly (agree strict swapped x b))
    (ys : List Operand) (x : Agreement) : TypesOnly (agreeItems strict swapped xs ys x) := by
  induction xs generalizing ys x with
  | nil => exact .ok x
  | cons a rest ih =>
    obtain ⟨ha, hrest⟩ := List.forall_mem_cons.1 h
    cases ys with
    | nil => exact .ok x
    | cons b ys =>
      rw [agreeItems]
      split
      next => exact ih hrest _ _
      next m hadd => exact (x.typesOnly_add (ha _ _ _)).of_eq hadd

theorem typesOnly_agreeBare (h : ∀ x ∈ xs, ∀ strict swapped b, TypesOnly (agree strict swapped x b))
    (ys : List Operand) : TypesOnly (agreeBare swapped xs ys) := by
  induction xs generalizing ys with
  | nil => exact .ok true
  | cons a rest ih =>
    obtain ⟨ha, hrest⟩ := List.forall_mem_cons.1 h
    cases ys with
    | nil => exact .ok true
    | cons b ys =>
      rw [agreeBare]
      split
      · exact ih hrest ys
      · exact ha _ _ _

theorem typesOnly_agreeEntries {xs : List (Operand × Operand)} (hkeys : ∀ e ∈ xs, Calm e.1)
    (h : ∀ e ∈ xs, ∀ strict swapped b, TypesOnly (agree strict swapped e.2 b))
    (ys : List (Operand × Operand)) (x : Agreement) :
    TypesOnly (agreeEntries strict swapped xs ys x) := by
  induction xs generalizing x with
  | nil => exact .ok x
  | cons e rest ih =>
    obtain ⟨k, a⟩ := e
    obtain ⟨hk, hkeys⟩ := List.forall_mem_cons.1 hkeys
    obtain ⟨ha, hrest⟩ := List.forall_mem_cons.1 h
    rw [agreeEntries]
    split
    · exact .types
    · split
      next =>
        split
        next => exact ih hkeys hrest _
        next m hadd => exact (x.typesOnly_add (ha _ _ _)).of_eq hadd
      next => exact .ok _
      next m hunder => exact (typesOnly_under? hk.ne_instant ys).of_eq hunder

end Parts

/-- Whether a calm operand agrees with another one is known, if their types fit. -/
theorem Calm.typesOnly_agree (h : Calm a) (strict swapped : Bool) (b : Operand) :
    TypesOnly (agree strict swapped a b) := by
  have hscalars {a : Operand} (ha : Calm a) (b : Operand) : TypesOnly (equalScalars a b) :=
    typesOnly_equalScalars fun i _ hi => absurd hi (ha.ne_instant i)
  -- The induction is on the left operand: only its parts are asked about, whatever stands to the right.
  induction h generalizing strict swapped b with
  | @plain a hplain =>
    cases a with
    | list | bareList | map | record | names | instant => cases hplain
    | _ =>
      rw [agree.eq_def]
      dsimp only
      split
      · exact .ite (.ok false) .types
      · exact .ite (.ok false) .types
      · exact .ite (.ok false) .types
      · exact .ite (hscalars (.plain hplain) _) .types
  | list _ ih =>
    rw [agree.eq_def]
    dsimp only
    split
    · exact .ite ((typesOnly_agreeItems ih _ _).bind Agreement.typesOnly_conclude) (.ok false)
    · exact .ite ((typesOnly_agreeItems ih _ _).bind Agreement.typesOnly_conclude) (.ok false)
    · exact .ite (.ok false) .types
  | bareList _ ih =>
    rw [agree.eq_def]
    dsimp only
    split
    · exact .ite ((typesOnly_agreeItems ih _ _).bind Agreement.typesOnly_conclude) (.ok false)
    · exact .ite (typesOnly_agreeBare ih _) (.ok false)
    · exact .ite .types (.ok false)
  | map hkeys _ _ ih =>
    rw [agree.eq_def]
    dsimp only
    split
    next => exact (typesOnly_agreeEntries hkeys ih _ _).bind Agreement.typesOnly_conclude
    next => exact .ok false
    next m hsame => exact (typesOnly_sameKeys hkeys).of_eq hsame
  | names hentries =>
    rw [agree.eq_def]
    dsimp only
    split
    · exact .ite (.ok false) .types
    · exact .ite (.ok false) .types
    · exact .ite (.ok false) .types
    · exact .ite (hscalars (.names hentries) _) .types

theorem Calm.typesOnly_equals (h : Calm a) (b : Operand) : TypesOnly (a.equals b) :=
  h.typesOnly_agree false false b

theorem Calm.typesOnly_differs (h : Calm a) (b : Operand) : TypesOnly (a.differs b) :=
  (h.typesOnly_agree true false b).map _

theorem Calm.typesOnly_ordered (h : Calm a) (test : Ordering → Bool) (b : Operand) :
    TypesOnly (ordered test a b) := by
  have hpasses {a : Operand} (ha : Calm a) (b : Operand) : TypesOnly (passes test a b) := by
    unfold passes
    split
    next => exact .ok _
    next => exact .ok _
    next m hcompare =>
      exact (typesOnly_compareScalars fun i _ hi => absurd hi (ha.ne_instant i)).of_eq hcompare
  induction h generalizing b with
  | @plain a hplain =>
    cases a with
    | list | bareList | map | record | names | instant => cases hplain
    | _ => exact hpasses (.plain hplain) b
  | list hitems => exact hpasses (.list hitems) b
  | map hkeys hvalues => exact hpasses (.map hkeys hvalues) b
  | names hentries => exact hpasses (.names hentries) b
  | @bareList xs hitems ih =>
    have hlists (xs : List Operand) (hitems : ∀ x ∈ xs, Calm x)
        (ih : ∀ x ∈ xs, ∀ b, TypesOnly (ordered test x b)) (ys : List Operand) :
        TypesOnly (orderedItems test xs ys) := by
      induction xs generalizing ys with
      | nil => cases ys <;> exact .ok _
      | cons x xs ihs =>
        obtain ⟨hx, hxs⟩ := List.forall_mem_cons.1 hitems
        obtain ⟨ihx, ihxs⟩ := List.forall_mem_cons.1 ih
        cases ys with
        | nil => exact .ok _
        | cons y ys =>
          rw [orderedItems]
          split
          next => exact ihs hxs ihxs ys
          next => exact ihx y
          next m hequal => exact (hx.typesOnly_equals y).of_eq hequal
    cases b with
    | bareList ys => exact hlists xs hitems ih ys
    | _ => exact .types

theorem Calm.typesOnly_within (h : Calm b) (a : Operand) : TypesOnly (a.within b) := by
  have hparts (unclear : Bool) {parts : List Operand} (hcalm : ∀ p ∈ parts, Calm p) :
      TypesOnly (withinParts a unclear parts) := by
    induction parts generalizing unclear with
    | nil =>
      rw [withinParts]
      split
      · exact .types
      · exact .ok false
    | cons p rest ih =>
      obtain ⟨hp, hrest⟩ := List.forall_mem_cons.1 hcalm
      rw [withinParts]
      split
      next => exact .ok true
      next => exact ih unclear hrest
      next => exact ih true hrest
      next hequal => exact (hp.typesOnly_equals a).of_eq hequal
  unfold within
  split
  next parts hsome => exact hparts false (h.parts hsome)
  next => exact .types

/-! ## Calculating -/

/-- A result that is calm, if there is one. -/
def Yields (x : Option Operand) : Prop := ∀ c, x = some c → Calm c

namespace Yields

variable {α : Type}

theorem none : Yields none := nofun

theorem some (h : Calm a) : Yields (some a) := by
  rintro c ⟨⟩
  exact h

theorem ite {p : Prop} [Decidable p] {x y : Option Operand} (hx : Yields x) (hy : Yields y) :
    Yields (if p then x else y) := by
  split
  · exact hx
  · exact hy

theorem map {f : α → Operand} (h : ∀ x, Calm (f x)) (x : Option α) : Yields (x.map f) := by
  cases x with
  | none => exact none
  | some x => exact some (h x)

theorem bind {f : α → Option Operand} (h : ∀ x, Yields (f x)) (x : Option α) :
    Yields (x.bind f) := by
  cases x with
  | none => exact none
  | some x => exact h x

theorem or {x y : Option Operand} (hx : Yields x) (hy : Yields y) : Yields (x.or y) := by
  cases x with
  | none => exact hy
  | some x => exact hx

end Yields

theorem yields_int64? (n : Int) : Yields (int64? n) := .ite (.some (.plain rfl)) .none

theorem yields_uint64? (n : Int) : Yields (uint64? n) := .ite (.some (.plain rfl)) .none

theorem yields_calculate (whole : Int → Int → Int) (float : Float → Float → Float) (a b : Operand) :
    Yields (calculate whole float a b) := by
  unfold calculate
  split
  · unfold wholeResult
    split
    · exact yields_int64? _
    · exact yields_int64? _
    · exact yields_uint64? _
    · exact yields_uint64? _
    · exact .some (.plain rfl)
  · refine .ite .none ?_
    split
    · exact .some (.plain rfl)
    · exact .none

theorem yields_intQuotient (m : Int) (b : Operand) : Yields (intQuotient m b) := by
  unfold intQuotient
  split
  · exact .ite .none (yields_int64? _)
  · exact .ite .none (.bind yields_int64? _)
  · exact .none

theorem yields_numberQuotient (a b : Operand) : Yields (numberQuotient a b) := by
  unfold numberQuotient
  split
  case h_1 | h_2 => exact .bind (fun m => yields_intQuotient m b) _
  case h_3 | h_4 =>
    split
    · exact .ite .none (yields_uint64? _)
    · exact .none
  case h_5 | h_6 => exact .none
  case h_7 | h_8 =>
    split
    · exact .some (.plain rfl)
    · exact .none
  case h_9 =>
    split
    · exact .ite .none (.some (.plain rfl))
    · split
      · exact .ite .none (.some (.plain rfl))
      · exact .none

theorem yields_spanTimes (n : Int) (b : Operand) : Yields (spanTimes n b) := by
  unfold spanTimes
  split
  · exact .map (fun _ => .plain rfl) _
  · exact .bind (fun _ => .map (fun _ => .plain rfl) _) _
  · exact .none

theorem yields_spanThrough (n : Int) (b : Operand) : Yields (spanThrough n b) := by
  unfold spanThrough
  split
  · exact .ite .none (.map (fun _ => .plain rfl) _)
  · exact .bind (fun _ => .ite .none (.map (fun _ => .plain rfl) _)) _
  · exact .none

theorem yields_repeated (h : Calm a) (n : Nat) : Yields (repeated a n) := by
  unfold repeated
  split
  · exact .some (.plain rfl)
  · exact .some (.plain rfl)
  next hitems _ _ =>
    refine .some (.bareList fun x hx => ?_)
    obtain ⟨copy, hcopy, hmem⟩ := List.mem_flatten.1 hx
    rw [List.eq_of_mem_replicate hcopy] at hmem
    exact h.items hitems x hmem
  · exact .none

theorem yields_add (ha : Calm a) (hb : Calm b) : Yields (a.add b) := by
  unfold add
  split
  next => exact absurd rfl (ha.ne_instant _)
  next => exact absurd rfl (hb.ne_instant _)
  next =>
    split
    · unfold spanSum
      exact .ite (.map (fun _ => .plain rfl) _) (.map (fun _ => .plain rfl) _)
    · exact .some (.plain rfl)
    · split
      · exact .some (.plain rfl)
      next hxs hys _ =>
        exact .some (.bareList (List.forall_mem_append.2 ⟨ha.items hxs, hb.items hys⟩))
      · exact yields_calculate _ _ _ _

theorem yields_sub (ha : Calm a) : Yields (a.sub b) := by
  unfold sub
  split
  next => exact absurd rfl (ha.ne_instant _)
  next => exact absurd rfl (ha.ne_instant _)
  next =>
    split
    · exact .map (fun _ => .plain rfl) _
    · exact yields_calculate _ _ _ _

theorem yields_mul (ha : Calm a) (hb : Calm b) : Yields (a.mul b) := by
  unfold mul
  split
  · exact yields_spanTimes _ _
  · exact .ite .none (yields_spanTimes _ _)
  · split
    · exact .or (yields_repeated ha _) (yields_calculate _ _ _ _)
    · exact .or (yields_repeated hb _) (yields_calculate _ _ _ _)
    · exact yields_calculate _ _ _ _

theorem yields_div (a b : Operand) : Yields (a.div b) := by
  unfold div
  split
  · exact .ite .none (.some (.plain rfl))
  · exact yields_spanThrough _ _
  · exact .none
  · exact .ite (.some (.plain rfl)) (yields_numberQuotient a b)

theorem yields_neg (a : Operand) : Yields a.neg := by
  unfold neg
  split
  · exact yields_int64? _
  · exact .some (.plain rfl)
  · exact .some (.plain rfl)
  · exact .some (.plain rfl)
  · exact .map (fun _ => .plain rfl) _
  · exact .map (fun _ => .plain rfl) _
  · exact .none

/-! ## Taking parts -/

theorem mem_of_under?_go {code : Code} {entries : List (Operand × Operand)}
    (h : under?.go a code entries = .ok (some b)) : ∃ k, (k, b) ∈ entries := by
  induction entries with
  | nil => cases h
  | cons e rest ih =>
    obtain ⟨stored, value⟩ := e
    have hlater (hrest : under?.go a code rest = .ok (some b)) :
        ∃ k, (k, b) ∈ (stored, value) :: rest :=
      (ih hrest).imp fun k hk => List.mem_cons_of_mem _ hk
    rw [under?.go] at h
    split at h
    · split at h
      · obtain rfl := Option.some.inj (Except.ok.inj h)
        exact ⟨stored, List.mem_cons_self⟩
      · exact hlater h
      · cases h
    · exact hlater h

theorem mem_of_under? {entries : List (Operand × Operand)} (h : under? entries a = .ok (some b)) :
    ∃ k, (k, b) ∈ entries := by
  unfold under? at h
  split at h
  · split at h <;> cases h
  · exact mem_of_under?_go h

theorem yields_found? {entries : List (Operand × Operand)} (h : Calm (.map entries))
    (key : Operand) : Yields (found? entries key) := by
  intro c hc
  unfold found? at hc
  split at hc
  next hunder =>
    obtain ⟨k, hk⟩ := mem_of_under? (hc ▸ hunder)
    exact (h.of_mem_map _ hk).2
  next => cases hc

theorem mem_of_itemAt? {α : Type} {items : List α} {n : Int} {x : α}
    (h : itemAt? items n = some x) : x ∈ items := by
  unfold itemAt? at h
  split at h
  · exact List.mem_of_getElem? h
  · split at h
    · exact List.mem_of_getElem? h
    · cases h

theorem yields_at? (h : Calm a) (i : Operand) : Yields (a.at? i) := by
  have hitems {items : List Operand} (hitems : ∀ x ∈ items, Calm x) :
      Yields (i.whole?.bind (itemAt? items)) :=
    .bind (fun _ c hc => hitems c (mem_of_itemAt? hc)) _
  cases a with
  | list items => exact hitems h.of_mem_list
  | bareList items => exact hitems h.of_mem_bareList
  | text | bareText => exact .map (fun _ => .plain rfl) _
  | bytes | bareBytes => exact .map (fun _ => .plain rfl) _
  | map entries => exact .ite (yields_found? h i) .none
  | record entries => exact absurd rfl (h.ne_record entries)
  | _ => exact .none

/-- A member of a calm operand is looked at without a stop. -/
theorem exists_member? (h : Calm a) (name : String) :
    ∃ x, a.member? name = .ok x ∧ Yields x := by
  cases a with
  | map entries => exact ⟨_, rfl, yields_found? h _⟩
  | names entries =>
    refine ⟨_, rfl, fun c hc => ?_⟩
    exact h.of_mem_names _ (mem_of_lookupField hc)
  | record entries => exact absurd rfl (h.ne_record entries)
  | _ => exact ⟨none, rfl, .none⟩

theorem Calm.both (ha : Calm a) (hb : Calm b) : Calm (a.both b) := by
  unfold Operand.both
  split
  · split
    · exact hb
    · exact ha
  · split
    · exact hb
    · exact ha
  · split
    · exact ha
    · exact hb
  · exact .unsuited _ _

theorem Calm.either (ha : Calm a) (hb : Calm b) : Calm (a.either b) := by
  unfold Operand.either
  split
  · split
    · exact ha
    · exact hb
  · split
    · exact ha
    · exact hb
  · split
    · exact hb
    · exact ha
  · exact .unsuited _ _

theorem Calm.negation (a : Operand) : Calm a.negation := by
  unfold Operand.negation
  split
  · exact .ofBool _
  · exact .unsuited _ _

end Operand

/-! ## Operations -/

open Operand (Calm Yields TypesOnly)

/-- It gives something that is as asked for, or a body of a macro has failed; nothing else stops it. -/
def Settles {α : Type} (P : α → Prop) (x : Except Stop α) : Prop :=
  (∃ a, x = .ok a ∧ P a) ∨ ∃ cause, x = .error (.failed cause)

namespace Settles

variable {α β : Type} {P : α → Prop} {Q : β → Prop} {x : Except Stop α}

theorem ok {a : α} (h : P a) : Settles P (.ok a) := .inl ⟨a, rfl, h⟩

theorem failed (cause : Failure) : Settles P (.error (.failed cause)) := .inr ⟨cause, rfl⟩

theorem bind (h : Settles P x) {f : α → Except Stop β} (hf : ∀ a, P a → Settles Q (f a)) :
    Settles Q (x.bind f) := by
  obtain ⟨a, rfl, ha⟩ | ⟨cause, rfl⟩ := h
  · exact hf a ha
  · exact failed cause

theorem map (h : Settles P x) {f : α → β} (hf : ∀ a, P a → Q (f a)) : Settles Q (x.map f) := by
  obtain ⟨a, rfl, ha⟩ | ⟨cause, rfl⟩ := h
  · exact ok (hf a ha)
  · exact failed cause

/-- Something goes on behind what settles, and stops where it stops. -/
theorem next (h : Settles P x) {y : Except Stop β} (hok : ∀ a, x = .ok a → P a → Settles Q y)
    (herror : ∀ stop, x = .error stop → y = .error stop) : Settles Q y := by
  obtain ⟨a, hx, ha⟩ | ⟨cause, hx⟩ := h
  · exact hok a hx ha
  · exact herror _ hx ▸ failed cause

theorem mono (h : Settles P x) {P' : α → Prop} (hP : ∀ a, P a → P' a) : Settles P' x :=
  h.imp_left fun ⟨a, hx, ha⟩ => ⟨a, hx, hP a ha⟩

variable {o : Outcome}

theorem failure (cause : Failure) : Settles Calm (Outcome.failure cause) := ok (.failure cause)

theorem ofResult {x : Option Operand} (h : Yields x) (operation : String) (operands : List Operand) :
    Settles Calm (Outcome.ofResult operation operands x) := by
  cases x with
  | none => exact ok (.unsuited _ _)
  | some c => exact ok (h c rfl)

theorem ofTest {x : Except Misfit Bool} (h : TypesOnly x) (operation : String)
    (operands : List Operand) : Settles Calm (Outcome.ofTest operation operands x) := by
  rcases x with m | b
  · obtain rfl := h m rfl
    exact ok (.unsuited _ _)
  · exact ok (.ofBool b)

theorem unlessFailed (h : Settles Calm o) (operands : List Operand) :
    Settles Calm (Outcome.unlessFailed operands o) := by
  unfold Outcome.unlessFailed
  split
  · exact failure _
  · exact h

theorem contain (h : Settles Calm o) (categories : List Stop.Category) :
    Settles Calm (Outcome.contain categories o) := by
  obtain ⟨a, rfl, ha⟩ | ⟨cause, rfl⟩ := h
  · exact ok ha
  · unfold Outcome.contain
    dsimp only
    split
    · exact failure _
    · exact failed cause

end Settles

/-- Operations on calm operands do not stop; a rest may, as it also fills layouts. -/
theorem settles_apply {op : Operation} (hop : op ≠ .mod) {a b : Operand} (ha : Calm a)
    (hb : Calm b) : Settles Calm (op.apply a b) := by
  unfold Operation.apply
  cases op with
  | or => exact .ok (ha.either hb)
  | and => exact .ok (ha.both hb)
  | less | lessOrEqual | greater | greaterOrEqual =>
    exact (Settles.ofTest (ha.typesOnly_ordered _ b) _ _).unlessFailed _
  | equal => exact (Settles.ofTest (ha.typesOnly_equals b) _ _).unlessFailed _
  | different => exact (Settles.ofTest (ha.typesOnly_differs b) _ _).unlessFailed _
  | within => exact (Settles.ofTest (hb.typesOnly_within a) _ _).unlessFailed _
  | add => exact (Settles.ofResult (Operand.yields_add ha hb) _ _).unlessFailed _
  | sub => exact (Settles.ofResult (Operand.yields_sub ha) _ _).unlessFailed _
  | mul => exact (Settles.ofResult (Operand.yields_mul ha hb) _ _).unlessFailed _
  | div => exact (Settles.ofResult (Operand.yields_div a b) _ _).unlessFailed _
  | mod => exact absurd rfl hop

/-- The name of a function that does not stop for calm operands: no type, and nothing that looks at
times. -/
def IsQuiet (name : String) : Prop := Kind.ofName? name = none ∧ timeFunctions.contains name = false

theorem yields_pairFunction? {name : String} {f : Operand → Operand → Option Operand}
    (h : pairFunction? name = some f) (a b : Operand) : Yields (f a b) := by
  unfold pairFunction? at h
  split at h
  case h_5 =>
    obtain rfl := Option.some.inj h
    unfold Operand.split?
    split
    · exact .map (fun pieces => .list (List.forall_mem_map.2 fun s _ => .plain rfl)) _
    · exact .none
  case h_6 => cases h
  all_goals
    obtain rfl := Option.some.inj h
    exact .map Calm.ofBool _

theorem settles_callFunction {name : String} (h : IsQuiet name) (args : List Operand) :
    Settles Calm (callFunction name args) := by
  obtain ⟨htype, htime⟩ := h
  unfold callFunction
  split
  · refine Settles.unlessFailed (Settles.contain ?_ _) _
    have happly : ∃ x, applyFunction name args = .ok x ∧ Yields x := by
      unfold applyFunction
      rw [htype]
      split
      next => contradiction
      next =>
        rw [htime]
        split
        · exact ⟨_, rfl, .map (fun _ => .plain rfl) _⟩
        · exact ⟨none, rfl, .none⟩
      next a b _ =>
        rw [htime]
        refine ⟨_, rfl, fun c hc => ?_⟩
        obtain ⟨f, hf, hc⟩ := Option.bind_eq_some_iff.1 hc
        exact yields_pairFunction? hf a b c hc
      next => exact ⟨none, rfl, .none⟩
    obtain ⟨x, hx, hyields⟩ := happly
    rw [hx]
    exact .ofResult hyields _ _
  · exact .failure _

/-! ## Macros -/

namespace Macro

variable {parts : List Operand} {o : Outcome}

theorem settles_insist (h : Settles Calm o) : Settles Calm (insist o) := by
  obtain ⟨a, rfl, ha⟩ | ⟨cause, rfl⟩ := h
  · unfold insist
    split
    next => exact .failed _
    next => exact .ok ha
  · exact .failed cause

theorem settles_relent (h : Settles Calm o) : Settles Calm (relent o) := by
  obtain ⟨a, rfl, ha⟩ | ⟨cause, rfl⟩ := h
  · exact .ok ha
  · exact .failure cause

theorem settles_bodies {body : Operand → Outcome} (hparts : ∀ a ∈ parts, Calm a)
    (hbody : ∀ a, Calm a → Settles Calm (body a)) :
    Settles (fun bs => ∀ b ∈ bs, Calm b.1 ∧ Calm b.2) (bodies body parts) := by
  induction parts with
  | nil => exact .ok (by simp)
  | cons a rest ih =>
    obtain ⟨ha, hrest⟩ := List.forall_mem_cons.1 hparts
    rw [bodies]
    refine (settles_insist (hbody a ha)).next (fun b hb hcalm => ?_) fun _ hstop => by rw [hstop]
    rw [hb]
    exact (ih hrest).map fun bs hbs => List.forall_mem_cons.2 ⟨⟨ha, hcalm⟩, hbs⟩

theorem settles_total {add : Operand → Operand → Operand}
    (hadd : ∀ a b, Calm a → Calm b → Calm (add a b)) {body : Operand → Outcome}
    (hparts : ∀ a ∈ parts, Calm a) (hbody : ∀ a, Calm a → Settles Calm (body a)) {sum : Operand}
    (hsum : Calm sum) : Settles Calm (total add body sum parts) := by
  induction parts generalizing sum with
  | nil => exact .ok hsum
  | cons a rest ih =>
    obtain ⟨ha, hrest⟩ := List.forall_mem_cons.1 hparts
    rw [total]
    refine (settles_relent (hbody a ha)).next (fun b hb hcalm => ?_) fun _ hstop => by rw [hstop]
    rw [hb]
    exact ih hrest (hadd sum b hsum hcalm)

theorem settles_reduceOver {body : Operand → Operand → Outcome} (hparts : ∀ a ∈ parts, Calm a)
    (hbody : ∀ sum a, Calm sum → Calm a → Settles Calm (body sum a)) {sum : Operand}
    (hsum : Calm sum) : Settles Calm (reduceOver body sum parts) := by
  induction parts generalizing sum with
  | nil => exact .ok hsum
  | cons a rest ih =>
    obtain ⟨ha, hrest⟩ := List.forall_mem_cons.1 hparts
    rw [reduceOver]
    refine (settles_insist (hbody sum a hsum ha)).next (fun b hb hcalm => ?_) fun _ hstop => by
      rw [hstop]
    rw [hb]
    exact ih hrest hcalm

/-- A macro of one body does not stop for calm parts, unless its body does. -/
theorem settles_apply {m : Macro} (hreduce : m ≠ .reduce) (hleast : m ≠ .least)
    {body : Operand → Outcome} (hparts : ∀ a ∈ parts, Calm a)
    (hbody : ∀ a, Calm a → Settles Calm (body a)) : Settles Calm (m.apply body parts) := by
  have hbodies := settles_bodies hparts hbody
  cases m with
  | map => exact hbodies.map fun bs hbs => .list (List.forall_mem_map.2 fun b hb => (hbs b hb).2)
  | filter =>
    refine hbodies.map fun bs hbs => .list (List.forall_mem_map.2 fun b hb => ?_)
    exact (hbs b (List.mem_filter.1 hb).1).1
  | one => exact hbodies.map fun bs _ => .ofBool _
  | all => exact settles_total (fun a b ha hb => ha.both hb) hparts hbody (.ofBool true)
  | any => exact settles_total (fun a b ha hb => ha.either hb) hparts hbody (.ofBool false)
  | reduce => exact absurd rfl hreduce
  | least => exact absurd rfl hleast

end Macro

end Condition

end Remediation
