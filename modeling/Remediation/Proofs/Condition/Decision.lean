import Remediation.Condition
import Remediation.Proofs.Condition.Calm
import Remediation.Proofs.Parameters.Texts
/-!
# Which conditions are decided

A condition is asked about facts that come from anywhere.  All of them become operands first, which are
calm; so an expression that only does with them what suits calm operands (`Quiet`) gives an operand or
fails.  What comes out of a condition beside that is listed by `Escapes`, and all that is listed there
comes out.
-/

set_option autoImplicit false

namespace Remediation

namespace Condition

open Operand (Calm)

/-! ## Quiet expressions -/

/-- All names stand for calm operands. -/
def Scope.Calm (scope : Scope) : Prop := ∀ f ∈ scope, Operand.Calm f.2

/-- An expression without records, times, conversions and rests, that goes through lists alone which are
spelled out. -/
inductive Quiet : Expr → Prop where
  | literal {a : Operand} : a.isPlain = true → Quiet (.literal (.ok a))
  | name (name : String) : Quiet (.name name)
  | rootName {name : String} {args : List Expr} : (∀ a ∈ args, Quiet a) →
      Quiet (.rootName name args)
  | presence {f : String} {a : Expr} {args : List Expr} : f = "has" ∨ f = "dyn" → Quiet a →
      (∀ b ∈ args, Quiet b) → Quiet (.call f (a :: args))
  | call {f : String} {args : List Expr} : ¬(f = "has" ∨ f = "dyn") → IsQuiet f →
      (∀ a ∈ args, Quiet a) → Quiet (.call f args)
  | method {target : Expr} {f : String} {args : List Expr} : Macro.ofName? f = none → IsQuiet f →
      Quiet target → (∀ a ∈ args, Quiet a) → Quiet (.method target f args)
  | overList {items : List Expr} {f x : String} {m : Macro} {body : Expr} : Macro.ofName? f = some m →
      m ≠ .reduce → m ≠ .least → (∀ a ∈ items, Quiet a) → Quiet body →
      Quiet (.method (.list items) f [.name x, body])
  | reduceList {items : List Expr} {f sum x : String} {first body : Expr} :
      Macro.ofName? f = some .reduce → (∀ a ∈ items, Quiet a) → Quiet first → Quiet body →
      Quiet (.method (.list items) f [.name sum, .name x, first, body])
  | member {target : Expr} {name : String} : Quiet target → Quiet (.member target name)
  | index {target position : Expr} : Quiet target → Quiet position → Quiet (.index target position)
  | list {items : List Expr} : (∀ a ∈ items, Quiet a) → Quiet (.list items)
  | map {entries : List (Expr × Expr)} : (∀ e ∈ entries, Quiet e.1) → (∀ e ∈ entries, Quiet e.2) →
      Quiet (.map entries)
  | not {a : Expr} : Quiet a → Quiet (.not a)
  | neg {a : Expr} : Quiet a → Quiet (.neg a)
  | binary {op : Operation} {a b : Expr} : op ≠ .mod → Quiet a → Quiet b → Quiet (.binary op a b)
  | choice {condition yes no : Expr} : Quiet condition → Quiet yes → Quiet no →
      Quiet (.choice condition yes no)

variable {scope : Scope}

namespace Scope.Calm

theorem find (h : scope.Calm) (name : String) : Operand.Calm (scope.find name) := by
  unfold Scope.find
  cases hfact : lookupField scope name with
  | some a => exact h _ (mem_of_lookupField hfact)
  | none =>
    rw [Option.none_or]
    unfold builtin?
    split
    · exact .plain rfl
    · split
      · exact .plain rfl
      · exact .failure _

theorem bind (h : scope.Calm) (name : String) {a : Operand} (ha : Operand.Calm a) :
    (scope.bind name a).Calm := by
  unfold Scope.bind
  split
  · exact h
  · intro f hf
    rcases mem_setField hf with rfl | hf
    · exact ha
    · exact h f hf

end Scope.Calm

theorem calm_chooseArm {condition arm : Operand} (h : Calm arm) : Calm (chooseArm condition arm) := by
  unfold chooseArm
  split
  · exact h
  · exact .unsuited _ _

theorem calm_mapOfParts {before entries : List (Operand × Operand)}
    (hbefore : ∀ e ∈ before, Calm e.1 ∧ Calm e.2) (hentries : ∀ e ∈ entries, Calm e.1 ∧ Calm e.2) :
    Calm (mapOfParts before entries) := by
  induction entries generalizing before with
  | nil => exact .map (fun e he => (hbefore e he).1) fun e he => (hbefore e he).2
  | cons e rest ih =>
    obtain ⟨k, a⟩ := e
    obtain ⟨he, hrest⟩ := List.forall_mem_cons.1 hentries
    unfold mapOfParts
    split
    · exact .failure _
    · exact ih (List.forall_mem_append.2 ⟨hbefore, List.forall_mem_singleton.2 he⟩) hrest
    · exact .unsuited _ _

theorem settles_evalAll {es : List Expr} (h : ∀ e ∈ es, Settles Calm (eval scope e)) :
    Settles (fun as => as.length = es.length ∧ ∀ a ∈ as, Calm a) (evalAll scope es) := by
  induction es with
  | nil => exact .ok ⟨rfl, by simp⟩
  | cons e rest ih =>
    obtain ⟨he, hrest⟩ := List.forall_mem_cons.1 h
    rw [evalAll]
    refine he.next (fun a ha hcalm => ?_) fun _ hstop => by rw [hstop]
    rw [ha]
    refine (ih hrest).map fun as has => ⟨?_, List.forall_mem_cons.2 ⟨hcalm, has.2⟩⟩
    rw [List.length_cons, List.length_cons, has.1]

theorem settles_evalEntries {es : List (Expr × Expr)}
    (hkeys : ∀ e ∈ es, Settles Calm (eval scope e.1))
    (hvalues : ∀ e ∈ es, Settles Calm (eval scope e.2)) :
    Settles (fun as => ∀ a ∈ as, Calm a.1 ∧ Calm a.2) (evalEntries scope es) := by
  induction es with
  | nil => exact .ok (by simp)
  | cons e rest ih =>
    obtain ⟨k, e⟩ := e
    obtain ⟨hk, hkeys⟩ := List.forall_mem_cons.1 hkeys
    obtain ⟨he, hvalues⟩ := List.forall_mem_cons.1 hvalues
    rw [evalEntries]
    refine hk.next (fun b hb hkey => ?_) fun _ hstop => by rw [hstop]
    rw [hb]
    refine he.next (fun a ha hcalm => ?_) fun _ hstop => by rw [hstop]
    rw [ha]
    exact (ih hkeys hvalues).map fun as has => List.forall_mem_cons.2 ⟨⟨hkey, hcalm⟩, has⟩

/-- A list that is spelled out is one, unless an item of it has failed. -/
theorem settles_eval_list {items : List Expr} (h : ∀ e ∈ items, Settles Calm (eval scope e)) :
    Settles (fun a => (∃ cause, a = .failure cause) ∨ ∃ as, a = .list as ∧ ∀ b ∈ as, Calm b)
      (eval scope (.list items)) := by
  rw [eval]
  refine (settles_evalAll h).bind fun as has => ?_
  unfold Outcome.unlessFailed
  split
  next cause _ => exact .ok (.inl ⟨cause, rfl⟩)
  next => exact .ok (.inr ⟨as, rfl, has.2⟩)

/-- A quiet expression gives a calm operand, or the body of a macro in it fails. -/
theorem settles_eval {e : Expr} (h : Quiet e) (hscope : scope.Calm) :
    Settles Calm (eval scope e) := by
  -- The scope varies, as a macro binds its name to one part after the other.
  induction h generalizing scope with
  | literal hplain =>
    rw [eval]
    exact .ok (.plain hplain)
  | name name =>
    rw [eval]
    exact .ok (hscope.find name)
  | @rootName name args _ ih =>
    rw [eval]
    exact (settles_evalAll fun a ha => ih a ha hscope).map fun _ _ => hscope.find name
  | @presence f a args hf _ _ iha ihargs =>
    rw [eval]
    have hall : ∀ e ∈ a :: args, Settles Calm (eval scope e) :=
      List.forall_mem_cons.2 ⟨iha hscope, fun b hb => ihargs b hb hscope⟩
    refine (settles_evalAll hall).next (fun as has hcalm => ?_) fun _ hstop => by rw [hstop]
    rw [has]
    obtain _ | ⟨b, bs⟩ := as
    · cases hcalm.1
    · simp only [hf, if_true]
      refine .ok ?_
      split
      · exact .ofBool _
      · exact hcalm.2 b List.mem_cons_self
  | call hf hquiet _ ih =>
    rw [eval]
    refine (settles_evalAll fun a ha => ih a ha hscope).next (fun as has _ => ?_) fun _ hstop => by
      rw [hstop]
    rw [has]
    simp only [hf, if_false]
    exact settles_callFunction hquiet as
  | method hmacro hquiet _ _ ih ihargs =>
    rw [eval]
    refine (ih hscope).next (fun a ha _ => ?_) fun _ hstop => by rw [hstop]
    rw [ha, hmacro]
    dsimp only
    refine (settles_evalAll fun a ha => ihargs a ha hscope).next (fun as has _ => ?_) fun _ hstop => by
      rw [hstop]
    rw [has]
    exact settles_callFunction hquiet _
  | @overList items f x m body hmacro hreduce hleast _ _ ihitems ih =>
    rw [eval]
    refine (settles_eval_list fun e he => ihitems e he hscope).next (fun a ha hlist => ?_)
      fun _ hstop => by rw [hstop]
    rw [ha, hmacro]
    dsimp only
    obtain ⟨cause, rfl⟩ | ⟨as, rfl, hcalm⟩ := hlist
    · rw [evalMacro]
      exact .failure cause
    · rw [evalMacro]
      · exact Macro.settles_apply hreduce hleast hcalm fun a ha => ih (hscope.bind x ha)
      · exact nofun
      · exact hleast
      · exact hreduce
  | @reduceList items f sum x first body hmacro _ _ _ ihitems ihfirst ih =>
    rw [eval]
    refine (settles_eval_list fun e he => ihitems e he hscope).next (fun a ha hlist => ?_)
      fun _ hstop => by rw [hstop]
    rw [ha, hmacro]
    dsimp only
    obtain ⟨cause, rfl⟩ | ⟨as, rfl, hcalm⟩ := hlist
    · rw [evalMacro]
      exact .failure cause
    · rw [evalMacro]
      · refine (ihfirst hscope).next (fun b hb hfirst => ?_) fun _ hstop => by rw [hstop]
        rw [hb]
        exact Macro.settles_reduceOver hcalm
          (fun before part hbefore hpart => ih ((hscope.bind sum hbefore).bind x hpart)) hfirst
      · exact nofun
  | @member target name _ ih =>
    rw [eval]
    refine (ih hscope).next (fun a ha hcalm => ?_) fun _ hstop => by rw [hstop]
    rw [ha]
    obtain ⟨x, hx, hyields⟩ := Operand.exists_member? hcalm name
    split
    next => contradiction
    next => exact .failure _
    next b _ hb =>
      obtain rfl := Except.ok.inj hb
      rw [hx]
      refine .ok ?_
      cases x with
      | none => exact .failure _
      | some c => exact hyields c rfl
  | index _ _ ih ihposition =>
    rw [eval]
    refine (ih hscope).next (fun a ha hcalm => ?_) fun _ hstop => by rw [hstop]
    rw [ha]
    refine (ihposition hscope).bind fun i _ => ?_
    exact (Settles.ofResult (Operand.yields_at? hcalm i) _ _).unlessFailed _
  | list _ ih =>
    refine (settles_eval_list fun e he => ih e he hscope).mono ?_
    rintro a (⟨cause, rfl⟩ | ⟨as, rfl, hcalm⟩)
    · exact .failure cause
    · exact .list hcalm
  | map _ _ ihkeys ihvalues =>
    rw [eval]
    refine Settles.contain ?_ _
    refine (settles_evalEntries (fun e he => ihkeys e he hscope) fun e he =>
      ihvalues e he hscope).map fun as has => ?_
    exact calm_mapOfParts (by simp) has
  | not _ ih =>
    rw [eval]
    exact (ih hscope).map fun a _ => .negation a
  | neg _ ih =>
    rw [eval]
    refine (ih hscope).bind fun a _ => ?_
    exact (Settles.ofResult (Operand.yields_neg a) _ _).unlessFailed _
  | binary hop _ _ iha ihb =>
    rw [eval]
    refine (iha hscope).next (fun a ha hcalm => ?_) fun _ hstop => by rw [hstop]
    rw [ha]
    exact (ihb hscope).bind fun b hb => settles_apply hop hcalm hb
  | choice _ _ _ ih ihyes ihno =>
    rw [eval]
    refine (ih hscope).next (fun c hc _ => ?_) fun _ hstop => by rw [hstop]
    rw [hc]
    refine Settles.contain (Settles.map ?_ fun a ha => calm_chooseArm ha) _
    split
    · exact ihyes hscope
    · exact ihno hscope

/-! ## Facts as operands -/

/-- A value holds an integer that does not fit into 64 bits. -/
inductive Wide : Value → Prop where
  | int {n : Int} : ¬(-0x8000000000000000 ≤ n ∧ n < 0x8000000000000000) → Wide (.int n)
  | item {items : List Value} {v : Value} : v ∈ items → Wide v → Wide (.list items)
  | entry {entries : List (Scalar × Value)} {e : Scalar × Value} : e ∈ entries → Wide e.2 →
      Wide (.map entries)
  | member {items : List Scalar} {s : Scalar} : s ∈ items → Wide (.scalar s) → Wide (.set items)

/-- It overflows if it is wide, and else it is taken over as asked for. -/
def Taken {α : Type} (wide : Prop) (P : α → Prop) (x : Except Fault α) : Prop :=
  (wide ∧ x = .error .overflow) ∨ (¬wide ∧ ∃ a, x = .ok a ∧ P a)

theorem Taken.map {α β : Type} {wide wide' : Prop} {P : α → Prop} {Q : β → Prop}
    {x : Except Fault α} (h : Taken wide P x) (hwide : wide' ↔ wide) {f : α → β}
    (hf : ∀ a, P a → Q (f a)) : Taken wide' Q (x.map f) := by
  rw [← hwide] at h
  obtain ⟨hw, rfl⟩ | ⟨hw, a, rfl, ha⟩ := h
  · exact .inl ⟨hw, rfl⟩
  · exact .inr ⟨hw, f a, rfl, hf a ha⟩

namespace Operand

theorem wide_item_iff {items : List Value} : Wide (.list items) ↔ ∃ v ∈ items, Wide v := by
  constructor
  · intro h
    cases h with
    | item hv hwide => exact ⟨_, hv, hwide⟩
  · rintro ⟨v, hv, hwide⟩
    exact .item hv hwide

theorem wide_entry_iff {entries : List (Scalar × Value)} :
    Wide (.map entries) ↔ ∃ e ∈ entries, Wide e.2 := by
  constructor
  · intro h
    cases h with
    | entry he hwide => exact ⟨_, he, hwide⟩
  · rintro ⟨e, he, hwide⟩
    exact .entry he hwide

theorem wide_member_iff {items : List Scalar} :
    Wide (.set items) ↔ ∃ v ∈ items.map Value.scalar, Wide v := by
  simp only [List.mem_map, exists_exists_and_eq_and]
  constructor
  · intro h
    cases h with
    | member hs hwide => exact ⟨_, hs, hwide⟩
  · rintro ⟨s, hs, hwide⟩
    exact .member hs hwide

/-- The items of a set are taken over like those of a list. -/
theorem ofScalars_eq_ofValues (items : List Scalar) :
    ofScalars items = ofValues (items.map .scalar) := by
  induction items with
  | nil => rfl
  | cons s rest ih =>
    cases s with
    | int n =>
      rw [ofScalars, List.map_cons, ofValues, ofValue, ih]
      cases int64? n <;> rfl
    | null | bool | float | text | moment | bytes =>
      rw [ofScalars, List.map_cons, ofValues, ofValue, ih]

theorem taken_ofScalar (s : Scalar) : Taken (Wide (.scalar s)) Calm (ofValue (.scalar s)) := by
  cases s with
  | int n =>
    rw [ofValue, int64?]
    split_ifs with hn
    · refine .inr ⟨?_, _, rfl, .plain rfl⟩
      intro h
      cases h with
      | int hwide => exact hwide hn
    · exact .inl ⟨.int hn, rfl⟩
  | null | bool | float | text | moment | bytes =>
    rw [ofValue]
    exact .inr ⟨nofun, _, rfl, .plain rfl⟩

theorem taken_ofValues {vs : List Value} (h : ∀ v ∈ vs, Taken (Wide v) Calm (ofValue v)) :
    Taken (∃ v ∈ vs, Wide v) (fun as => ∀ a ∈ as, Calm a) (ofValues vs) := by
  induction vs with
  | nil => exact .inr ⟨by simp, [], rfl, by simp⟩
  | cons v rest ih =>
    obtain ⟨hv, hrest⟩ := List.forall_mem_cons.1 h
    rw [ofValues]
    obtain ⟨hwide, hv⟩ | ⟨hwide, a, ha, hcalm⟩ := hv
    · rw [hv]
      exact .inl ⟨⟨v, List.mem_cons_self, hwide⟩, rfl⟩
    · rw [ha]
      refine (ih hrest).map ?_ fun as has => List.forall_mem_cons.2 ⟨hcalm, has⟩
      rw [List.exists_mem_cons_iff, or_iff_right hwide]

theorem taken_ofEntries {es : List (Scalar × Value)}
    (h : ∀ e ∈ es, Taken (Wide e.2) Calm (ofValue e.2)) {before : List (String × Operand)}
    (hbefore : ∀ e ∈ before, Calm e.2) :
    Taken (∃ e ∈ es, Wide e.2) (fun as => ∀ a ∈ as, Calm a.2) (ofEntries before es) := by
  induction es generalizing before with
  | nil => exact .inr ⟨by simp, before, rfl, hbefore⟩
  | cons e rest ih =>
    obtain ⟨k, v⟩ := e
    obtain ⟨hv, hrest⟩ := List.forall_mem_cons.1 h
    rw [ofEntries]
    obtain ⟨hwide, hv⟩ | ⟨hwide, a, ha, hcalm⟩ := hv
    · rw [hv]
      exact .inl ⟨⟨(k, v), List.mem_cons_self, hwide⟩, rfl⟩
    · rw [ha, List.exists_mem_cons_iff, or_iff_right hwide]
      refine ih hrest fun e he => ?_
      rcases mem_setField he with rfl | he
      · exact hcalm
      · exact hbefore e he

/-- A value overflows if it is wide, and else it becomes a calm operand. -/
theorem taken_ofValue (v : Value) : Taken (Wide v) Calm (ofValue v) := by
  induction v using Value.nestInduction with
  | scalar s => exact taken_ofScalar s
  | list items ih =>
    rw [ofValue]
    exact (taken_ofValues ih).map wide_item_iff fun as has => .list has
  | map entries ih =>
    rw [ofValue]
    refine (taken_ofEntries ih (by simp)).map wide_entry_iff fun as has => ?_
    exact .map (List.forall_mem_map.2 fun a _ => .plain rfl) (List.forall_mem_map.2 has)
  | set items =>
    rw [ofValue, ofScalars_eq_ofValues]
    refine (taken_ofValues ?_).map wide_member_iff fun as has => .list has
    exact List.forall_mem_map.2 fun s _ => taken_ofScalar s

end Operand

/-- Why a key is no name of a fact, if it is none. -/
def nameFault? : Scalar → Option Fault
  | .text name => if (pathOf? name).isSome then none else some (.factName name)
  | k => some (.factNameType (Value.scalar k).typeName)

/-- Why facts are refused, whatever is asked about them: there is an integer that is too wide, or else a
key that is no name. -/
inductive Refused (facts : Facts) : Fault → Prop where
  | overflow {f : Scalar × Value} : f ∈ facts → Wide f.2 → Refused facts .overflow
  | name {fault : Fault} : (∀ f ∈ facts, ¬Wide f.2) →
      (facts.map Prod.fst).findSome? nameFault? = some fault → Refused facts fault

namespace Scope

theorem taken_operands (facts : Facts) :
    Taken (∃ f ∈ facts, Wide f.2)
      (fun as => as.map Prod.fst = facts.map Prod.fst ∧ ∀ a ∈ as, Operand.Calm a.2)
      (operands facts) := by
  induction facts with
  | nil => exact .inr ⟨by simp, [], rfl, rfl, by simp⟩
  | cons f rest ih =>
    obtain ⟨k, v⟩ := f
    rw [operands]
    obtain ⟨hwide, hv⟩ | ⟨hwide, a, ha, hcalm⟩ := Operand.taken_ofValue v
    · rw [hv]
      exact .inl ⟨⟨(k, v), List.mem_cons_self, hwide⟩, rfl⟩
    · rw [ha]
      refine ih.map ?_ fun as has => ⟨?_, List.forall_mem_cons.2 ⟨hcalm, has.2⟩⟩
      · rw [List.exists_mem_cons_iff, or_iff_right hwide]
      · rw [List.map_cons, List.map_cons, has.1]

/-- Facts are told apart by their names, or else refused for the first key that is no name. -/
theorem paths_cases {as : List (Scalar × Operand)} (h : ∀ a ∈ as, Operand.Calm a.2) :
    (∃ fault, (as.map Prod.fst).findSome? nameFault? = some fault ∧ paths as = .error fault) ∨
      ((as.map Prod.fst).findSome? nameFault? = none ∧
        ∃ ps, paths as = .ok ps ∧ ∀ p ∈ ps, Operand.Calm p.2) := by
  induction as with
  | nil => exact .inr ⟨rfl, [], rfl, by simp⟩
  | cons a rest ih =>
    obtain ⟨k, a⟩ := a
    obtain ⟨ha, hrest⟩ := List.forall_mem_cons.1 h
    rw [List.map_cons, List.findSome?_cons]
    cases k with
    | text name =>
      rw [nameFault?, paths]
      cases hpath : pathOf? name with
      | none => exact .inl ⟨_, rfl, rfl⟩
      | some path =>
        obtain ⟨fault, hfault, hpaths⟩ | ⟨hnone, ps, hpaths, hps⟩ := ih hrest
        · exact .inl ⟨fault, hfault, by rw [hpaths]; rfl⟩
        · exact .inr ⟨hnone, _, by rw [hpaths]; rfl, List.forall_mem_cons.2 ⟨ha, hps⟩⟩
    | null | bool | int | float | moment | bytes => exact .inl ⟨_, rfl, rfl⟩

theorem calm_nest (depth : Nat) {facts : List (List String × Operand)}
    (h : ∀ f ∈ facts, Operand.Calm f.2) : (nest depth facts).Calm := by
  induction depth generalizing facts with
  | zero => exact fun f hf => nomatch hf
  | succ depth ih =>
    intro f hf
    rw [nest] at hf
    obtain ⟨head, -, hhead⟩ := List.mem_filterMap.1 hf
    dsimp only at hhead
    split at hhead
    · obtain ⟨last, hlast, rfl⟩ := Option.map_eq_some_iff.1 hhead
      exact h last (List.mem_filter.1 (List.mem_of_getLast? hlast)).1
    · obtain rfl := Option.some.inj hhead
      refine .names (ih fun f hf => ?_)
      obtain ⟨⟨path, a⟩, hmine, hbelow⟩ := List.mem_filterMap.1 hf
      dsimp only at hbelow
      split at hbelow
      next head next rest =>
        obtain rfl := Option.some.inj hbelow
        exact h (head :: next :: rest, a) (List.mem_filter.1 hmine).1
      next => cases hbelow

/-- Facts are refused for a reason, or give a calm scope. -/
theorem ofFacts_cases (facts : Facts) :
    (∃ fault, Refused facts fault ∧ ofFacts facts = .error fault) ∨
      ((∀ fault, ¬Refused facts fault) ∧ ∃ scope, ofFacts facts = .ok scope ∧ scope.Calm) := by
  unfold ofFacts
  obtain ⟨⟨f, hf, hwide⟩, hoperands⟩ | ⟨hwide, as, hoperands, hkeys, hcalm⟩ := taken_operands facts
  · rw [hoperands]
    exact .inl ⟨_, .overflow hf hwide, rfl⟩
  · have hnarrow : ∀ f ∈ facts, ¬Wide f.2 := fun f hf h => hwide ⟨f, hf, h⟩
    rw [hoperands]
    dsimp only
    obtain ⟨fault, hfault, hpaths⟩ | ⟨hnone, ps, hpaths, hps⟩ := paths_cases hcalm
    · rw [hpaths]
      exact .inl ⟨fault, .name hnarrow (hkeys ▸ hfault), rfl⟩
    · rw [hpaths]
      refine .inr ⟨?_, _, rfl, calm_nest _ (List.forall_mem_append.2 ⟨?_, hps⟩)⟩
      · rintro fault (⟨hf, hwide⟩ | ⟨-, hname⟩)
        · exact hnarrow _ hf hwide
        · rw [← hkeys, hnone] at hname
          cases hname
      · exact List.forall_mem_map.2 fun f _ => .plain rfl

end Scope

/-! ## What comes out of a condition -/

/-- A fault that comes out of an expression about facts without being one of the condition.  Facts are
refused before the expression is evaluated; only an expression that is not quiet stops. -/
inductive Escapes (facts : Facts) (e : Expr) : Fault → Prop where
  | refused {fault : Fault} : Refused facts fault → Escapes facts e fault
  | stopped {scope : Scope} {stop : Stop} : Scope.ofFacts facts = .ok scope → ¬Quiet e →
      eval scope e = .error stop → stop.category ≠ .failure → Escapes facts e (.stopped stop)

variable {facts : Facts} {fault : Fault} {expression : String} {e : Expr}

theorem Refused.unique {other : Fault} (h : Refused facts fault) (hother : Refused facts other) :
    fault = other := by
  cases h with
  | overflow hf hwide =>
    cases hother with
    | overflow => rfl
    | name hnarrow => exact absurd hwide (hnarrow _ hf)
  | name hnarrow hname =>
    cases hother with
    | overflow hf hwide => exact absurd hwide (hnarrow _ hf)
    | name _ hother => exact Option.some.inj (hname.symm.trans hother)

theorem Scope.ofFacts_of_refused (h : Refused facts fault) : ofFacts facts = .error fault := by
  obtain ⟨other, hother, hfacts⟩ | ⟨hnone, -⟩ := ofFacts_cases facts
  · rw [hfacts, h.unique hother]
  · exact absurd h (hnone fault)

/-- What escapes is what the evaluation ends with. -/
theorem Escapes.run_eq (h : Escapes facts e fault) (hread : Expr.read? expression = some e) :
    run expression facts = .error fault := by
  unfold run
  rw [hread]
  dsimp only
  cases h with
  | refused h => rw [Scope.ofFacts_of_refused h]
  | @stopped scope stop hfacts _ heval hcategory =>
    rw [hfacts]
    dsimp only
    rw [heval]
    cases stop with
    | failed cause => exact absurd rfl hcategory
    | _ => rfl

/-- A fault that is none of the condition escapes. -/
theorem escapes_of_run (hkind : fault.kind ≠ .condition) (h : run expression facts = .error fault) :
    ∃ e, Expr.read? expression = some e ∧ Escapes facts e fault := by
  unfold run at h
  cases hread : Expr.read? expression with
  | none =>
    rw [hread] at h
    obtain rfl := Except.error.inj h
    exact absurd rfl hkind
  | some e =>
    rw [hread] at h
    dsimp only at h
    refine ⟨e, rfl, ?_⟩
    obtain ⟨refusal, hrefused, hfacts⟩ | ⟨-, scope, hfacts, hcalm⟩ := Scope.ofFacts_cases facts
    · rw [hfacts] at h
      exact Except.error.inj h ▸ .refused hrefused
    · rw [hfacts] at h
      dsimp only at h
      split at h
      case h_1 | h_2 =>
        obtain rfl := Except.error.inj h
        exact absurd rfl hkind
      case h_3 => cases h
      case h_4 stop hfailed heval =>
        obtain rfl := Except.error.inj h
        -- A quiet expression would have settled, and the failure of a body counts as one of the condition.
        refine .stopped hfacts (fun hquiet => ?_) heval fun hcategory => ?_
        · obtain ⟨a, ha, -⟩ | ⟨cause, hcause⟩ := settles_eval hquiet hcalm
          · rw [ha] at heval
            cases heval
          · exact hfailed cause (Except.error.inj (heval.symm.trans hcause))
        · exact hkind (congrArg Stop.Category.kind hcategory)

theorem holds_eq_error_iff (hkind : fault.kind ≠ .condition) :
    holds expression facts = .error fault ↔ run expression facts = .error fault := by
  unfold holds
  cases run expression facts with
  | error e => simp only [Except.error.injEq]
  | ok a =>
    refine iff_of_false (fun h => ?_) nofun
    dsimp only at h
    split at h
    · cases h
    · obtain rfl := Except.error.inj h
      exact hkind rfl

theorem texts_eq_error_iff (hkind : fault.kind ≠ .condition) :
    texts expression facts = .error fault ↔ run expression facts = .error fault := by
  unfold texts
  cases run expression facts with
  | error e => simp only [Except.error.injEq]
  | ok a =>
    refine iff_of_false (fun h => ?_) nofun
    split at h
    case h_1 hrun => cases hrun
    case h_7 =>
      obtain rfl := Except.error.inj h
      exact hkind rfl
    all_goals cases h

/-- About facts that are not refused, a quiet expression is decided. -/
theorem kind_eq_condition_of_quiet (hquiet : ∀ e, Expr.read? expression = some e → Quiet e)
    (hfacts : ∀ other, ¬Refused facts other)
    (h : holds expression facts = .error fault ∨ texts expression facts = .error fault) :
    fault.kind = .condition := by
  by_contra hkind
  rw [holds_eq_error_iff hkind, texts_eq_error_iff hkind, or_self_iff] at h
  obtain ⟨e, hread, hescapes⟩ := escapes_of_run hkind h
  cases hescapes with
  | refused hrefused => exact hfacts fault hrefused
  | stopped _ hloud => exact hloud (hquiet e hread)

/-- Asked for a truth value or for texts, a condition gives it or fails as a condition, unless a fault
escapes that is none of the condition: the same one for both, and whenever there is one. -/
theorem error_iff_escapes (hkind : fault.kind ≠ .condition) (expression : String) (facts : Facts) :
    (holds expression facts = .error fault ↔
      ∃ e, Expr.read? expression = some e ∧ Escapes facts e fault) ∧
    (texts expression facts = .error fault ↔
      ∃ e, Expr.read? expression = some e ∧ Escapes facts e fault) := by
  have hrun : run expression facts = .error fault ↔
      ∃ e, Expr.read? expression = some e ∧ Escapes facts e fault :=
    ⟨escapes_of_run hkind, fun ⟨e, hread, h⟩ => h.run_eq hread⟩
  exact ⟨(holds_eq_error_iff hkind).trans hrun, (texts_eq_error_iff hkind).trans hrun⟩

/-- A test of presence without arguments. -/
theorem error_iff_escapes_presence :
    (Fault.stopped .noArguments).kind ≠ .condition ∧
      holds "has()" [] = .error (.stopped .noArguments) ∧
      texts "has()" [] = .error (.stopped .noArguments) := by
  have hkind : (Fault.stopped .noArguments).kind ≠ .condition := by decide
  have hread : Expr.read? "has()" = some (.call "has" []) := by rfl
  have hquiet : ¬Quiet (.call "has" []) := by
    intro h
    cases h with
    | call hname => exact hname (.inl rfl)
  have hescapes : Escapes [] (.call "has" []) (.stopped .noArguments) :=
    .stopped rfl hquiet rfl (by decide)
  obtain ⟨hholds, htexts⟩ := error_iff_escapes hkind "has()" []
  exact ⟨hkind, hholds.2 ⟨_, hread, hescapes⟩, htexts.2 ⟨_, hread, hescapes⟩⟩

/-- A fact that the condition does not ask for. -/
theorem holds_hyphenatedFact :
    holds "true" [(.text "a-b", .int 1)] = .error (.factName "a-b") ∧
      (Fault.factName "a-b").kind ≠ .condition :=
  ⟨by rfl, by decide⟩

end Condition

end Remediation
