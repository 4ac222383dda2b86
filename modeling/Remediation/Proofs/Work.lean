import Remediation.Session
import Remediation.Proofs.Result
/-!
# Results of work

What a chain of work gives is given by its last part, from what the parts in front of it have given.

A result fails as a predicate of faults says if it is no fault that the predicate is false of
(`FailsAs`), and work does if it does in every session (`Work.FailsAs`).  A chain of work fails as its
parts do, so that what can stop a program is read off from what can stop its parts.
-/

set_option autoImplicit false

namespace Remediation

variable {α β : Type} {b : β} {P Q : Fault → Prop}

/-- A result that is no fault which `P` is false of. -/
def FailsAs (P : Fault → Prop) (x : Except Fault α) : Prop := ∀ e, x = .error e → P e

namespace FailsAs

variable {x : Except Fault α} {e : Fault}

theorem ok (a : α) : FailsAs P (.ok a) := nofun

theorem error (h : P e) : FailsAs P (.error e : Except Fault α) := by
  rintro _ ⟨⟩
  exact h

theorem imp (h : FailsAs P x) (himp : ∀ e, P e → Q e) : FailsAs Q x := fun e he => himp e (h e he)

theorem map (h : FailsAs P x) (f : α → β) : FailsAs P (x.map f) := by
  cases x with
  | ok a => exact ok _
  | error e => exact error (h e rfl)

theorem mapError (h : FailsAs P x) {f : Fault → Fault} (hf : ∀ e, P e → Q (f e)) :
    FailsAs Q (x.mapError f) := by
  cases x with
  | ok a => exact ok a
  | error e => exact error (hf e (h e rfl))

/-- The parts of a chain fail in turn, each one given what the one in front of it gives. -/
theorem bind_of {f : α → Except Fault β} (h : FailsAs P x)
    (hf : ∀ a, x = .ok a → FailsAs P (f a)) : FailsAs P (x >>= f) := by
  cases x with
  | ok a => exact hf a rfl
  | error e => exact error (h e rfl)

theorem bind {f : α → Except Fault β} (h : FailsAs P x) (hf : ∀ a, FailsAs P (f a)) :
    FailsAs P (x >>= f) :=
  h.bind_of fun a _ => hf a

theorem mapM {xs : List α} {f : α → Except Fault β} (hf : ∀ a, FailsAs P (f a)) :
    FailsAs P (xs.mapM f) := by
  induction xs with
  | nil => exact ok []
  | cons a rest ih =>
    rw [List.mapM_cons]
    exact (hf a).bind fun b => ih.bind fun bs => ok (b :: bs)

theorem foldlM {xs : List α} {f : β → α → Except Fault β} (hf : ∀ b a, FailsAs P (f b a)) (b : β) :
    FailsAs P (xs.foldlM f b) := by
  induction xs generalizing b with
  | nil => exact ok b
  | cons a rest ih =>
    rw [List.foldlM_cons]
    exact (hf b a).bind ih

end FailsAs

namespace Work

variable {s later : Session} {x : Work α}

theorem exists_of_run_bind_eq_ok {f : α → Work β}
    (h : (x >>= f).run.run s = (.ok b, later)) :
    ∃ a between, x.run.run s = (.ok a, between) ∧ (f a).run.run between = (.ok b, later) := by
  rw [ExceptT.run_bind, StateT.run_bind] at h
  rcases hx : x.run.run s with ⟨a | a, between⟩
  · rw [hx] at h
    cases h
  · rw [hx] at h
    exact ⟨a, between, rfl, h⟩

/-- Behind work that gives a result, the work that follows starts from it. -/
theorem run_bind_of_ok {a : α} (f : α → Work β) (h : x.run.run s = (.ok a, later)) :
    (x >>= f).run.run s = (f a).run.run later := by
  rw [ExceptT.run_bind, StateT.run_bind, h]
  rfl

theorem run_map_of_eq (f : α → β) {r : Except Fault α} (h : x.run.run s = (r, later)) :
    (f <$> x).run.run s = (r.map f, later) := by
  rw [ExceptT.run_map, StateT.run_map, h]
  rfl

/-- Work that gives a result has nothing to catch. -/
theorem run_tryCatch_of_ok {a : α} (f : Fault → Work α) (h : x.run.run s = (.ok a, later)) :
    (tryCatch x f).run.run s = (.ok a, later) := by
  rw [ExceptT.run_tryCatch, StateT.run_bind, h]
  rfl

/-- Behind a fault that is caught, what is done about it starts from there. -/
theorem run_tryCatch_of_error {e : Fault} (f : Fault → Work α)
    (h : x.run.run s = (.error e, later)) :
    (tryCatch x f).run.run s = (f e).run.run later := by
  rw [ExceptT.run_tryCatch, StateT.run_bind, h]
  rfl

/-- Behind a fault nothing more is done. -/
theorem run_bind_of_error {e : Fault} (f : α → Work β) (h : x.run.run s = (.error e, later)) :
    (x >>= f).run.run s = (.error e, later) := by
  rw [ExceptT.run_bind, StateT.run_bind, h]
  rfl

theorem run_lift_of_eq {x : StateM Session α} {a : α} (h : x.run s = (a, later)) :
    (liftM x : Work α).run.run s = (.ok a, later) := by
  have hlift : (liftM x : Work α).run = Except.ok <$> x := rfl
  rw [hlift, StateT.run_map, h]
  rfl

theorem exists_of_state_bind_eq {x : StateM Session α} {f : α → StateM Session β}
    (h : (x >>= f).run s = (b, later)) :
    ∃ a between, x.run s = (a, between) ∧ (f a).run between = (b, later) :=
  ⟨_, _, rfl, h⟩

theorem eq_of_run_lift {r : Except Fault α} {a : α}
    (h : (liftM r : Work α).run.run s = (.ok a, later)) : r = .ok a :=
  congrArg Prod.fst h

theorem eq_of_run_act {f : StateM Session α} {a : α}
    (h : (liftM f : Work α).run.run s = (.ok a, later)) : f.run s = (a, later) := by
  obtain ⟨hfound, hlater⟩ := Prod.mk.inj h
  exact Prod.ext (Except.ok.inj hfound) hlater

/-- Work that gives a result in every session that fails as `P` says. -/
def FailsAs (P : Fault → Prop) (x : Work α) : Prop :=
  ∀ s, Remediation.FailsAs P (x.run.run s).1

namespace FailsAs

theorem imp (h : FailsAs P x) (himp : ∀ e, P e → Q e) : FailsAs Q x := fun s => (h s).imp himp

theorem pure (a : α) : FailsAs P (Pure.pure a : Work α) := fun _ => .ok a

theorem throw {e : Fault} (h : P e) : FailsAs P (MonadExcept.throw e : Work α) := fun _ => .error h

theorem lift {r : Except Fault α} (h : Remediation.FailsAs P r) : FailsAs P (liftM r : Work α) :=
  fun _ => h

/-- What is done to a session without a fault fails in no way. -/
theorem act (f : StateM Session α) : FailsAs P (liftM f : Work α) := by
  intro s e h
  cases h

theorem workspace : FailsAs P Work.workspace := by
  intro s e h
  cases h

/-- Work that starts by looking at the files of a session sees the files of that session. -/
theorem of_workspace {f : Workspace → Work α} (h : FailsAs P (f s.workspace)) :
    Remediation.FailsAs P ((Work.workspace >>= f).run.run s).1 :=
  h s

theorem printLine (line : String) : FailsAs P (Work.printLine line) := act _

theorem warn (text : String) : FailsAs P (Work.warn text) := act _

theorem bind_of {f : α → Work β} (h : FailsAs P x)
    (hf : ∀ a s later, x.run.run s = (.ok a, later) → FailsAs P (f a)) : FailsAs P (x >>= f) := by
  intro s
  rw [ExceptT.run_bind, StateT.run_bind]
  have hx := h s
  rcases hrun : x.run.run s with ⟨e | a, between⟩
  · rw [hrun] at hx
    exact .error (hx e rfl)
  · exact hf a s between hrun between

theorem bind {f : α → Work β} (h : FailsAs P x) (hf : ∀ a, FailsAs P (f a)) :
    FailsAs P (x >>= f) :=
  h.bind_of fun a _ _ _ => hf a

/-- Behind a fault that is raised nothing is done. -/
theorem throw_bind {e : Fault} {f : α → Work β} (h : P e) :
    FailsAs P ((MonadExcept.throw e : Work α) >>= f) :=
  (throw h).bind_of nofun

theorem discard (h : FailsAs P x) : FailsAs P (discard x) := h.bind fun _ => pure _

/-- A fault that is caught leaves what is done about it. -/
theorem tryCatch {f : Fault → Work α} (h : FailsAs P x) (hf : ∀ e, P e → FailsAs Q (f e)) :
    FailsAs Q (MonadExcept.tryCatch x f) := by
  intro s
  rw [ExceptT.run_tryCatch, StateT.run_bind]
  have hx := h s
  rcases hrun : x.run.run s with ⟨e | a, between⟩
  · rw [hrun] at hx
    exact hf e (hx e rfl) between
  · exact .ok a

theorem forM {xs : List α} {f : α → Work PUnit} (hf : ∀ a, FailsAs P (f a)) :
    FailsAs P (ForM.forM xs f) := by
  induction xs with
  | nil => exact pure PUnit.unit
  | cons a rest ih => exact (hf a).bind fun _ => ih

theorem forIn {γ : Type} {xs : List α} {f : α → γ → Work (ForInStep γ)}
    (hf : ∀ a c, FailsAs P (f a c)) (c : γ) : FailsAs P (ForIn.forIn xs c f) := by
  induction xs generalizing c with
  | nil => exact pure c
  | cons a rest ih =>
    rw [List.forIn_cons]
    refine (hf a c).bind fun next => ?_
    cases next with
    | done last => exact pure last
    | yield next => exact ih next

end FailsAs

end Work

end Remediation
