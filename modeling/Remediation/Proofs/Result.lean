import Mathlib.Data.List.Forall2
/-!
# Results that may be errors

What a result was before it was passed on, and what a traversal of a list gives: it succeeds with what
each member gives, in order (`mapM_eq_ok_iff`), and fails only as one of the members does
(`exists_of_mapM_eq_error`).
-/

set_option autoImplicit false

namespace Remediation

variable {ε α β : Type} {e : ε} {b : β}

/-- An error that is passed on with another result was there before. -/
theorem eq_error_of_map {x : Except ε α} {f : α → β} (h : x.map f = .error e) : x = .error e := by
  cases x with
  | error e' => exact congrArg Except.error (Except.error.inj h)
  | ok a => cases h

theorem exists_of_map_eq_ok {x : Except ε α} {f : α → β} (h : x.map f = .ok b) :
    ∃ a, x = .ok a := by
  cases x with
  | error e => cases h
  | ok a => exact ⟨a, rfl⟩

theorem exists_of_bind_eq_ok {x : Except ε α} {f : α → Except ε β} (h : x >>= f = .ok b) :
    ∃ a, x = .ok a ∧ f a = .ok b := by
  cases x with
  | ok a => exact ⟨a, rfl, h⟩
  | error e => cases h

/-- Of two parts in a row the first one fails, or it succeeds and the second one fails. -/
theorem eq_error_or_of_bind_eq_error {x : Except ε α} {f : α → Except ε β}
    (h : x >>= f = .error e) : x = .error e ∨ ∃ a, x = .ok a ∧ f a = .error e := by
  cases x with
  | ok a => exact Or.inr ⟨a, rfl, h⟩
  | error e' => exact Or.inl (congrArg Except.error (Except.error.inj h))

/-! ## Traversals -/

section

variable {f g : α → Except ε β} {xs : List α} {ys : List β}

/-- A traversal gives what each of the members gives. -/
theorem mapM_eq_ok_iff : xs.mapM f = .ok ys ↔ List.Forall₂ (fun x y => f x = .ok y) xs ys := by
  induction xs generalizing ys with
  | nil => exact ⟨fun h => Except.ok.inj h ▸ .nil, fun h => by cases h; rfl⟩
  | cons x xs ih =>
    rw [List.mapM_cons]
    constructor
    · intro h
      obtain ⟨y, hy, hrest⟩ := exists_of_bind_eq_ok h
      obtain ⟨ys', hys, hall⟩ := exists_of_bind_eq_ok hrest
      obtain rfl := Except.ok.inj hall
      exact .cons hy (ih.1 hys)
    · rintro (_ | ⟨hy, hys⟩)
      rw [hy, ih.2 hys]
      rfl

theorem exists_of_mapM_eq_ok (h : xs.mapM f = .ok ys) : ∀ x ∈ xs, ∃ y, f x = .ok y := by
  have hall := mapM_eq_ok_iff.1 h
  clear h
  induction hall with
  | nil => exact List.forall_mem_nil _
  | cons hy _ ih => exact List.forall_mem_cons.2 ⟨⟨_, hy⟩, ih⟩

/-- All that a traversal gives is given by some member. -/
theorem exists_of_mem_of_mapM_eq_ok (h : xs.mapM f = .ok ys) : ∀ y ∈ ys, ∃ x ∈ xs, f x = .ok y := by
  have hall := mapM_eq_ok_iff.1 h
  clear h
  induction hall with
  | nil => exact List.forall_mem_nil _
  | cons hy _ ih =>
    refine List.forall_mem_cons.2 ⟨⟨_, List.mem_cons_self, hy⟩, fun y hmem => ?_⟩
    obtain ⟨x, hx, hy⟩ := ih y hmem
    exact ⟨x, List.mem_cons_of_mem _ hx, hy⟩

/-- A traversal that gives each member back gives the list back. -/
theorem mapM_eq_self {f : α → Except ε α} (h : ∀ x ∈ xs, f x = .ok x) : xs.mapM f = .ok xs :=
  mapM_eq_ok_iff.2 (List.forall₂_same.2 h)

/-- A traversal fails only as one of the members does. -/
theorem exists_of_mapM_eq_error (h : xs.mapM f = .error e) : ∃ x ∈ xs, f x = .error e := by
  induction xs with
  | nil => cases h
  | cons x xs ih =>
    rw [List.mapM_cons] at h
    rcases eq_error_or_of_bind_eq_error h with hx | ⟨y, -, hrest⟩
    · exact ⟨x, List.mem_cons_self, hx⟩
    rcases eq_error_or_of_bind_eq_error hrest with hxs | ⟨ys, -, hall⟩
    · obtain ⟨later, hlater, hfails⟩ := ih hxs
      exact ⟨later, List.mem_cons_of_mem x hlater, hfails⟩
    · cases hall

/-- Traversals that do the same to each member are the same. -/
theorem mapM_congr (h : ∀ x ∈ xs, f x = g x) : xs.mapM f = xs.mapM g := by
  induction xs with
  | nil => rfl
  | cons x xs ih =>
    obtain ⟨hx, hxs⟩ := List.forall_mem_cons.1 h
    rw [List.mapM_cons, List.mapM_cons, hx, ih hxs]

end

end Remediation
