import Mathlib.Data.List.Induction
import Mathlib.Data.List.Nodup
import Remediation.Template
/-!
# Lists without repetition

A list to which only new members are appended holds the old members and the new one; what is appended
of a whole list stands behind the old members, each once (`AreNew`).  In a list without repetition
places tell what stands in front.
-/

set_option autoImplicit false

namespace Remediation

variable {α : Type} [DecidableEq α]

@[simp] theorem mem_appendNew {found : List α} {x y : α} :
    x ∈ appendNew found y ↔ x ∈ found ∨ x = y := by
  unfold appendNew
  split
  next hy =>
    constructor
    · exact Or.inl
    · rintro (hx | rfl)
      · exact hx
      · exact hy
  next => simp

@[simp] theorem mem_foldl_appendNew {xs found : List α} {x : α} :
    x ∈ xs.foldl appendNew found ↔ x ∈ found ∨ x ∈ xs := by
  induction xs generalizing found with
  | nil => simp
  | cons y ys ih => simp [ih, or_assoc]

/-- What the others in a list are mapped to is different from what one of them is mapped to. -/
theorem nodup_map_middle {β γ : Type} {f : β → γ} {front behind : List β} {b : β}
    (h : ((front ++ b :: behind).map f).Nodup) : (f b :: (front ++ behind).map f).Nodup := by
  rw [List.map_append, List.map_cons, List.nodup_middle] at h
  rwa [List.map_append]

theorem nodup_appendNew {found : List α} (h : found.Nodup) (x : α) : (appendNew found x).Nodup := by
  unfold appendNew
  split
  next => exact h
  next hx => exact List.concat_eq_append ▸ h.concat hx

theorem nodup_foldl_appendNew {found : List α} (h : found.Nodup) (xs : List α) :
    (xs.foldl appendNew found).Nodup := by
  induction xs generalizing found with
  | nil => exact h
  | cons x xs ih => exact ih (nodup_appendNew h x)

/-! ## What is appended -/

omit [DecidableEq α] in
/-- The members of `xs` that are not in `found`, each once, in the order in which it comes first. -/
structure AreNew (found xs added : List α) : Prop where
  nodup : added.Nodup
  mem_iff : ∀ x, x ∈ added ↔ x ∈ xs ∧ x ∉ found
  inOrder : added.Pairwise fun a b => ∃ front behind, xs = front ++ a :: behind ∧ b ∉ front

namespace AreNew

variable {found xs added : List α} {x : α}

omit [DecidableEq α]

theorem nil : AreNew found ([] : List α) [] where
  nodup := List.nodup_nil
  mem_iff := by simp
  inOrder := List.Pairwise.nil

/-- What comes first does so in a longer list. -/
theorem inOrder_append (h : AreNew found xs added) (x : α) :
    added.Pairwise fun a b => ∃ front behind, xs ++ [x] = front ++ a :: behind ∧ b ∉ front := by
  refine h.inOrder.imp ?_
  rintro a b ⟨front, behind, rfl, hfront⟩
  exact ⟨front, behind ++ [x], by simp, hfront⟩

/-- A member that is there already is not new. -/
theorem concat_old (h : AreNew found xs added) (hx : x ∈ found ++ added) :
    AreNew found (xs ++ [x]) added where
  nodup := h.nodup
  mem_iff := by
    intro y
    rw [h.mem_iff, List.mem_append, List.mem_singleton]
    refine and_congr_left fun hy => ⟨Or.inl, ?_⟩
    rintro (hys | rfl)
    · exact hys
    · exact ((h.mem_iff y).1 ((List.mem_append.1 hx).resolve_left hy)).1
  inOrder := h.inOrder_append x

theorem concat_new (h : AreNew found xs added) (hx : x ∉ found ++ added) :
    AreNew found (xs ++ [x]) (added ++ [x]) := by
  obtain ⟨hold, hnew⟩ := not_or.1 (mt List.mem_append.2 hx)
  have hfresh : x ∉ xs := fun hxs => hnew ((h.mem_iff x).2 ⟨hxs, hold⟩)
  refine ⟨List.concat_eq_append ▸ h.nodup.concat hnew, ?_, ?_⟩
  · intro y
    rw [List.mem_append, h.mem_iff, List.mem_append, List.mem_singleton, or_and_right]
    refine or_congr_right (iff_self_and.2 ?_)
    rintro rfl
    exact hold
  · refine List.pairwise_append.2 ⟨h.inOrder_append x, List.pairwise_singleton _ _, ?_⟩
    intro a ha b hb
    obtain rfl := List.mem_singleton.1 hb
    obtain ⟨front, behind, hsplit⟩ := List.append_of_mem ((h.mem_iff a).1 ha).1
    refine ⟨front, behind ++ [b], by rw [hsplit]; simp, ?_⟩
    intro hfront
    exact hfresh (hsplit ▸ List.mem_append_left _ hfront)

end AreNew

/-- What is appended stands behind the old members. -/
theorem exists_foldl_appendNew (found xs : List α) :
    ∃ added, xs.foldl appendNew found = found ++ added ∧ AreNew found xs added := by
  induction xs using List.reverseRecOn with
  | nil => exact ⟨[], (List.append_nil found).symm, .nil⟩
  | append_singleton xs x ih =>
    obtain ⟨added, hfold, hnew⟩ := ih
    rw [List.foldl_append, List.foldl_cons, List.foldl_nil, hfold]
    by_cases hx : x ∈ found ++ added
    · exact ⟨added, if_pos hx, hnew.concat_old hx⟩
    · refine ⟨added ++ [x], ?_, hnew.concat_new hx⟩
      rw [appendNew, if_neg hx, List.append_assoc]

/-- Nothing is appended that is there already. -/
theorem foldl_appendNew_of_subset {xs found : List α} (h : xs ⊆ found) :
    xs.foldl appendNew found = found := by
  induction xs with
  | nil => rfl
  | cons y ys ih =>
    obtain ⟨hy, hys⟩ := List.cons_subset.1 h
    rw [List.foldl_cons, appendNew, if_pos hy, ih hys]

/-- What members stand for, each once, is the same if the members are taken each once. -/
theorem foldl_appendNew_flatMap {β : Type} [DecidableEq β] (f : α → List β) (found xs : List α) :
    ((xs.foldl appendNew found).flatMap f).foldl appendNew [] =
      ((found ++ xs).flatMap f).foldl appendNew [] := by
  induction xs generalizing found with
  | nil => simp
  | cons y ys ih =>
    rw [List.foldl_cons, ih]
    by_cases hy : y ∈ found
    · have hthere : appendNew found y = found := if_pos hy
      have hnothing : f y ⊆ (found.flatMap f).foldl appendNew [] := by
        intro b hb
        exact mem_foldl_appendNew.2 (Or.inr (List.mem_flatMap.2 ⟨y, hy, hb⟩))
      rw [hthere, List.flatMap_append, List.flatMap_append, List.flatMap_cons, List.foldl_append,
        List.foldl_append, List.foldl_append, foldl_appendNew_of_subset hnothing]
    · have hnew : appendNew found y = found ++ [y] := if_neg hy
      rw [hnew, List.append_assoc, List.singleton_append]

omit [DecidableEq α] in
theorem notMem_before {before behind : List α} {x : α} (h : (before ++ x :: behind).Nodup) :
    x ∉ before := by
  intro hmem
  exact (List.nodup_append.1 h).2.2 x hmem x List.mem_cons_self rfl

/-- What stands in front of a member has an earlier place. -/
theorem idxOf_lt_idxOf_of_mem_before {before behind : List α} {x y : α}
    (h : (before ++ x :: behind).Nodup) (hy : y ∈ before) :
    (before ++ x :: behind).idxOf y < (before ++ x :: behind).idxOf x := by
  have hx : x ∉ before := notMem_before h
  have hplace : (before ++ x :: behind).idxOf x = before.length := by
    rw [List.idxOf_append, if_neg hx]
    simp
  rw [hplace, List.idxOf_append, if_pos hy]
  exact List.idxOf_lt_length_of_mem hy

/-- What has an earlier place than a member stands in front of it. -/
theorem mem_before_of_idxOf_lt_idxOf {before behind : List α} {x y : α}
    (h : (before ++ x :: behind).Nodup)
    (hlt : (before ++ x :: behind).idxOf y < (before ++ x :: behind).idxOf x) : y ∈ before := by
  have hx : x ∉ before := notMem_before h
  by_cases hy : y ∈ before
  · exact hy
  · rw [List.idxOf_append, if_neg hy, List.idxOf_append, if_neg hx] at hlt
    simp only [List.idxOf_cons_self] at hlt
    omega

/-- Of two members in the order of the list, the first one has the earlier place. -/
theorem idxOf_lt_idxOf_of_sublist {xs : List α} {x y : α} (h : xs.Nodup)
    (hsub : [x, y].Sublist xs) : xs.idxOf x < xs.idxOf y := by
  have hordered : xs.Pairwise fun a b => xs.idxOf a < xs.idxOf b := by
    refine List.pairwise_iff_getElem.2 ?_
    intro i j hi hj hij
    rwa [h.idxOf_getElem i hi, h.idxOf_getElem j hj]
  simpa using hordered.sublist hsub

end Remediation
