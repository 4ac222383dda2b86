import Remediation.Dependency
import Remediation.Proofs.Fields
/-!
# The front of a web

Where no vertex in front needs one behind, the walk stays in front until it has listed all that is there.
So the front is listed as if nothing stood behind it (`order_prefix_append`).
-/

set_option autoImplicit false

namespace Remediation.Web

variable {web front behind : Web} {w w' : Walk} {v : String}

namespace Walk

theorem run_eq_self (h : w.move web = none) : w.run web = w := by
  rw [run, h]

theorem run_eq_of_move (h : w.move web = some w') : w.run web = w'.run web := by
  rw [run, h]

/-! ## What is listed stays listed -/

theorem listed_prefix_of_move (h : w.move web = some w') : w.listed <+: w'.listed := by
  obtain ⟨visited, pending, listed⟩ := w
  unfold move at h
  split at h
  next => cases h
  next =>
    cases h
    exact List.prefix_append _ _
  next =>
    split at h
    all_goals
      cases h
      exact List.prefix_refl _

theorem listed_prefix_run (web : Web) (w : Walk) : w.listed <+: (w.run web).listed := by
  induction w using Walk.run.induct web with
  | case1 w hended => exact ⟨[], by rw [run_eq_self hended, List.append_nil]⟩
  | case2 w w' hnext ih =>
    rw [run_eq_of_move hnext]
    exact (listed_prefix_of_move hnext).trans ih

end Walk

theorem listed_prefix_walk (web : Web) (w : Walk) (roots : List String) :
    w.listed <+: (web.walk w roots).listed := by
  induction roots generalizing w with
  | nil => exact List.prefix_refl _
  | cons root roots ih =>
    rw [walk]
    split
    next => exact ih w
    next => exact (Walk.listed_prefix_run web ⟨root :: w.visited, _, w.listed⟩).trans (ih _)

/-- A walk from many vertices goes on from where the walk from the first ones has ended. -/
theorem walk_append (web : Web) (w : Walk) (first later : List String) :
    web.walk w (first ++ later) = web.walk (web.walk w first) later := by
  induction first generalizing w with
  | nil => rfl
  | cons root roots ih =>
    rw [List.cons_append, walk, walk]
    split
    next => exact ih w
    next => exact ih _

/-! ## Walking in front -/

@[simp] theorem vertices_append (front behind : Web) :
    (front ++ behind).vertices = front.vertices ++ behind.vertices :=
  List.map_append

/-- What stands behind changes nothing about what a vertex in front needs. -/
theorem needs_append_of_mem (h : v ∈ front.vertices) :
    (front ++ behind).needs v = front.needs v := by
  have hthere : lookupField front v ≠ none := fun hnone => lookupField_eq_none_iff.1 hnone h
  obtain ⟨ds, hds⟩ := Option.ne_none_iff_exists'.1 hthere
  rw [needs, needs, lookupField_append, hds, Option.some_or]

/-- No vertex in front needs one behind. -/
def Leads (front behind : Web) : Prop :=
  ∀ v ∈ front.vertices, ∀ d ∈ front.needs v, d ∉ behind.vertices

namespace Walk

/-- All that a walk has still to look at is no vertex behind. -/
def StaysBefore (behind : Web) (w : Walk) : Prop :=
  ∀ p ∈ w.pending, ∀ d ∈ p.2, d ∉ behind.vertices

namespace StaysBefore

/-- A walk that stays in front moves as if nothing stood behind. -/
theorem move_append (h : w.StaysBefore behind) (front : Web) :
    w.move (front ++ behind) = w.move front := by
  obtain ⟨visited, pending, listed⟩ := w
  match pending, h with
  | [], _ | (_, []) :: _, _ => rfl
  | (v, d :: ds) :: rest, h =>
    have hd : d ∉ behind.vertices := h _ List.mem_cons_self d List.mem_cons_self
    by_cases hfront : d ∈ front.vertices
    · simp only [Walk.move, vertices_append, List.mem_append, hd, or_false, needs_append_of_mem hfront]
    · have hneither : d ∉ (front ++ behind).vertices := by simp [hfront, hd]
      exact (if_pos (Or.inl hneither)).trans (if_pos (Or.inl hfront)).symm

/-- A walk that stays in front goes to vertices in front, and they need none behind. -/
theorem move (h : w.StaysBefore behind) (hleads : Leads front behind)
    (hmove : w.move front = some w') : w'.StaysBefore behind := by
  obtain ⟨visited, pending, listed⟩ := w
  unfold Walk.move at hmove
  split at hmove
  next => cases hmove
  next v rest heq =>
    subst heq
    cases hmove
    exact (List.forall_mem_cons.1 h).2
  next v d ds rest heq =>
    subst heq
    obtain ⟨hnear, hrest⟩ := List.forall_mem_cons.1 h
    have hlater : ∀ p ∈ (v, ds) :: rest, ∀ d ∈ p.2, d ∉ behind.vertices :=
      List.forall_mem_cons.2 ⟨(List.forall_mem_cons.1 hnear).2, hrest⟩
    split at hmove
    next =>
      cases hmove
      exact hlater
    next hd =>
      cases hmove
      have hvertex : d ∈ front.vertices := Decidable.not_not.1 fun hnot => hd (Or.inl hnot)
      exact List.forall_mem_cons.2 ⟨hleads d hvertex, hlater⟩

theorem run_append (h : w.StaysBefore behind) (hleads : Leads front behind) :
    w.run (front ++ behind) = w.run front := by
  induction w using Walk.run.induct front with
  | case1 w hended =>
    rw [run_eq_self hended, run_eq_self ((h.move_append front).trans hended)]
  | case2 w w' hnext ih =>
    rw [run_eq_of_move hnext, run_eq_of_move ((h.move_append front).trans hnext)]
    exact ih (h.move hleads hnext)

end StaysBefore

end Walk

/-- From vertices in front, the walk goes as if nothing stood behind. -/
theorem walk_front (hleads : Leads front behind) {roots : List String}
    (hroots : ∀ root ∈ roots, root ∈ front.vertices) (w : Walk) :
    (front ++ behind).walk w roots = front.walk w roots := by
  induction roots generalizing w with
  | nil => rfl
  | cons root roots ih =>
    obtain ⟨hroot, hrest⟩ := List.forall_mem_cons.1 hroots
    have hstart : Walk.StaysBefore behind
        ⟨root :: w.visited, [(root, front.needs root)], w.listed⟩ :=
      List.forall_mem_singleton.2 (hleads root hroot)
    rw [walk, walk, needs_append_of_mem hroot, hstart.run_append hleads, ih hrest, ih hrest]

/-- Where no vertex in front needs one behind, the front is listed first, as if nothing stood behind. -/
theorem order_prefix_append (hleads : Leads front behind) :
    front.order <+: (front ++ behind).order := by
  rw [order, order, vertices_append, walk_append, walk_front hleads fun _ hroot => hroot]
  exact listed_prefix_walk _ _ _

end Remediation.Web
