import Remediation.Proofs.Web.Cycle
/-!
# The order of a web without cycles

Where no cycle is found, the walk that lists the vertices does at every move what the search for a
cycle has done (`Follows`), so that it lists them in the order in which they were finished
(`order_eq_of_search`): each behind all that it needs (`settled_order`).
-/

set_option autoImplicit false

namespace Remediation.Web

variable {web : Web}

/-- A walk stands where a search stands: it has come by the same vertices. -/
structure Follows (s : Search) (w : Walk) : Prop where
  pending : w.pending = s.pending
  listed : w.listed = s.finished
  visited : ∀ v, v ∈ w.visited ↔ v ∈ s.seen

namespace Follows

/-- A walk moves as the search that it follows. -/
theorem move {s s' : Search} {w : Walk} (h : Follows s w) (hmoves : s.Moves web (.next s')) :
    ∃ w', w.move web = some w' ∧ Follows s' w' := by
  obtain ⟨visited, pending, listed⟩ := w
  obtain ⟨rfl, rfl, hvisited⟩ := h
  cases hmoves with
  | leave =>
    refine ⟨_, rfl, rfl, rfl, ?_⟩
    intro u
    rw [hvisited]
    simp only [Search.seen, path_cons]
    grind
  | @pass finished ds v d rest hpass =>
    have hskip : d ∉ web.vertices ∨ d ∈ visited := by
      by_cases hd : d ∈ web.vertices
      · exact Or.inr ((hvisited d).2 (List.mem_append_right _ (hpass hd)))
      · exact Or.inl hd
    exact ⟨_, if_pos hskip, rfl, rfl, hvisited⟩
  | @down finished ds v d rest hd hoff hfresh =>
    have hunseen : d ∉ visited := by
      rw [hvisited]
      simp only [Search.seen, path_cons]
      grind
    refine ⟨_, if_neg (by simp [hd, hunseen]), rfl, rfl, ?_⟩
    intro u
    rw [List.mem_cons, hvisited]
    simp only [Search.seen, path_cons]
    grind

/-- A walk that follows a search ends with it, if the search meets no cycle. -/
theorem run {s : Search} {w : Walk} {finished : List String} (h : Follows s w)
    (hrun : s.run web = .ok finished) : Follows ⟨finished, []⟩ (w.run web) := by
  induction s using Search.run.induct web generalizing w with
  | case1 s hended =>
    rw [Search.run, hended] at hrun
    obtain rfl := Except.ok.inj hrun
    cases hended ▸ s.moves web with
    | ended =>
      have hended : w.move web = none := by
        rw [Walk.move, h.pending]
      rw [Walk.run, hended]
      exact h
  | case2 s c hcycle =>
    rw [Search.run, hcycle] at hrun
    cases hrun
  | case3 s s' hnext ih =>
    rw [Search.run, hnext] at hrun
    obtain ⟨w', hmove, hfollows⟩ := h.move (hnext ▸ s.moves web)
    rw [Walk.run, hmove]
    exact ih hfollows hrun

/-- A walk from many vertices lists what the search from them finishes, if it meets no cycle. -/
theorem walk {finished reached roots : List String} {w : Walk} (h : Follows ⟨finished, []⟩ w)
    (hsearch : web.search finished roots = .ok reached) :
    Follows ⟨reached, []⟩ (web.walk w roots) := by
  induction roots generalizing finished w with
  | nil =>
    obtain rfl := Except.ok.inj hsearch
    exact h
  | cons root roots ih =>
    have hvisited : root ∈ w.visited ↔ root ∈ finished := h.visited root
    unfold search at hsearch
    unfold Web.walk
    split at hsearch
    next hfinished =>
      rw [if_pos (hvisited.2 hfinished)]
      exact ih h hsearch
    next hfresh =>
      rw [if_neg fun hmem => hfresh (hvisited.1 hmem)]
      split at hsearch
      next => cases hsearch
      next between hrun =>
        have hstart : Follows ⟨finished, [(root, web.needs root)]⟩
            ⟨root :: w.visited, [(root, web.needs root)], w.listed⟩ := by
          refine ⟨rfl, h.listed, ?_⟩
          intro u
          rw [List.mem_cons, h.visited]
          simp [Search.seen]
        exact ih (hstart.run hrun) hsearch

end Follows

/-- Where the search meets no cycle, vertices are listed in the order in which it finishes them. -/
theorem order_eq_of_search {finished : List String}
    (h : web.search [] web.vertices = .ok finished) : web.order = finished := by
  have hstart : Follows ⟨[], []⟩ ⟨[], [], []⟩ := ⟨rfl, rfl, by simp [Search.seen]⟩
  exact (hstart.walk h).listed

/-- Where there is no cycle, all vertices are listed, each behind what it needs. -/
theorem settled_order (h : web.cycle = []) :
    web.Settled web.order ∧ ∀ v, v ∈ web.order ↔ v ∈ web.vertices := by
  rcases cycle_cases web with ⟨-, finished, hsearch, hsettled, hall⟩ | hcycle
  · rw [order_eq_of_search hsearch]
    exact ⟨hsettled, hall⟩
  · exact absurd h hcycle.ne_nil

end Remediation.Web
