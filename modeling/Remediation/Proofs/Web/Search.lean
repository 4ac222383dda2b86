import Mathlib.Data.List.Chain
import Remediation.Dependency
import Remediation.Proofs.Acyclic
/-!
# The search through a web

What the search for a cycle keeps with every move (`Search.Kept`).  The finished vertices are listed
once and each stands behind all that it needs (`Settled`).  The way down is a walk of vertices that are
not finished, each of which needs the next one (`Trail`), and nothing that they need has been passed
over (`Awaited`).  The search therefore finishes what it comes by, or it stops with a cycle of the web
(`search_outcome`).
-/

set_option autoImplicit false

namespace Remediation.Web

variable {web : Web}

/-- A vertex needs another vertex. -/
def Edge (web : Web) (a b : String) : Prop :=
  a ∈ web.vertices ∧ b ∈ web.vertices ∧ b ∈ web.needs a

/-- A walk along edges from a vertex back to it that comes by no vertex twice. -/
def IsCycle (web : Web) (cycle : List String) : Prop :=
  ∃ v vs, cycle = v :: vs ++ [v] ∧ (v :: vs).Nodup ∧ cycle.IsChain web.Edge

/-- Vertices in an order in which none needs itself or one behind it, and nothing that is needed is
left out. -/
structure Settled (web : Web) (finished : List String) : Prop where
  nodup : finished.Nodup
  vertex : ∀ v ∈ finished, v ∈ web.vertices
  backward : finished.Pairwise fun early late => ¬ web.Edge early late
  loopless : ∀ v ∈ finished, ¬ web.Edge v v
  closed : ∀ v ∈ finished, ∀ d, web.Edge v d → d ∈ finished

/-- The way down to where a search stands, nearest vertex first. -/
structure Trail (web : Web) (path : List String) : Prop where
  nodup : path.Nodup
  vertex : ∀ v ∈ path, v ∈ web.vertices
  walk : path.IsChain fun near far => web.Edge far near

/-- What the vertices on the way down need has been looked at, and finished where it is a vertex, but
for what is still to be looked at and for the vertex above, which is on the way down itself. -/
inductive Awaited (web : Web) (finished : List String) : Option String → Pending → Prop where
  | nil {above : Option String} : Awaited web finished above []
  | cons {above : Option String} {v : String} {ds : List String} {rest : Pending} :
      (∀ d ∈ ds, d ∈ web.needs v) →
      (∀ d, web.Edge v d → d ∈ ds ∨ d ∈ finished ∨ above = some d) →
      Awaited web finished (some v) rest → Awaited web finished above ((v, ds) :: rest)

/-- What every move of the search for a cycle keeps. -/
structure Search.Kept (web : Web) (s : Search) : Prop where
  settled : web.Settled s.finished
  trail : web.Trail s.pending.path
  apart : ∀ v ∈ s.pending.path, v ∉ s.finished
  awaited : Awaited web s.finished none s.pending

/-- What a search leaves that has come by vertices. -/
def Outcome (web : Web) (seen : List String) : Except (List String) (List String) → Prop
  | .ok finished => web.Settled finished ∧ ∀ v ∈ seen, v ∈ finished
  | .error cycle => web.IsCycle cycle

/-! ## Settled vertices -/

theorem settled_nil (web : Web) : web.Settled [] where
  nodup := List.nodup_nil
  vertex := by simp
  backward := List.Pairwise.nil
  loopless := by simp
  closed := by simp

/-- A vertex may be finished when all that it needs is finished. -/
theorem Settled.concat {finished : List String} {v : String} (h : web.Settled finished)
    (hvertex : v ∈ web.vertices) (hfresh : v ∉ finished)
    (hneeds : ∀ d, web.Edge v d → d ∈ finished) : web.Settled (finished ++ [v]) where
  nodup := by grind [h.nodup]
  vertex := by grind [h.vertex]
  backward := by
    refine List.pairwise_append.2 ⟨h.backward, List.pairwise_singleton _ _, ?_⟩
    intro early hearly late hlate hedge
    rw [List.mem_singleton] at hlate
    subst hlate
    exact hfresh (h.closed early hearly late hedge)
  loopless := by
    intro u hu hedge
    rcases List.mem_append.1 hu with hu | hu
    · exact h.loopless u hu hedge
    · rw [List.mem_singleton] at hu
      subst hu
      exact hfresh (hneeds u hedge)
  closed := by
    intro u hu d hedge
    rcases List.mem_append.1 hu with hu | hu
    · exact List.mem_append_left _ (h.closed u hu d hedge)
    · rw [List.mem_singleton] at hu
      exact List.mem_append_left _ (hneeds d (hu ▸ hedge))

/-- What a settled vertex needs stands in front of it. -/
theorem Settled.mem_before {before behind : List String} {v d : String}
    (h : web.Settled (before ++ v :: behind)) (hedge : web.Edge v d) : d ∈ before := by
  have hd := h.closed v (by simp) d hedge
  have hbehind := (List.pairwise_cons.1 (List.pairwise_append.1 h.backward).2.1).1
  rcases List.mem_append.1 hd with hd | hd
  · exact hd
  · rcases List.mem_cons.1 hd with rfl | hd
    · exact absurd hedge (h.loopless d (by simp))
    · exact absurd hedge (hbehind d hd)

/-! ## The cycle that a search meets -/

/-- The way back along a trail to one of its vertices closes to a cycle with an edge to it. -/
theorem isCycle_cycleAt {path : List String} {v : String} (h : web.Trail path) (hv : v ∈ path)
    (hedge : ∀ p ∈ path.head?, web.Edge p v) : web.IsCycle (cycleAt path v) := by
  obtain ⟨near, far, rfl, hnear⟩ := List.eq_append_cons_of_mem hv
  have htake : (near ++ v :: far).takeWhile (· ≠ v) = near := by
    rw [List.takeWhile_append_of_pos (by grind), List.takeWhile_cons_of_neg (by simp)]
    simp
  refine ⟨v, near.reverse, by rw [cycleAt, htake], ?_, ?_⟩
  · have hnodup := h.nodup
    grind
  · have hwalk : (near ++ [v]).IsChain fun near far => web.Edge far near :=
      h.walk.prefix ⟨far, by simp⟩
    have hback : (near ++ [v]).reverse.IsChain web.Edge := List.isChain_reverse.2 hwalk
    have hlast : (near ++ [v]).reverse.getLast? = (near ++ v :: far).head? := by
      rw [List.getLast?_reverse]
      cases near <;> rfl
    have hclosed : ((near ++ [v]).reverse ++ [v]).IsChain web.Edge := by
      refine List.isChain_append.2 ⟨hback, List.isChain_singleton v, ?_⟩
      intro p hp u hu
      rw [hlast] at hp
      obtain rfl : v = u := by simpa using hu
      exact hedge p hp
    rw [cycleAt, htake]
    simpa using hclosed

/-! ## One move -/

theorem Awaited.mono {finished more : List String} {above : Option String} {pending : Pending}
    (h : Awaited web finished above pending) (hsub : finished ⊆ more) :
    Awaited web more above pending := by
  induction h with
  | nil => exact .nil
  | cons hneeds hedges _ ih =>
    refine .cons hneeds ?_ ih
    intro d hedge
    exact (hedges d hedge).imp_right (Or.imp_left (hsub ·))

/-- The vertex above that is finished is no longer on the way down. -/
theorem Awaited.leave {finished : List String} {v : String} {pending : Pending}
    (h : Awaited web finished (some v) pending) :
    Awaited web (finished ++ [v]) none pending := by
  cases h with
  | nil => exact .nil
  | cons hneeds hedges hrest =>
    refine .cons hneeds ?_ (hrest.mono (List.subset_append_left _ _))
    intro d hedge
    rcases hedges d hedge with hd | hd | hd
    · exact Or.inl hd
    · exact Or.inr (Or.inl (List.mem_append_left _ hd))
    · exact Or.inr (Or.inl (by simp [Option.some.inj hd]))

/-- A vertex that is put in front of a trail which needs it makes it longer. -/
theorem Trail.cons {path : List String} {v d : String} (h : web.Trail (v :: path))
    (hedge : web.Edge v d) (hoff : d ∉ v :: path) : web.Trail (d :: v :: path) where
  nodup := List.nodup_cons.2 ⟨hoff, h.nodup⟩
  vertex := by
    intro u hu
    rcases List.mem_cons.1 hu with rfl | hu
    · exact hedge.2.1
    · exact h.vertex u hu
  walk := List.isChain_cons_cons.2 ⟨hedge, h.walk⟩

theorem Trail.tail {path : List String} {v : String} (h : web.Trail (v :: path)) :
    web.Trail path where
  nodup := (List.nodup_cons.1 h.nodup).2
  vertex := fun u hu => h.vertex u (List.mem_cons_of_mem _ hu)
  walk := h.walk.tail

theorem Awaited.uncons {finished ds : List String} {above : Option String} {v : String}
    {rest : Pending} (h : Awaited web finished above ((v, ds) :: rest)) :
    (∀ d ∈ ds, d ∈ web.needs v) ∧
      (∀ d, web.Edge v d → d ∈ ds ∨ d ∈ finished ∨ above = some d) ∧
      Awaited web finished (some v) rest := by
  cases h with
  | cons hneeds hedges hrest => exact ⟨hneeds, hedges, hrest⟩

namespace Search

/-- A vertex is finished when all that it needs is. -/
theorem Kept.leave {finished : List String} {v : String} {rest : Pending}
    (h : Kept web ⟨finished, (v, []) :: rest⟩) : Kept web ⟨finished ++ [v], rest⟩ where
  settled := by
    refine h.settled.concat (h.trail.vertex v List.mem_cons_self) (h.apart v List.mem_cons_self) ?_
    intro d hedge
    simpa using h.awaited.uncons.2.1 d hedge
  trail := h.trail.tail
  apart := by
    intro u hu hmem
    rcases List.mem_append.1 hmem with hmem | hmem
    · exact h.apart u (List.mem_cons_of_mem _ hu) hmem
    · obtain rfl := List.mem_singleton.1 hmem
      exact (List.nodup_cons.1 h.trail.nodup).1 hu
  awaited := h.awaited.uncons.2.2.leave

/-- What is no vertex or is finished already need not be looked at. -/
theorem Kept.pass {finished ds : List String} {v d : String} {rest : Pending}
    (h : Kept web ⟨finished, (v, d :: ds) :: rest⟩) (hpass : d ∈ web.vertices → d ∈ finished) :
    Kept web ⟨finished, (v, ds) :: rest⟩ where
  settled := h.settled
  trail := h.trail
  apart := h.apart
  awaited := by
    obtain ⟨hneeds, hedges, hrest⟩ := h.awaited.uncons
    refine .cons (fun u hu => hneeds u (List.mem_cons_of_mem _ hu)) ?_ hrest
    intro u hedge
    rcases hedges u hedge with hu | hu
    · rcases List.mem_cons.1 hu with rfl | hu
      · exact Or.inr (Or.inl (hpass hedge.2.1))
      · exact Or.inl hu
    · exact Or.inr hu

/-- A vertex that is met for the first time comes on top of the way down. -/
theorem Kept.down {finished ds : List String} {v d : String} {rest : Pending}
    (h : Kept web ⟨finished, (v, d :: ds) :: rest⟩) (hd : d ∈ web.vertices)
    (hoff : d ∉ v :: rest.path) (hfresh : d ∉ finished) :
    Kept web ⟨finished, (d, web.needs d) :: (v, ds) :: rest⟩ where
  settled := h.settled
  trail := by
    have hneeded : d ∈ web.needs v := h.awaited.uncons.1 d List.mem_cons_self
    exact h.trail.cons ⟨h.trail.vertex v List.mem_cons_self, hd, hneeded⟩ hoff
  apart := by
    intro u hu
    rcases List.mem_cons.1 hu with rfl | hu
    · exact hfresh
    · exact h.apart u hu
  awaited := by
    obtain ⟨hneeds, hedges, hrest⟩ := h.awaited.uncons
    refine .cons (fun u hu => hu) (fun u hedge => Or.inl hedge.2.2) ?_
    refine .cons (fun u hu => hneeds u (List.mem_cons_of_mem _ hu)) ?_ hrest
    intro u hedge
    rcases hedges u hedge with hu | hu | hu
    · rcases List.mem_cons.1 hu with rfl | hu
      · exact Or.inr (Or.inr rfl)
      · exact Or.inl hu
    · exact Or.inr (Or.inl hu)
    · cases hu

/-- Each move keeps what the search keeps. -/
theorem Kept.move {s s' : Search} (h : s.Kept web) (hmoves : Moves web s (.next s')) :
    s'.Kept web := by
  cases hmoves with
  | leave => exact h.leave
  | pass hpass => exact h.pass hpass
  | down hd hoff hfresh => exact h.down hd hoff hfresh

/-- What the search meets again on the way down closes a cycle. -/
theorem Kept.isCycle {s : Search} {c : List String} (h : s.Kept web)
    (hmoves : Moves web s (.cycle c)) : web.IsCycle c := by
  cases hmoves with
  | @meet finished ds v d rest hmet =>
    refine isCycle_cycleAt h.trail hmet ?_
    intro p hp
    obtain rfl : v = p := by simpa using hp
    exact ⟨h.trail.vertex v List.mem_cons_self, h.trail.vertex d hmet,
      h.awaited.uncons.1 d List.mem_cons_self⟩

/-- What has been come by stays so. -/
theorem seen_subset {s s' : Search} (h : Moves web s (.next s')) :
    s.seen ⊆ s'.seen := by
  intro u hu
  cases h with
  | leave =>
    simp only [seen, path_cons] at hu ⊢
    grind
  | pass => exact hu
  | down => exact List.mem_cons_of_mem _ hu

end Search

/-! ## A whole search -/

theorem Outcome.mono {seen more : List String} {result : Except (List String) (List String)}
    (h : web.Outcome more result) (hsub : seen ⊆ more) : web.Outcome seen result := by
  cases result with
  | error cycle => exact h
  | ok finished => exact ⟨h.1, fun v hv => h.2 v (hsub hv)⟩

/-- A search that is run to its end finishes all that it has come by, or it stops with a cycle. -/
theorem run_outcome {s : Search} (h : s.Kept web) : web.Outcome s.seen (s.run web) := by
  induction s using Search.run.induct web with
  | case1 s hended =>
    rw [Search.run, hended]
    cases hended ▸ s.moves web with
    | ended => exact ⟨h.settled, fun v hv => hv⟩
  | case2 s c hcycle =>
    rw [Search.run, hcycle]
    exact h.isCycle (hcycle ▸ s.moves web)
  | case3 s s' hnext ih =>
    have hmoves : Search.Moves web s (.next s') := hnext ▸ s.moves web
    rw [Search.run, hnext]
    exact (ih (h.move hmoves)).mono (Search.seen_subset hmoves)

/-- What the search from a vertex begins with. -/
theorem kept_start {finished : List String} {root : String} (h : web.Settled finished)
    (hvertex : root ∈ web.vertices) (hfresh : root ∉ finished) :
    Search.Kept web ⟨finished, [(root, web.needs root)]⟩ where
  settled := h
  trail := ⟨by simp, by simpa using hvertex, List.isChain_singleton root⟩
  apart := by simpa using hfresh
  awaited := .cons (fun _ hd => hd) (fun _ hd => Or.inl hd.2.2) .nil

/-- A search from many vertices keeps what is finished and finishes all of them, or it stops with a
cycle. -/
theorem search_outcome {finished roots : List String} (h : web.Settled finished)
    (hroots : ∀ r ∈ roots, r ∈ web.vertices) :
    web.Outcome (finished ++ roots) (web.search finished roots) := by
  induction roots generalizing finished with
  | nil => exact ⟨h, by simp⟩
  | cons root roots ih =>
    have hrest : ∀ r ∈ roots, r ∈ web.vertices := fun r hr => hroots r (List.mem_cons_of_mem _ hr)
    unfold search
    split
    next hfinished => exact (ih h hrest).mono (by grind)
    next hfresh =>
      have hrun := run_outcome (kept_start h (hroots root List.mem_cons_self) hfresh)
      split
      next c hc =>
        rw [hc] at hrun
        exact hrun
      next reached hreached =>
        rw [hreached] at hrun
        obtain ⟨hsettled, hseen⟩ := hrun
        refine (ih hsettled hrest).mono ?_
        simp only [Search.seen, path_cons, path_nil] at hseen
        grind

end Remediation.Web
