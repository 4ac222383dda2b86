import Remediation.Unseen
import Remediation.Value
/-!
# Dependencies

A `Web` lists vertices, each with the names that it depends on; names that are no vertices count for
nothing.

Two depth-first searches go through a web, one after the other.  Both go down from the vertices in
their order, and from each vertex to what it depends on, in order.  The first one looks for a cycle: it
tells vertices that are finished from those on the way down, and meets a cycle where it meets one of
the latter again (`cycle`).  The second one lists each vertex behind what it depends on (`order`).  It
tells only whether it has come by a vertex, and relies on the first one: on a cycle it would list a
vertex too early.

Where a search stands is a `Search` or a `Walk`, and each of its moves looks at one dependency of the
nearest vertex on the way down, or leaves that vertex.
-/

set_option autoImplicit false

namespace Remediation

/-- Vertices with the names that they depend on. -/
abbrev Web := List (String × List String)

namespace Web

/-- The names of the vertices. -/
def vertices (web : Web) : List String := web.map Prod.fst

/-- What a vertex depends on. -/
def needs (web : Web) (v : String) : List String := (lookupField web v).getD []

/-- Vertices on the way down, the nearest one first, each with those of its dependencies that have not
been looked at. -/
abbrev Pending := List (String × List String)

/-- The vertices on the way down. -/
def Pending.path (pending : Pending) : List String := pending.map Prod.fst

@[simp] theorem path_nil : Pending.path [] = [] := rfl

@[simp] theorem path_cons (v : String) (ds : List String) (rest : Pending) :
    Pending.path ((v, ds) :: rest) = v :: rest.path := rfl

/-- How many moves are left for what is pending. -/
def Pending.size : Pending → Nat
  | [] => 0
  | (_, ds) :: rest => ds.length + 1 + Pending.size rest

@[simp] theorem size_cons (v : String) (ds : List String) (rest : Pending) :
    Pending.size ((v, ds) :: rest) = ds.length + 1 + rest.size := rfl

/-! ## Looking for a cycle -/

/-- The cycle that closes when a vertex is met again on the path to it, whose nearest vertex comes
first. -/
def cycleAt (path : List String) (v : String) : List String :=
  v :: (path.takeWhile (· ≠ v)).reverse ++ [v]

/-- Where the search for a cycle stands. -/
structure Search where
  /-- The vertices that are left behind for good, in the order in which they were. -/
  finished : List String
  pending : Pending

namespace Search

/-- The vertices that the search has come by. -/
def seen (s : Search) : List String := s.pending.path ++ s.finished

/-- What the search does next. -/
inductive Move where
  /-- Nothing is pending. -/
  | ended
  /-- It has met a vertex again on the way down. -/
  | cycle (c : List String)
  | next (s : Search)

/-- Look at one dependency, or finish a vertex of which none is left. -/
def move (web : Web) (s : Search) : Move :=
  match s.pending with
  | [] => .ended
  | (v, []) :: rest => .next ⟨s.finished ++ [v], rest⟩
  | (v, d :: ds) :: rest =>
    if d ∉ web.vertices then .next ⟨s.finished, (v, ds) :: rest⟩
    else if d ∈ s.pending.path then .cycle (cycleAt s.pending.path d)
    else if d ∈ s.finished then .next ⟨s.finished, (v, ds) :: rest⟩
    else .next ⟨s.finished, (d, web.needs d) :: (v, ds) :: rest⟩

/-- All that a search can do next. -/
inductive Moves (web : Web) : Search → Move → Prop where
  | ended {finished : List String} : Moves web ⟨finished, []⟩ .ended
  | leave {finished : List String} {v : String} {rest : Pending} :
      Moves web ⟨finished, (v, []) :: rest⟩ (.next ⟨finished ++ [v], rest⟩)
  | pass {finished ds : List String} {v d : String} {rest : Pending} :
      (d ∈ web.vertices → d ∈ finished) →
      Moves web ⟨finished, (v, d :: ds) :: rest⟩ (.next ⟨finished, (v, ds) :: rest⟩)
  | meet {finished ds : List String} {v d : String} {rest : Pending} :
      d ∈ v :: rest.path →
      Moves web ⟨finished, (v, d :: ds) :: rest⟩ (.cycle (cycleAt (v :: rest.path) d))
  | down {finished ds : List String} {v d : String} {rest : Pending} :
      d ∈ web.vertices → d ∉ v :: rest.path → d ∉ finished →
      Moves web ⟨finished, (v, d :: ds) :: rest⟩
        (.next ⟨finished, (d, web.needs d) :: (v, ds) :: rest⟩)

theorem moves (web : Web) (s : Search) : Moves web s (s.move web) := by
  obtain ⟨finished, pending⟩ := s
  unfold move
  split
  next heq =>
    subst heq
    exact .ended
  next v rest heq =>
    subst heq
    exact .leave
  next v d ds rest heq =>
    subst heq
    split
    next hother => exact .pass fun hd => absurd hd hother
    next hd =>
      split
      next hmet => exact .meet hmet
      next hoff =>
        split
        next hfinished => exact .pass fun _ => hfinished
        next hfresh => exact .down (Decidable.not_not.1 hd) hoff hfresh

/-- What is left to do: vertices to come by, and then what is pending. -/
def left (web : Web) (s : Search) : Nat × Nat := (unseen web.vertices s.seen, s.pending.size)

theorem left_lt {web : Web} {s s' : Search} (h : Moves web s (.next s')) :
    Prod.Lex (· < ·) (· < ·) (s'.left web) (s.left web) := by
  cases h with
  | leave =>
    refine Prod.Lex.right' _ (unseen_le ?_) (by simp)
    simp only [seen, path_cons]
    grind
  | pass => exact Prod.Lex.right' _ (unseen_le fun _ hx => hx) (by simp)
  | @down finished ds v d rest hd hoff hfresh =>
    have hunseen : d ∉ v :: rest.path ++ finished := by grind
    exact Prod.Lex.left _ _ (unseen_cons_lt hd hunseen)

/-- Search until nothing is pending: the finished vertices, or the cycle that is met. -/
def run (web : Web) (s : Search) : Except (List String) (List String) :=
  match _h : s.move web with
  | .ended => .ok s.finished
  | .cycle c => .error c
  | .next s' => run web s'
termination_by s.left web
decreasing_by exact left_lt (_h ▸ moves web s)

end Search

/-- Search from each of some vertices that is not finished. -/
def search (web : Web) (finished : List String) :
    List String → Except (List String) (List String)
  | [] => .ok finished
  | root :: roots =>
    if root ∈ finished then search web finished roots
    else
      match Search.run web ⟨finished, [(root, web.needs root)]⟩ with
      | .error c => .error c
      | .ok finished => search web finished roots

/-- The first cycle that is met, its vertices from one back to itself; empty if there is none. -/
def cycle (web : Web) : List String :=
  match web.search [] web.vertices with
  | .ok _ => []
  | .error c => c

/-! ## Listing the vertices -/

/-- Where the listing of the vertices stands. -/
structure Walk where
  /-- The vertices that it has come by. -/
  visited : List String
  pending : Pending
  /-- The vertices that are listed. -/
  listed : List String

namespace Walk

/-- Look at one dependency, or list a vertex of which none is left. -/
def move (web : Web) (w : Walk) : Option Walk :=
  match w.pending with
  | [] => none
  | (v, []) :: rest => some ⟨w.visited, rest, w.listed ++ [v]⟩
  | (v, d :: ds) :: rest =>
    if d ∉ web.vertices ∨ d ∈ w.visited then some ⟨w.visited, (v, ds) :: rest, w.listed⟩
    else some ⟨d :: w.visited, (d, web.needs d) :: (v, ds) :: rest, w.listed⟩

/-- What is left to do: vertices to come by, and then what is pending. -/
def left (web : Web) (w : Walk) : Nat × Nat := (unseen web.vertices w.visited, w.pending.size)

theorem left_lt {web : Web} {w w' : Walk} (h : w.move web = some w') :
    Prod.Lex (· < ·) (· < ·) (w'.left web) (w.left web) := by
  obtain ⟨visited, pending, listed⟩ := w
  unfold move at h
  split at h
  next => cases h
  next v rest heq =>
    subst heq
    cases h
    exact Prod.Lex.right' _ (Nat.le_refl _) (by simp)
  next v d ds rest heq =>
    subst heq
    split at h
    next =>
      cases h
      exact Prod.Lex.right' _ (Nat.le_refl _) (by simp)
    next hd =>
      cases h
      refine Prod.Lex.left _ _ (unseen_cons_lt ?_ ?_)
      all_goals grind

/-- Walk until nothing is pending. -/
def run (web : Web) (w : Walk) : Walk :=
  match _h : w.move web with
  | none => w
  | some w' => run web w'
termination_by w.left web
decreasing_by exact left_lt _h

end Walk

/-- Walk from each of some vertices that has not been come by. -/
def walk (web : Web) (w : Walk) : List String → Walk
  | [] => w
  | root :: roots =>
    if root ∈ w.visited then walk web w roots
    else walk web (Walk.run web ⟨root :: w.visited, [(root, web.needs root)], w.listed⟩) roots

/-- All vertices, each behind what it depends on, if there is no cycle. -/
def order (web : Web) : List String := (web.walk ⟨[], [], []⟩ web.vertices).listed

end Web

end Remediation
