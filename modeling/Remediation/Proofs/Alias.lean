import Mathlib.Logic.Relation
import Remediation.Alias
import Remediation.Proofs.Distinct
/-!
# What aliases stand for

Resolving a list of names finds exactly the names at which the aliases end that can be reached from
them (`mem_resolve_iff`).

A search does not follow a name again that it has come by.  It still misses nothing: on the shortest
way to an end, all names that the search has come by are farther from that end than where it stands.

A search hands on what it has found before.  What it adds does not depend on that: a visit finds a
list of names of its own (`finds`), and these are appended as far as they are new
(`resolve_eq_foldl`).  Laws of resolving are therefore proved of these lists, in which a name may
stand more than once.

What a name stands for can be looked up in any table that says the same of all names
(`resolve_congr`).  A name from which no end can be reached might as well not be there
(`resolve_of_endless`).
-/

set_option autoImplicit false

namespace Remediation.Aliases

open Relation

variable {table : Aliases}

/-- A name stands for another one. -/
def Leads (table : Aliases) (a b : String) : Prop :=
  ∃ targets, lookupField table a = some targets ∧ targets ≠ [a] ∧ b ∈ targets

/-- A name stands for nothing but itself. -/
def Ends (table : Aliases) (a : String) : Prop :=
  lookupField table a = none ∨ lookupField table a = some [a]

/-- A name is reached from another one in so many steps. -/
inductive Reaches (table : Aliases) (goal : String) : Nat → String → Prop where
  | here : Reaches table goal 0 goal
  | step {n : Nat} {a b : String} : table.Leads a b → Reaches table goal n b →
      Reaches table goal (n + 1) a

theorem exists_reaches_of_reflTransGen {a goal : String} (h : ReflTransGen table.Leads a goal) :
    ∃ n, table.Reaches goal n a := by
  induction h using ReflTransGen.head_induction_on with
  | refl => exact ⟨0, .here⟩
  | head hstep _ ih =>
    obtain ⟨n, hn⟩ := ih
    exact ⟨n + 1, .step hstep hn⟩

/-! ## What a visit does -/

theorem visit_of_ends {name : String} (h : table.Ends name) (seen found : List String) :
    table.visit seen found name = appendNew found name := by
  rw [visit]
  rcases h with h | h <;> split <;> simp_all

theorem visit_of_seen {name : String} {targets : List String} {seen : List String}
    (h : lookupField table name = some targets) (hne : targets ≠ [name]) (hseen : name ∈ seen)
    (found : List String) : table.visit seen found name = found := by
  rw [visit]
  split <;> simp_all

theorem visit_of_fresh {name : String} {targets : List String} {seen : List String}
    (h : lookupField table name = some targets) (hne : targets ≠ [name]) (hfresh : name ∉ seen)
    (found : List String) :
    table.visit seen found name = table.visitAll (name :: seen) found targets := by
  rw [visit]
  split <;> simp_all

/-! ## Nothing is found that is not reached -/

/-- An end that a name leads to. -/
def EndOf (table : Aliases) (name d : String) : Prop :=
  ReflTransGen table.Leads name d ∧ table.Ends d

theorem Ends.not_leads {a b : String} (h : table.Ends a) : ¬ table.Leads a b := by
  rintro ⟨targets, hlookup, hne, -⟩
  rcases h with h | h <;> simp_all

theorem exists_targets_of_not_ends {name : String} (h : ¬ table.Ends name) :
    ∃ targets, lookupField table name = some targets ∧ targets ≠ [name] := by
  cases hlookup : lookupField table name with
  | none => exact absurd (Or.inl hlookup) h
  | some targets =>
    refine ⟨targets, rfl, ?_⟩
    rintro rfl
    exact h (Or.inr hlookup)

theorem not_ends_of_lookup {name : String} {targets : List String}
    (h : lookupField table name = some targets) (hne : targets ≠ [name]) : ¬ table.Ends name := by
  rintro (hnone | hself)
  · rw [h] at hnone
    cases hnone
  · exact hne (Option.some.inj (h.symm.trans hself))

/-- A name that is no end stands for an empty list or leads on. -/
theorem not_ends_iff {name : String} : ¬ table.Ends name ↔
    lookupField table name = some [] ∨ ∃ next, table.Leads name next := by
  constructor
  · intro h
    obtain ⟨targets, hlookup, hne⟩ := exists_targets_of_not_ends h
    cases targets with
    | nil => exact Or.inl hlookup
    | cons next rest => exact Or.inr ⟨next, _, hlookup, hne, List.mem_cons_self⟩
  · rintro (hempty | ⟨next, hleads⟩) hends
    · exact not_ends_of_lookup hempty (by simp) hends
    · exact hends.not_leads hleads

/-- An end leads to no other end. -/
theorem Ends.endOf_iff {a d : String} (h : table.Ends a) : table.EndOf a d ↔ d = a := by
  constructor
  · rintro ⟨hreach, -⟩
    rcases ReflTransGen.cases_head hreach with heq | ⟨b, hleads, -⟩
    · exact heq.symm
    · exact absurd hleads h.not_leads
  · rintro rfl
    exact ⟨ReflTransGen.refl, h⟩

/-- What has been found stays found, and what is added are ends that the names lead to. -/
theorem mem_search (table : Aliases) :
    (∀ seen found name, found ⊆ table.visit seen found name ∧
      ∀ d ∈ table.visit seen found name, d ∈ found ∨ table.EndOf name d) ∧
    ∀ seen found names, found ⊆ table.visitAll seen found names ∧
      ∀ d ∈ table.visitAll seen found names, d ∈ found ∨ ∃ name ∈ names, table.EndOf name d := by
  have hend : ∀ {name : String}, table.Ends name → ∀ seen found,
      found ⊆ table.visit seen found name ∧
      ∀ d ∈ table.visit seen found name, d ∈ found ∨ table.EndOf name d := by
    intro name hends seen found
    rw [visit_of_ends hends]
    refine ⟨fun d hd => mem_appendNew.2 (Or.inl hd), ?_⟩
    intro d hd
    rcases mem_appendNew.1 hd with hd | rfl
    · exact Or.inl hd
    · exact Or.inr ⟨ReflTransGen.refl, hends⟩
  refine visit.mutual_induct table _ _ ?_ ?_ ?_ ?_ ?_ ?_
  · intro seen found name hnone
    exact hend (Or.inl hnone) seen found
  · intro seen found name hself
    exact hend (Or.inr hself) seen found
  · intro seen found name targets hlookup hne hseen
    rw [visit_of_seen hlookup hne hseen]
    exact ⟨fun d hd => hd, fun d hd => Or.inl hd⟩
  · intro seen found name targets hlookup hne hfresh ih
    rw [visit_of_fresh hlookup hne hfresh]
    refine ⟨ih.1, ?_⟩
    intro d hd
    rcases ih.2 d hd with hd | ⟨target, htarget, hreach, hends⟩
    · exact Or.inl hd
    · exact Or.inr ⟨ReflTransGen.head ⟨targets, hlookup, hne, htarget⟩ hreach, hends⟩
  · intro seen found
    rw [visitAll]
    exact ⟨fun d hd => hd, fun d hd => Or.inl hd⟩
  · intro seen found name rest ih ihs
    rw [visitAll]
    refine ⟨fun d hd => ihs.1 (ih.1 hd), ?_⟩
    intro d hd
    rcases ihs.2 d hd with hd | ⟨other, hother, hend⟩
    · rcases ih.2 d hd with hd | hend
      · exact Or.inl hd
      · exact Or.inr ⟨name, List.mem_cons_self, hend⟩
    · exact Or.inr ⟨other, List.mem_cons_of_mem _ hother, hend⟩

/-! ## Everything that is reached is found -/

/-- What the visit of one name finds, whatever has been found before, the visits of many find. -/
theorem mem_visitAll_of_mem_visit {seen names : List String} {name d : String}
    (hname : name ∈ names) (h : ∀ found, d ∈ table.visit seen found name) (found : List String) :
    d ∈ table.visitAll seen found names := by
  induction names generalizing found with
  | nil => simp at hname
  | cons first rest ih =>
    rw [visitAll]
    rcases List.mem_cons.1 hname with rfl | hrest
    · exact ((mem_search table).2 seen _ rest).1 (h found)
    · exact ih hrest _

/-- A visit finds the end that is so many steps away if all names that the search has come by are
farther away from it. -/
theorem mem_visit_of_reaches {d : String} (hends : table.Ends d) (n : Nat) :
    ∀ name seen, table.Reaches d n name → (∀ x ∈ seen, ∀ m ≤ n, ¬ table.Reaches d m x) →
      ∀ found, d ∈ table.visit seen found name := by
  induction n using Nat.strongRecOn with
  | ind n ih =>
    intro name seen hreach hfar found
    by_cases hshorter : ∃ m < n, table.Reaches d m name
    · obtain ⟨m, hm, hreach⟩ := hshorter
      refine ih m hm name seen hreach ?_ found
      intro x hx k hk
      exact hfar x hx k (by omega)
    · cases hreach with
      | here =>
        rw [visit_of_ends hends]
        simp
      | @step m _ next hleads hrest =>
        have hfresh : name ∉ seen := fun hseen =>
          hfar name hseen (m + 1) (Nat.le_refl _) (.step hleads hrest)
        obtain ⟨targets, hlookup, hne, hnext⟩ := hleads
        rw [visit_of_fresh hlookup hne hfresh]
        refine mem_visitAll_of_mem_visit hnext (ih m (by omega) next (name :: seen) hrest ?_) found
        intro x hx k hk hxk
        rcases List.mem_cons.1 hx with rfl | hx
        · exact hshorter ⟨k, by omega, hxk⟩
        · exact hfar x hx k (by omega) hxk

/-- Resolving names finds exactly the ends that they lead to. -/
theorem mem_resolve_iff {deps : List String} {d : String} :
    d ∈ table.resolve deps ↔ ∃ name ∈ deps, table.EndOf name d := by
  constructor
  · intro hd
    rcases ((mem_search table).2 [] [] deps).2 d hd with hd | hend
    · simp at hd
    · exact hend
  · rintro ⟨name, hname, hreach, hends⟩
    obtain ⟨n, hn⟩ := exists_reaches_of_reflTransGen hreach
    exact mem_visitAll_of_mem_visit hname
      (mem_visit_of_reaches hends n name [] hn (by simp)) []

/-! ## What a visit finds, by itself -/

variable {table' : Aliases} {name : String} {targets seen : List String}

/-- What the visit of a name finds, whatever has been found before. -/
def finds (table : Aliases) (seen : List String) (name : String) : List String :=
  match _h : lookupField table name with
  | none => [name]
  | some targets =>
    if targets = [name] then [name]
    else if _hs : name ∈ seen then []
    else targets.flatMap fun target => finds table (name :: seen) target
termination_by unseen table.names seen
decreasing_by exact unseen_cons_lt (mem_names_of_lookupField _h) _hs

theorem finds_of_ends (h : table.Ends name) (seen : List String) :
    table.finds seen name = [name] := by
  rw [finds]
  rcases h with h | h <;> split <;> simp_all

theorem finds_of_seen (h : lookupField table name = some targets) (hne : targets ≠ [name])
    (hseen : name ∈ seen) : table.finds seen name = [] := by
  rw [finds]
  split <;> simp_all

theorem finds_of_fresh (h : lookupField table name = some targets) (hne : targets ≠ [name])
    (hfresh : name ∉ seen) :
    table.finds seen name = targets.flatMap (table.finds (name :: seen)) := by
  rw [finds]
  split <;> simp_all

/-- A search appends what its visits find. -/
theorem search_eq_foldl (table : Aliases) :
    (∀ seen found name,
      table.visit seen found name = (table.finds seen name).foldl appendNew found) ∧
    ∀ seen found names,
      table.visitAll seen found names = (names.flatMap (table.finds seen)).foldl appendNew found := by
  refine visit.mutual_induct table _ _ ?_ ?_ ?_ ?_ ?_ ?_
  · intro seen found name hnone
    rw [visit_of_ends (Or.inl hnone), finds_of_ends (Or.inl hnone)]
    rfl
  · intro seen found name hself
    rw [visit_of_ends (Or.inr hself), finds_of_ends (Or.inr hself)]
    rfl
  · intro seen found name targets hlookup hne hseen
    rw [visit_of_seen hlookup hne hseen, finds_of_seen hlookup hne hseen]
    rfl
  · intro seen found name targets hlookup hne hfresh ih
    rw [visit_of_fresh hlookup hne hfresh, finds_of_fresh hlookup hne hfresh, ih]
  · intro seen found
    rw [visitAll]
    rfl
  · intro seen found name rest ih ihs
    rw [visitAll, ihs, ih, List.flatMap_cons, List.foldl_append]

/-- Resolving names appends what their visits find, one name after the other. -/
theorem resolve_eq_foldl (table : Aliases) (deps : List String) :
    table.resolve deps = (deps.flatMap (table.finds [])).foldl appendNew [] :=
  (search_eq_foldl table).2 [] [] deps

theorem finds_congr (h : ∀ x, lookupField table x = lookupField table' x) (seen : List String)
    (name : String) : table.finds seen name = table'.finds seen name := by
  induction seen, name using finds.induct table with
  | case1 seen name hnone =>
    rw [finds_of_ends (Or.inl hnone), finds_of_ends (Or.inl (h name ▸ hnone))]
  | case2 seen name hself =>
    rw [finds_of_ends (Or.inr hself), finds_of_ends (Or.inr (h name ▸ hself))]
  | case3 seen name targets hlookup hne hseen =>
    rw [finds_of_seen hlookup hne hseen, finds_of_seen (h name ▸ hlookup) hne hseen]
  | case4 seen name targets hlookup hne hfresh ih =>
    rw [finds_of_fresh hlookup hne hfresh, finds_of_fresh (h name ▸ hlookup) hne hfresh]
    refine List.flatMap_congr ?_
    intro target _
    exact ih target

/-- Names stand for the same in tables that say the same of every name. -/
theorem resolve_congr (h : ∀ x, lookupField table x = lookupField table' x) (deps : List String) :
    table.resolve deps = table'.resolve deps := by
  rw [resolve_eq_foldl, resolve_eq_foldl]
  congr 1
  refine List.flatMap_congr ?_
  intro name _
  exact finds_congr h [] name

/-- Names stand for the same if each is taken once. -/
theorem resolve_foldl_appendNew (table : Aliases) (names : List String) :
    table.resolve (names.foldl appendNew []) = table.resolve names := by
  rw [resolve_eq_foldl, resolve_eq_foldl]
  exact foldl_appendNew_flatMap (table.finds []) [] names

/-! ## Names that lead to no end -/

theorem nodup_resolve (table : Aliases) (deps : List String) : (table.resolve deps).Nodup := by
  rw [resolve_eq_foldl]
  exact nodup_foldl_appendNew List.nodup_nil _

/-- What the visit of a name finds are ends that the name leads to. -/
theorem endOf_of_mem_finds {d : String} (h : d ∈ table.finds seen name) : table.EndOf name d := by
  have hvisit : d ∈ table.visit seen [] name := by
    rw [(search_eq_foldl table).1]
    exact mem_foldl_appendNew.2 (Or.inr h)
  exact (((mem_search table).1 seen [] name).2 d hvisit).resolve_left List.not_mem_nil

/-- A name that leads to no end adds nothing to what the names around it stand for. -/
theorem resolve_of_endless (h : ∀ d, ¬ table.EndOf name d) (front behind : List String) :
    table.resolve (front ++ name :: behind) = table.resolve (front ++ behind) := by
  have hnothing : table.finds [] name = [] :=
    List.eq_nil_iff_forall_not_mem.2 fun d hd => h d (endOf_of_mem_finds hd)
  rw [resolve_eq_foldl, resolve_eq_foldl, List.flatMap_append, List.flatMap_append,
    List.flatMap_cons, hnothing, List.nil_append]

/-- Resolving names finds, each once, exactly the names that can be reached from them and stand for
nothing else.  A name adds nothing if all ways from it go on for ever, in circles, or stop at a name
that stands for an empty list. -/
theorem resolve_reachable (table : Aliases) (deps : List String) :
    (table.resolve deps).Nodup ∧
    (∀ d, d ∈ table.resolve deps ↔
      (∃ name ∈ deps, ReflTransGen table.Leads name d) ∧
        (lookupField table d = none ∨ lookupField table d = some [d])) ∧
    ∀ front name behind, deps = front ++ name :: behind →
      (∀ d, ReflTransGen table.Leads name d →
        lookupField table d = some [] ∨ ∃ next, table.Leads d next) →
      table.resolve deps = table.resolve (front ++ behind) := by
  refine ⟨nodup_resolve table deps, ?_, ?_⟩
  · intro d
    rw [mem_resolve_iff]
    constructor
    · rintro ⟨name, hname, hreach, hends⟩
      exact ⟨⟨name, hname, hreach⟩, hends⟩
    · rintro ⟨⟨name, hname, hreach⟩, hends⟩
      exact ⟨name, hname, hreach, hends⟩
  · rintro front name behind rfl hlost
    refine resolve_of_endless ?_ front behind
    rintro d ⟨hreach, hends⟩
    exact not_ends_iff.2 (hlost d hreach) hends

/-- Aliases of which some stand for each other, one for an empty list and one for itself. -/
def tangled : Aliases :=
  [("docs", ["write", "loop", "docs"]), ("loop", ["back"]), ("back", ["loop", "void"]), ("void", []),
    ("stage", ["stage"])]

/-- From the loop a way leads back to it, and another one stops at what is void, so it adds nothing. -/
theorem resolve_reachable_tangled :
    tangled.resolve ["docs", "loop", "stage"] = ["write", "stage"] ∧
    (∀ d, ReflTransGen tangled.Leads "loop" d →
      lookupField tangled d = some [] ∨ ∃ next, tangled.Leads d next) ∧
    tangled.resolve ["docs", "loop", "stage"] = tangled.resolve ["docs", "stage"] := by
  have hloop : tangled.Leads "loop" "back" := ⟨["back"], rfl, by decide, by decide⟩
  have hback : tangled.Leads "back" "loop" := ⟨["loop", "void"], rfl, by decide, by decide⟩
  have hlost : ∀ d, ReflTransGen tangled.Leads "loop" d →
      lookupField tangled d = some [] ∨ ∃ next, tangled.Leads d next := by
    intro d hd
    -- No way leads out of these three.
    have hwhere : d = "loop" ∨ d = "back" ∨ d = "void" := by
      induction hd with
      | refl => exact Or.inl rfl
      | tail _ hleads ih =>
        obtain ⟨targets, hlookup, -, hmem⟩ := hleads
        rcases ih with rfl | rfl | rfl <;> obtain rfl := Option.some.inj hlookup
        · exact Or.inr (Or.inl (List.mem_singleton.1 hmem))
        · exact (List.mem_pair.1 hmem).imp_right Or.inr
        · cases hmem
    rcases hwhere with rfl | rfl | rfl
    · exact Or.inr ⟨_, hloop⟩
    · exact Or.inr ⟨_, hback⟩
    · exact Or.inl rfl
  have hresolved : tangled.resolve ["docs", "loop", "stage"] = ["write", "stage"] := by cbv
  exact ⟨hresolved, hlost, (resolve_reachable tangled _).2.2 ["docs"] "loop" ["stage"] rfl hlost⟩

end Remediation.Aliases
