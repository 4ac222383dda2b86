import Mathlib.Data.Fintype.Card
import Mathlib.Data.List.Chain
import Mathlib.Data.Set.Finite.Basic
import Mathlib.Order.WellFounded
/-!
# Relations without cycles

A relation is acyclic if no chain of its steps comes back to where it starts.  Ranks that fall with
every step show this (`acyclic_of_rank`), and so does a map onto an acyclic relation whose fibres are
acyclic (`acyclic_of_fibres`).

Where a relation says what needs what, the height of an element is the number of steps of the longest
chain that starts at it (`Height`).  Chains of an acyclic relation come by no element twice, and of
finitely many elements at least one needs none of the others.
-/

set_option autoImplicit false

namespace Remediation

open Relation

variable {α β : Type} {R S : α → α → Prop}

/-- No chain of steps comes back to where it starts. -/
def Acyclic (R : α → α → Prop) : Prop := ∀ a, ¬ TransGen R a a

/-- A part of an acyclic relation is acyclic. -/
theorem Acyclic.mono (h : Acyclic S) (hsub : ∀ a b, R a b → S a b) : Acyclic R := by
  intro a hcycle
  exact h a (TransGen.mono hsub a a hcycle)

/-- Where every step lowers a rank, every chain lowers it. -/
theorem rank_lt_of_transGen {rank : α → Nat} (h : ∀ a b, R a b → rank b < rank a) {a b : α}
    (hab : TransGen R a b) : rank b < rank a := by
  induction hab with
  | single hstep => exact h _ _ hstep
  | tail _ hstep ih => exact Nat.lt_trans (h _ _ hstep) ih

/-- A relation whose steps lower a rank is acyclic. -/
theorem acyclic_of_rank (rank : α → Nat) (h : ∀ a b, R a b → rank b < rank a) : Acyclic R := by
  intro a hcycle
  exact Nat.lt_irrefl _ (rank_lt_of_transGen h hcycle)

/-- A walk from one element to another is a chain of steps. -/
theorem transGen_of_isChain {a b : α} {between : List α}
    (h : (a :: between ++ [b]).IsChain R) : TransGen R a b := by
  induction between generalizing a with
  | nil => exact TransGen.single (List.isChain_pair.1 h)
  | cons c rest ih =>
    obtain ⟨hstep, hrest⟩ := List.isChain_cons_cons.1 h
    exact TransGen.head hstep (ih hrest)

/-- A chain stays in the fibre where it starts, or it moves along the relation below. -/
theorem transGen_fibre_or_below {T : β → β → Prop} (p : α → β)
    (hacross : ∀ a b, R a b → p a ≠ p b → TransGen T (p a) (p b)) {a b : α}
    (hab : TransGen R a b) :
    (p b = p a ∧ TransGen (fun x y => R x y ∧ p x = p a ∧ p y = p a) a b) ∨
      TransGen T (p a) (p b) := by
  induction hab with
  | @single b hstep =>
    by_cases hp : p a = p b
    · exact Or.inl ⟨hp.symm, TransGen.single ⟨hstep, rfl, hp.symm⟩⟩
    · exact Or.inr (hacross _ _ hstep hp)
  | @tail b c _ hstep ih =>
    by_cases hp : p b = p c
    · rcases ih with ⟨hba, hchain⟩ | hbelow
      · have hca : p c = p a := hp.symm.trans hba
        exact Or.inl ⟨hca, hchain.tail ⟨hstep, hba, hca⟩⟩
      · exact Or.inr (hp ▸ hbelow)
    · rcases ih with ⟨hba, _⟩ | hbelow
      · exact Or.inr (hba ▸ hacross _ _ hstep hp)
      · exact Or.inr (hbelow.trans (hacross _ _ hstep hp))

/-- A relation is acyclic if it lies over an acyclic one and each of its fibres is acyclic. -/
theorem acyclic_of_fibres {T : β → β → Prop} (p : α → β) (hbelow : Acyclic T)
    (hfibres : ∀ c, Acyclic fun a b => R a b ∧ p a = c ∧ p b = c)
    (hacross : ∀ a b, R a b → p a ≠ p b → TransGen T (p a) (p b)) : Acyclic R := by
  intro a hcycle
  rcases transGen_fibre_or_below p hacross hcycle with ⟨_, hchain⟩ | hchain
  · exact hfibres (p a) a hchain
  · exact hbelow (p a) hchain

/-! ## Heights -/

/-- The longest chain of steps from an element has this many of them. -/
def Height (R : α → α → Prop) (a : α) (n : Nat) : Prop :=
  (∃ below, (a :: below).IsChain R ∧ below.length = n) ∧
    ∀ below, (a :: below).IsChain R → below.length ≤ n

theorem Height.unique {a : α} {m n : Nat} (hm : Height R a m) (hn : Height R a n) : m = n := by
  obtain ⟨⟨long, hlong, rfl⟩, hmost⟩ := hm
  obtain ⟨⟨other, hother, rfl⟩, hleast⟩ := hn
  exact Nat.le_antisymm (hleast long hlong) (hmost other hother)

/-- A chain of an acyclic relation comes by no element twice. -/
theorem Acyclic.nodup_of_isChain (h : Acyclic R) {chain : List α} (hchain : chain.IsChain R) :
    chain.Nodup := by
  have htrans : chain.IsChain (TransGen R) := hchain.imp fun a b hstep => TransGen.single hstep
  refine (List.isChain_iff_pairwise.1 htrans).imp ?_
  rintro a b hab rfl
  exact h a hab

/-- Of finitely many elements there is one that needs none of them, if they need each other in no
circle. -/
theorem Acyclic.exists_least (h : Acyclic R) {xs : List α} (hne : xs ≠ []) :
    ∃ a ∈ xs, ∀ b ∈ xs, ¬ R a b := by
  obtain ⟨first, hfirst⟩ := List.exists_mem_of_ne_nil xs hne
  let Below (b a : {x // x ∈ xs}) : Prop := TransGen R a.1 b.1
  have : Finite {x // x ∈ xs} := (List.finite_toSet xs).to_subtype
  have : IsTrans _ Below := ⟨fun _ _ _ hcb hba => hba.trans hcb⟩
  have : Std.Irrefl Below := ⟨fun a haa => h a.1 haa⟩
  have hwf : WellFounded Below := Finite.wellFounded_of_trans_of_irrefl Below
  obtain ⟨⟨a, ha⟩, -, hleast⟩ := hwf.has_min Set.univ ⟨⟨first, hfirst⟩, trivial⟩
  exact ⟨a, ha, fun b hb hstep => hleast ⟨b, hb⟩ trivial (TransGen.single hstep)⟩

end Remediation
