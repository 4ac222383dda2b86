import Remediation.Proofs.Expansion.Collect
/-!
# Expansions side by side

What rules yield is decided by the place of their scope, and by what the scopes below them become.
What one expansion yields is therefore carried over to another one rule by rule, as long as their
scopes are in the same place (`Became.transfer`, `Yields.transfer`).  Where the other expansion has
come when it gets to a rule is kept along the way (`Arrives`).
-/

set_option autoImplicit false

namespace Remediation.Expansion

variable {w w' : Setting} {sc top : Scope} {r : Rule} {rules others behind : List Rule}
  {deps planned next between last : List String} {steps : List Step} {yields first second : List Yield}
  {previous : String}

/-! ## Places -/

/-- Other rules in the place of those of a scope. -/
def Scope.holding (sc : Scope) (rules : List Rule) : Scope := { sc with rules := rules }

theorem applies_congr (hfacts : w'.facts = w.facts) (id : String) (r : Rule) :
    applies w' id r = applies w id r := by
  unfold applies
  rw [hfacts]

/-- What a rule becomes is decided by its place, and by what the scope below it becomes. -/
theorem Became.transfer (h : Became w sc deps r planned steps next) (hfacts : w'.facts = w.facts)
    (hdefinition : w'.definition = w.definition)
    (hbelow : ∀ c, applies w' (sc.pathId r) r = .ok true → sc.below? w r = some c →
      c.expand w planned = (.ok steps, next) →
      ∃ c', (sc.holding others).below? w' r = some c' ∧ c'.expand w' planned = (.ok steps, next)) :
    Became w' (sc.holding others) deps r planned steps next := by
  have happlies := applies_congr hfacts (sc.pathId r) r
  cases h with
  | refused hno => exact .refused (happlies.trans hno)
  | inside hyes hscope hexpand =>
    obtain ⟨c', hscope', hexpand'⟩ := hbelow _ (happlies.trans hyes) hscope hexpand
    exact .inside (happlies.trans hyes) hscope' hexpand'
  | repeated hyes hleaf haction honce hplanned =>
    exact .repeated (happlies.trans hyes) hleaf haction honce hplanned
  | leaf hyes hleaf haction hnot hid hresolved hparams =>
    refine .leaf (happlies.trans hyes) hleaf haction hnot hid ?_ (hfacts ▸ hparams)
    rw [hdefinition, hresolved]

/-- What a rule becomes that depends on something else: another step, if it is a step. -/
theorem Became.exists_deps (h : Became w sc deps r planned steps next) (deps' : List String) :
    ∃ steps', Became w sc deps' r planned steps' next ∧
      (steps' = steps ∧ (steps = [] ∨ ∃ c before, sc.below? w r = some c ∧
          c.expand w before = (.ok steps, next)) ∨
        ∃ params, steps = [leafStep sc deps r params] ∧ steps' = [leafStep sc deps' r params]) := by
  cases h with
  | refused hno => exact ⟨[], .refused hno, Or.inl ⟨rfl, Or.inl rfl⟩⟩
  | inside hyes hscope hexpand =>
    exact ⟨steps, .inside hyes hscope hexpand, Or.inl ⟨rfl, Or.inr ⟨_, _, hscope, hexpand⟩⟩⟩
  | repeated hyes hleaf haction honce hplanned =>
    exact ⟨[], .repeated hyes hleaf haction honce hplanned, Or.inl ⟨rfl, Or.inl rfl⟩⟩
  | leaf hyes hleaf haction hnot hid hdefinition hparams =>
    exact ⟨_, .leaf hyes hleaf haction hnot hid hdefinition hparams, Or.inr ⟨_, rfl, rfl⟩⟩

/-! ## Rules that become nothing -/

theorem Yields.planned_eq_of_silent (h : Yields w sc previous rules planned yields last)
    (hsilent : ∀ y ∈ yields, y.steps = [])
    (hrules : ∀ r ∈ rules, ∀ deps planned next, Became w sc deps r planned [] next →
      next = planned) : last = planned := by
  induction h with
  | nil => rfl
  | @cons _ r _ _ _ _ _ _ _ hbecame _ ih =>
    obtain rfl := hsilent _ List.mem_cons_self
    obtain rfl := hrules r List.mem_cons_self _ _ _ hbecame
    exact ih (fun y hy => hsilent y (List.mem_cons_of_mem _ hy))
      fun r' hr' => hrules r' (List.mem_cons_of_mem _ hr')

theorem Became.planned_eq_of_below (h : Became w sc deps r planned [] next)
    (hbelow : ∀ c, sc.below? w r = some c → ∀ planned last,
      c.expand w planned = (.ok [], last) → last = planned) : next = planned := by
  cases h with
  | refused => rfl
  | inside _ hscope hexpand => exact hbelow _ hscope _ _ hexpand
  | repeated => rfl

theorem planned_eq_of_expand (h : sc.expand w planned = (.ok [], last)) : last = planned := by
  induction sc using Scope.induction w generalizing planned last with
  | _ sc ih =>
    obtain ⟨yields, hyields, hnil⟩ := Scope.expand_eq_ok_iff.1 h
    refine hyields.planned_eq_of_silent ?_ ?_
    · intro y hy
      rw [finish_collect] at hnil
      simpa using List.flatMap_eq_nil_iff.1 hnil.symm y hy
    · intro r hr deps planned next hbecame
      exact hbecame.planned_eq_of_below fun c hbelow _ _ hexpand => ih r hr c hbelow hexpand

/-- A rule that becomes nothing plans nothing. -/
theorem Became.planned_eq (h : Became w sc deps r planned [] next) : next = planned :=
  h.planned_eq_of_below fun _ _ _ _ hexpand => planned_eq_of_expand hexpand

/-! ## One rule after the other -/

theorem Yields.append (hfirst : Yields w sc previous rules planned first between)
    (hsecond : Yields w sc (lastId previous rules) behind between second last) :
    Yields w sc previous (rules ++ behind) planned (first ++ second) last := by
  induction hfirst with
  | nil => exact hsecond
  | cons hfresh hbecame _ ih =>
    rw [lastId_cons] at hsecond
    exact .cons hfresh hbecame (ih hsecond)

/-- Expanding the rules of a scope arrives at other rules, within it, that stand behind the rule of
some id; `planned` are the actions that are planned then. -/
inductive Arrives (w : Setting) (top : Scope) :
    Scope → String → List Rule → List String → Prop where
  | start : Arrives w top top "" top.rules []
  | next {sc : Scope} {previous : String} {r : Rule} {rest : List Rule}
      {planned next : List String} {steps : List Step} :
      Arrives w top sc previous (r :: rest) planned → Fresh sc r →
      Became w sc (sc.deps previous r) r planned steps next → Arrives w top sc r.id rest next
  | down {sc c : Scope} {previous : String} {r : Rule} {rest : List Rule} {planned : List String} :
      Arrives w top sc previous (r :: rest) planned → applies w (sc.pathId r) r = .ok true →
      sc.below? w r = some c → Arrives w top c "" c.rules planned

/-- Rules yield in another expansion, at which it arrives in the same place, what they yield in this
one, if each of them becomes there what it becomes here. -/
theorem Yields.transfer {more : List Rule} (h : Yields w sc previous rules planned yields last)
    (harrives : Arrives w' top (sc.holding others) previous (rules ++ more) planned)
    (hbecame : ∀ r ∈ rules, ∀ previous rest deps planned steps next,
      Arrives w' top (sc.holding others) previous (r :: rest) planned →
      Became w sc deps r planned steps next →
      Became w' (sc.holding others) deps r planned steps next) :
    Yields w' (sc.holding others) previous rules planned yields last ∧
      Arrives w' top (sc.holding others) (lastId previous rules) more last := by
  induction h with
  | nil => exact ⟨.nil, harrives⟩
  | @cons previous r rest _ _ _ _ _ hfresh hthis _ ih =>
    have hthere := hbecame r List.mem_cons_self _ _ _ _ _ _ harrives hthis
    obtain ⟨hyields, hbehind⟩ := ih (.next harrives hfresh hthere)
      fun r' hr' => hbecame r' (List.mem_cons_of_mem _ hr')
    rw [lastId_cons]
    exact ⟨.cons hfresh hthere hyields, hbehind⟩

end Remediation.Expansion
