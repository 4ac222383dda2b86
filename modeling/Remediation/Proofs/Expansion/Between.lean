import Remediation.Proofs.Expansion.Opening
import Remediation.Proofs.Expansion.Silence
/-!
# A rule between others

A rule that depends on nothing and that no rule names stands between the one in front of it and the
one behind it only where rules follow each other: there the next rule depends on it, and it depends on
the rule in front.  If it becomes nothing it is transparent (`Scope.Between.transparent`), and what the
rules behind it yield is what they yield without it (`Scope.Between.exists_behind`).
-/

set_option autoImplicit false

namespace Remediation.Expansion

open Aliases (bypass bypass_self flatMap_bypass_of_notMem)

variable {w : Setting} {sc : Scope} {yields first second : List Yield} {y : Yield} {r x : Rule}
  {rules front behind : List Rule} {planned between last : List String} {steps : List Step}
  {previous : String}

/-! ## What depends on a rule that is not named -/

/-- No rule within a scope names an id. -/
def Scope.Ignores (w : Setting) (sc : Scope) (d : String) : Prop :=
  ∀ inner, Scope.Within w sc inner → ∀ r ∈ inner.rules, d ∉ r.dependsOn.map inner.frame.id

theorem Scope.Ignores.within {inner : Scope} {d : String} (h : sc.Ignores w d)
    (hwithin : Scope.Within w sc inner) : inner.Ignores w d :=
  fun deeper hdeeper => h deeper (hwithin.trans hdeeper)

/-- Rules do not depend on an id that is not theirs, that they do not name and that they do not stand
behind. -/
theorem Yields.notMem_deps {d : String} (h : Yields w sc previous rules planned yields last)
    (hprevious : previous = "" ∨ sc.frame.id previous ≠ d) (hother : ∀ r ∈ rules, sc.pathId r ≠ d)
    (hnamed : ∀ r ∈ rules, d ∉ r.dependsOn.map sc.frame.id) : ∀ y ∈ yields, d ∉ y.deps := by
  induction h with
  | nil => simp
  | @cons previous r rest _ _ _ _ _ _ _ _ ih =>
    obtain ⟨hr, hrest⟩ := List.forall_mem_cons.1 hother
    obtain ⟨hr', hrest'⟩ := List.forall_mem_cons.1 hnamed
    refine List.forall_mem_cons.2 ⟨?_, ih (Or.inr hr) hrest hrest'⟩
    intro hd
    rcases Scope.mem_deps_cases hd with hd | ⟨hne, rfl, -⟩
    · exact hr' hd
    · exact hprevious.elim hne fun hne => hne rfl

/-- What is not named and becomes nothing takes the place of what it depends on. -/
theorem Scope.deps_behind (sc : Scope) (hplain : x.dependsOn = []) (hid : x.id ≠ "")
    (hnamed : sc.pathId x ∉ r.dependsOn.map sc.frame.id) (previous : String) :
    (sc.deps x.id r).flatMap (bypass (sc.pathId x) (sc.deps previous x)) = sc.deps previous r := by
  by_cases hdefault : sc.sequential = true ∧ r.dependsOn = []
  · obtain ⟨hsequential, hnil⟩ := hdefault
    have hbehind : sc.deps x.id r = [sc.pathId x] := by
      simp [Scope.deps, effectiveDeps, hsequential, hnil, hid, Scope.pathId]
    have hsame : sc.deps previous x = sc.deps previous r := by
      simp only [Scope.deps, effectiveDeps, hplain, hnil]
    rw [hbehind, List.flatMap_singleton, bypass_self, hsame]
  · have hown (previous : String) : sc.deps previous r = r.dependsOn.map sc.frame.id := by
      rw [Scope.deps, effectiveDeps, if_neg fun h => hdefault ⟨h.1, h.2.1⟩]
    rw [hown, hown, flatMap_bypass_of_notMem hnamed]

namespace Siblings

/-- No step below a rule depends on another rule that is not named. -/
theorem notMem_dependsOn (h : Siblings w sc yields) (hnamed : sc.Identified w)
    (hignores : sc.Ignores w (sc.pathId x)) (hx : x ∈ sc.rules) (hy : y ∈ yields)
    (hne : y.rule ≠ x) (hcomposite : y.rule.isComposite = true) :
    ∀ s ∈ y.steps, sc.pathId x ∉ s.dependsOn := by
  intro s hs hd
  obtain ⟨before, next, hbecame⟩ := h.became y hy
  have hrule := h.rule_mem hy
  rcases hbecame.cases with hnil | ⟨c, _, _, hbelow, hexpand⟩ | ⟨hleaf, -⟩
  · simp [hnil] at hs
  · have hunique := (Scope.ids_sublist_of_below hrule hbelow).nodup h.unique
    rcases mentions_of_expand hunique (hnamed.below hrule hbelow) hexpand hs hd with
      hid | ⟨inner, hwithin, r, hr, hmem⟩
    · refine hne (Scope.eq_of_mem_idsFrom h.unique hrule hx ?_ (Scope.pathId_mem_idsFrom sc x))
      rw [Scope.idsFrom_of_below hbelow]
      exact List.mem_cons_of_mem _ hid
    · exact hignores inner (.down hrule hbelow hwithin) r hr hmem
  · rw [hleaf] at hcomposite
    cases hcomposite

/-- What does not depend on a rule that is not named yields the same without it. -/
theorem bypassing_eq_self (h : Siblings w sc yields) (hnamed : sc.Identified w)
    (hignores : sc.Ignores w (sc.pathId x)) (hx : x ∈ sc.rules) (hy : y ∈ yields)
    (hne : y.rule ≠ x) (hdeps : sc.pathId x ∉ y.deps) (onward : List String) :
    y.bypassing (sc.pathId x) onward = y := by
  refine Yield.bypassing_eq_self hdeps ?_ onward
  intro s hs
  obtain ⟨before, next, hbecame⟩ := h.became y hy
  rcases hbecame.cases with hnil | ⟨c, _, _, hbelow, -⟩ | ⟨-, params, hleaf⟩
  · simp [hnil] at hs
  · exact h.notMem_dependsOn hnamed hignores hx hy hne (Scope.isComposite_of_below hbelow) s hs
  · obtain rfl := List.mem_singleton.1 (hleaf ▸ hs)
    exact hdeps

end Siblings

/-! ## A rule between others -/

/-- A rule, between others in a scope, that depends on nothing, is not named, and has different path
ids from theirs. -/
structure Scope.Between (w : Setting) (sc : Scope) (front : List Rule) (x : Rule)
    (behind : List Rule) : Prop where
  rules : sc.rules = front ++ x :: behind
  plain : x.dependsOn = []
  named : sc.Identified w
  unique : (sc.ids w).Nodup
  ignores : sc.Ignores w (sc.pathId x)

namespace Scope.Between

theorem mem (h : sc.Between w front x behind) : x ∈ sc.rules := by
  simp [h.rules]

theorem nodup (h : sc.Between w front x behind) :
    (sc.pathId x :: (front ++ behind).map sc.pathId).Nodup :=
  nodup_map_middle (h.rules ▸ nodup_map_pathId h.unique)

theorem pathId_ne (h : sc.Between w front x behind) {a : Rule} (ha : a ∈ front ++ behind) :
    sc.pathId a ≠ sc.pathId x :=
  fun heq => (List.nodup_cons.1 h.nodup).1 (List.mem_map.2 ⟨a, ha, heq⟩)

/-- A rule that depends on nothing depends on the one in front of it, if any. -/
theorem exists_of_mem_deps (h : sc.Between w front x behind) {d : String}
    (hd : d ∈ sc.deps (lastId "" front) x) :
    d = sc.frame.id (lastId "" front) ∧ ∃ a ∈ front, sc.pathId a = d := by
  rcases mem_deps_cases hd with hnamed | ⟨hprevious, rfl, -⟩
  · simp [h.plain] at hnamed
  · obtain ⟨a, ha, hid⟩ := exists_of_lastId hprevious
    exact ⟨rfl, a, ha, congrArg sc.frame.id hid⟩

theorem notMem_named (h : sc.Between w front x behind) {a : Rule} (ha : a ∈ sc.rules) :
    sc.pathId x ∉ a.dependsOn.map sc.frame.id := h.ignores sc .self a ha

/-- The rules in front of a rule that is not named do not depend on it. -/
theorem notMem_deps_front (h : sc.Between w front x behind)
    (hfirst : Yields w sc "" front planned first between) :
    ∀ y ∈ first, sc.pathId x ∉ y.deps := by
  refine hfirst.notMem_deps (Or.inl rfl) ?_ ?_
  · exact fun a ha => h.pathId_ne (List.mem_append_left _ ha)
  · exact fun a ha => h.notMem_named (h.rules ▸ List.mem_append_left _ ha)

/-- A rule that has become nothing is transparent. -/
theorem transparent (h : sc.Between w front x behind)
    (hfirst : Yields w sc "" front planned first between)
    (hsecond : Yields w sc x.id behind between second last)
    (hsiblings : Siblings w sc (first ++ ⟨x, sc.deps (lastId "" front) x, []⟩ :: second)) :
    sc.Transparent first ⟨x, sc.deps (lastId "" front) x, []⟩ second where
  silent := rfl
  single := by
    intro a ha b hb
    exact (h.exists_of_mem_deps ha).1.trans (h.exists_of_mem_deps hb).1.symm
  leaves := by
    intro hself
    obtain ⟨-, a, ha, heq⟩ := h.exists_of_mem_deps hself
    exact h.pathId_ne (List.mem_append_left _ ha) heq
  deps := by
    intro y hy hdep
    have hbehind : y ∈ second :=
      (List.mem_append.1 hy).resolve_left fun hy => h.notMem_deps_front hfirst y hy hdep
    obtain ⟨before, rest, hrules, hdeps⟩ := hsecond.deps_eq hbehind
    constructor
    · rw [hdeps] at hdep ⊢
      rcases mem_deps_cases hdep with hnamed | ⟨-, -, halone⟩
      · exact absurd hnamed (h.notMem_named (hsiblings.rule_mem (Siblings.mem_of_mem_others hy)))
      · exact halone
    · intro hmem
      obtain ⟨-, a, ha, heq⟩ := h.exists_of_mem_deps hmem
      have hnodup := (List.nodup_cons.1 h.nodup).2
      rw [List.map_append, List.nodup_append] at hnodup
      exact hnodup.2.2 _ (List.mem_map_of_mem ha) _
        (List.mem_map_of_mem (hsecond.rule_mem hbehind)) heq
  steps := by
    intro y hy hcomposite
    refine hsiblings.notMem_dependsOn h.named h.ignores h.mem (Siblings.mem_of_mem_others hy) ?_
      hcomposite
    exact fun heq => hsiblings.pathId_ne_of_mem_others hy (congrArg sc.pathId heq)

/-- What the next rule yields without the one between. -/
theorem bypassing_next {rest : List Rule} {next : List String} {steps' : List Step}
    (h : sc.Between w front x (r :: rest))
    (hsiblings : Siblings w sc
      (first ++ ⟨x, sc.deps (lastId "" front) x, []⟩ :: ⟨r, sc.deps x.id r, steps'⟩ :: second))
    (hsame : steps' = steps ∧ (steps = [] ∨ ∃ c before, sc.below? w r = some c ∧
        c.expand w before = (.ok steps, next)) ∨
      ∃ params, steps = [leafStep sc (sc.deps (lastId "" front) r) r params] ∧
        steps' = [leafStep sc (sc.deps x.id r) r params]) :
    Yield.bypassing (sc.pathId x) (sc.deps (lastId "" front) x) ⟨r, sc.deps x.id r, steps'⟩ =
      ⟨r, sc.deps (lastId "" front) r, steps⟩ := by
  have hr : r ∈ sc.rules := by simp [h.rules]
  have hdeps := sc.deps_behind h.plain (h.named _ .self x h.mem) (h.notMem_named hr)
    (lastId "" front)
  have hsteps : steps'.map (bypassing (sc.pathId x) (sc.deps (lastId "" front) x)) = steps := by
    rcases hsame with ⟨rfl, rfl | ⟨c, _, hbelow, -⟩⟩ | ⟨params, rfl, rfl⟩
    · rfl
    · refine (List.map_congr_left ?_).trans (List.map_id steps')
      intro s hs
      have hne : r ≠ x := fun heq => h.pathId_ne (by simp) (congrArg sc.pathId heq)
      have hy : (⟨r, sc.deps x.id r, steps'⟩ : Yield) ∈ first ++
          ⟨x, sc.deps (lastId "" front) x, []⟩ :: ⟨r, sc.deps x.id r, steps'⟩ :: second := by simp
      exact bypassing_eq_self (hsiblings.notMem_dependsOn h.named h.ignores h.mem hy hne
        (isComposite_of_below hbelow) s hs) _
    · simp [bypassing, leafStep, hdeps]
  simp only [Yield.bypassing, hdeps, hsteps]

/-- What does not depend on the rule between yields the same without it. -/
theorem map_bypassing (h : sc.Between w front x behind)
    (hsiblings : Siblings w sc (first ++ ⟨x, sc.deps (lastId "" front) x, []⟩ :: second))
    (hsubset : yields ⊆ first ++ second) (hdeps : ∀ y ∈ yields, sc.pathId x ∉ y.deps) :
    yields.map (Yield.bypassing (sc.pathId x) (sc.deps (lastId "" front) x)) = yields := by
  refine (List.map_congr_left ?_).trans (List.map_id yields)
  intro y hy
  refine hsiblings.bypassing_eq_self h.named h.ignores h.mem
    (Siblings.mem_of_mem_others (hsubset hy)) ?_ (hdeps y hy) _
  exact fun heq => hsiblings.pathId_ne_of_mem_others (hsubset hy) (congrArg sc.pathId heq)

/-- What is yielded behind a rule that becomes nothing is what was yielded there without it, but for
what depends on it. -/
theorem exists_behind {w' : Setting} {top : Scope} {others : List Rule}
    (h : (sc.holding others).Between w' front x behind)
    (hsecond : Yields w sc (lastId "" front) behind between second last)
    (harrives : Arrives w' top (sc.holding others) x.id behind between)
    (hbecame : ∀ r ∈ behind, ∀ previous rest deps planned steps next,
      Arrives w' top (sc.holding others) previous (r :: rest) planned →
      Became w sc deps r planned steps next →
      Became w' (sc.holding others) deps r planned steps next) :
    ∃ second', Yields w' (sc.holding others) x.id behind between second' last ∧
      ∀ first, Siblings w' (sc.holding others)
          (first ++ ⟨x, sc.deps (lastId "" front) x, []⟩ :: second') →
        second'.map (Yield.bypassing (sc.pathId x) (sc.deps (lastId "" front) x)) = second := by
  cases hsecond with
  | nil => exact ⟨[], .nil, fun _ _ => rfl⟩
  | @cons _ r rest _ next _ steps tail hfresh hthis hrest =>
    obtain ⟨steps', hthere, hsame⟩ := (hbecame r List.mem_cons_self _ _ _ _ _ _ harrives
      hthis).exists_deps (sc.deps x.id r)
    have hnext : Arrives w' top (sc.holding others) r.id (rest ++ []) next := by
      rw [List.append_nil]
      exact harrives.next hfresh hthere
    obtain ⟨htail, -⟩ := hrest.transfer hnext fun r' hr' => hbecame r' (List.mem_cons_of_mem _ hr')
    refine ⟨_, .cons hfresh hthere htail, ?_⟩
    intro first hsiblings
    refine congrArg₂ List.cons (h.bypassing_next hsiblings hsame) ?_
    refine h.map_bypassing hsiblings (fun y hy => by simp [hy]) (htail.notMem_deps ?_ ?_ ?_)
    · exact Or.inr (h.pathId_ne (by simp))
    · exact fun a ha => h.pathId_ne (by simp [ha])
    · exact fun a ha => h.notMem_named (by simp [h.rules, ha])

end Scope.Between

end Remediation.Expansion
