import Remediation.Proofs.Expansion.Precedence
import Remediation.Proofs.Expansion.Sequence
/-!
# Steps that run one after the other

A rule that names no siblings depends on the rule before it in its list of steps, if that one has an
id.  The dependency reaches every step of the one and stands for every step of the other, or for what
the other depends on if it became nothing.  As long as no rule without an id comes in between, the
steps of later rules therefore depend on those of earlier ones (`transGen_of_steps`); behind a rule
without an id the chain begins anew (`not_transGen_sealedBetween`).
-/

set_option autoImplicit false

namespace Remediation.Expansion

open Relation
open Schedule (ids Names)

variable {w : Setting} {sc : Scope} {yields front behind : List Yield} {y y' : Yield}
  {rank : String → Nat}

/-! ## Dependencies of steps -/

/-- A step of a list of steps that names no siblings depends on the step before it, if that one has an
id. -/
theorem Yields.deps_behind {previous : String} {rules : List Rule} {planned last : List String}
    (h : Yields w sc previous rules planned (front ++ y :: y' :: behind) last)
    (hsequential : sc.sequential = true) (hid : y.rule.id ≠ "") (hr : y'.rule.dependsOn = []) :
    y'.deps = [sc.pathId y.rule] := by
  have hsplit : front ++ y :: y' :: behind = (front ++ [y]) ++ y' :: behind := by simp
  rw [hsplit] at h
  rw [h.deps_append, List.map_append, List.map_singleton, lastId_concat,
    Scope.deps_of_unnamed hr, if_pos ⟨hsequential, hid⟩, Scope.pathId]

/-- A name stands for a step, or for one that depends on it, be it by way of others. -/
def Scope.StandsBehind (sc : Scope) (yields : List Yield) (x u : String) : Prop :=
  ∃ e, (sc.table yields).EndOf x e ∧ ReflTransGen (Names (sc.collect .start yields).finish) e u

namespace Family

/-- A dependency between steps of a rule is one between steps of the scope. -/
theorem names_finish (h : Family w sc yields) (hy : y ∈ yields) (hy' : y' ∈ yields) {a d : String}
    (hnames : Names y.steps a d) (hd : d ∈ ids y'.steps) :
    Names (sc.collect .start yields).finish a d := by
  obtain ⟨s, hs, rfl, hdep⟩ := hnames
  exact ⟨_, mem_finish.2 ⟨y, hy, s, hs, rfl⟩, settled_id, h.mem_settled hy' hdep hd⟩

/-- Steps of a rule that depend on each other do so in the scope. -/
theorem transGen_finish (h : Family w sc yields) (hy : y ∈ yields) {a d : String}
    (hpath : TransGen (Names y.steps) a d) (hd : d ∈ ids y.steps) :
    TransGen (Names (sc.collect .start yields).finish) a d := by
  induction hpath using TransGen.head_induction_on with
  | single hnames => exact .single (h.names_finish hy hy hnames hd)
  | head hnames hrest ih =>
    refine .head (h.names_finish hy hy hnames ?_) ih
    obtain ⟨c, ⟨s, hs, rfl, -⟩, -⟩ := TransGen.head'_iff.1 hrest
    exact List.mem_map_of_mem hs

/-- Where a rule depends on a name, all its steps depend on what the name stands for. -/
theorem transGen_of_endOf (h : Family w sc yields) (hy : y ∈ yields)
    (hdescends : Descends rank y.steps) {x e : String} (hx : x ∈ y.deps)
    (hend : (sc.table yields).EndOf x e) {s : Step} (hs : s ∈ y.steps) :
    TransGen (Names (sc.collect .start yields).finish) s.id e := by
  -- A step with a dependency inside the rule depends on it, and down there ranks end.
  induction hrank : rank s.id using Nat.strongRecOn generalizing s with
  | ind n ih =>
    have hsettled (hdep : x ∈ s.dependsOn ∨ y.Inherits s ∧ x ∈ y.deps) :
        TransGen (Names (sc.collect .start yields).finish) s.id e :=
      .single ⟨_, mem_finish.2 ⟨y, hy, s, hs, rfl⟩, settled_id,
        mem_dependsOn_settled.2 ⟨x, hdep, hend⟩⟩
    rcases h.dependsOn_cases hy hs with hown | hinherits | ⟨d, hd, hemitted⟩
    · exact hsettled (Or.inl (hown ▸ hx))
    · exact hsettled (Or.inr ⟨hinherits, hx⟩)
    · have hlt : rank d < rank s.id := hdescends s hs d hd hemitted
      have hfirst := h.names_finish hy hy ⟨s, hs, rfl, hd⟩ hemitted
      obtain ⟨t, ht, rfl⟩ := List.mem_map.1 hemitted
      exact .head hfirst (ih (rank t.id) (hrank ▸ hlt) ht rfl)

/-! ## The chain -/

/-- If what a rule depends on stands behind a step, all steps of the rule depend on that step. -/
theorem transGen_of_standsBehind (h : Family w sc yields) (hy : y ∈ yields)
    (hdescends : Descends rank y.steps) {x u : String} (hx : x ∈ y.deps)
    (hbehind : sc.StandsBehind yields x u) {s : Step} (hs : s ∈ y.steps) :
    TransGen (Names (sc.collect .start yields).finish) s.id u := by
  obtain ⟨e, hend, hreach⟩ := hbehind
  exact (h.transGen_of_endOf hy hdescends hx hend hs).trans_left hreach

/-- If what a rule depends on stands behind a step, so does the path id of the rule. -/
theorem standsBehind_next (h : Family w sc yields) (hy : y ∈ yields) (hid : y.rule.id ≠ "")
    (hdescends : Descends rank y.steps) {x u : String} (hx : x ∈ y.deps)
    (hbehind : sc.StandsBehind yields x u) : sc.StandsBehind yields (sc.pathId y.rule) u := by
  have hne : sc.pathId y.rule ≠ "" := mt Scope.pathId_eq_empty_iff.1 hid
  cases hsteps : y.steps with
  | nil =>
    obtain ⟨e, hend, hreach⟩ := hbehind
    exact ⟨e, h.endOf_of_silent hy hne hsteps hx hend, hreach⟩
  | cons s rest =>
    have hs : s ∈ y.steps := by simp [hsteps]
    exact ⟨s.id, h.endOf_of_emitted hy hne (List.mem_map_of_mem hs),
      (h.transGen_of_standsBehind hy hdescends hx hbehind hs).to_reflTransGen⟩

/-- Steps of a rule depend on a step behind which an earlier rule stands, if the rules in between have
ids and none of those behind the earlier one names a sibling. -/
theorem transGen_of_chain {planned last : List String}
    (hyields : Yields w sc "" sc.rules planned yields last) (h : Family w sc yields)
    (hdescends : ∀ y ∈ yields, Descends rank y.steps) (hsequential : sc.sequential = true)
    {p : Yield} {mid : List Yield} (hsplit : yields = front ++ p :: mid ++ y :: behind)
    (hid : ∀ q ∈ p :: mid, q.rule.id ≠ "") (hnames : ∀ q ∈ mid ++ [y], q.rule.dependsOn = [])
    {u : String} (hbehind : sc.StandsBehind yields (sc.pathId p.rule) u) {s : Step}
    (hs : s ∈ y.steps) : TransGen (Names (sc.collect .start yields).finish) s.id u := by
  have hp := hid p List.mem_cons_self
  have hyields' := hyields
  induction mid generalizing front p with
  | nil =>
    rw [hsplit, List.append_assoc] at hyields'
    have hdeps := hyields'.deps_behind hsequential hp (hnames y (by simp))
    have hy : y ∈ yields := by simp [hsplit]
    exact h.transGen_of_standsBehind hy (hdescends y hy) (by simp [hdeps]) hbehind hs
  | cons q rest ih =>
    have hq : q ∈ yields := by simp [hsplit]
    rw [hsplit, List.append_assoc] at hyields'
    have hdeps := hyields'.deps_behind hsequential hp (hnames q (by simp))
    have hsplit' : yields = front ++ [p] ++ q :: rest ++ y :: behind := by simp [hsplit]
    have hnext : sc.StandsBehind yields (sc.pathId q.rule) u :=
      h.standsBehind_next hq (hid q (by simp)) (hdescends q hq) (by simp [hdeps]) hbehind
    exact ih hsplit' (fun r hr => hid r (List.mem_cons_of_mem _ hr))
      (fun r hr => hnames r (List.mem_cons_of_mem _ hr)) hnext (hid q (by simp))

end Family

/-! ## All depths -/

/-- Rules that name no siblings become steps whose dependencies fall. -/
theorem exists_descends_of_unnamed (hunnamed : sc.Unnamed w) (hdistinct : sc.Distinct w)
    {planned last : List String} {steps : List Step}
    (hexpand : sc.expand w planned = (.ok steps, last)) : ∃ rank, Descends rank steps := by
  have hrising := rising_of_expand hunnamed hdistinct hexpand
  have hne : ∀ x ∈ ids steps, x ≠ "" := by
    intro x hx
    obtain ⟨s, hs, rfl⟩ := List.mem_map.1 hx
    exact (named_of_expand hexpand s hs).1
  refine ⟨((sc.ids w).filter (· ≠ "")).idxOf, ?_⟩
  intro s hs d hd hemitted
  have hpair : [d, s.id].filter (· ≠ "") = [d, s.id] := by
    simp [hne d hemitted, hne s.id (List.mem_map_of_mem hs)]
  have hsub := (hrising s hs d hd).2.filter (· ≠ "")
  rw [hpair] at hsub
  exact idxOf_lt_idxOf_of_sublist hdistinct hsub

/-- Where two rules stand in a scope, their yields stand among the yields. -/
theorem exists_yields_of_map_rule {before mid rest : List Rule} {a b : Rule}
    (h : yields.map Yield.rule = before ++ a :: mid ++ b :: rest) :
    ∃ front p middle y behind, yields = front ++ p :: middle ++ y :: behind ∧ p.rule = a ∧
      middle.map Yield.rule = mid ∧ y.rule = b := by
  obtain ⟨first, second, rfl, hfirst, hsecond⟩ := List.map_eq_append_iff.1 h
  obtain ⟨front, inner, rfl, -, hinner⟩ := List.map_eq_append_iff.1 hfirst
  obtain ⟨p, middle, rfl, rfl, rfl⟩ := List.map_eq_cons_iff.1 hinner
  obtain ⟨y, behind, rfl, rfl, -⟩ := List.map_eq_cons_iff.1 hsecond
  exact ⟨front, p, middle, y, behind, rfl, rfl, rfl, rfl⟩

/-- In a list of steps, steps of a rule depend on those of an earlier one, if that one and all in
between have ids, and none behind it names a sibling. -/
theorem transGen_of_split (hdistinct : sc.Distinct w) (hsequential : sc.sequential = true)
    {planned last : List String} {steps : List Step}
    (hexpand : sc.expand w planned = (.ok steps, last)) (hdescends : Descends rank steps)
    {before mid rest : List Rule} {a b : Rule} (hsplit : sc.rules = before ++ a :: mid ++ b :: rest)
    (hid : ∀ r ∈ a :: mid, r.id ≠ "") (hnames : ∀ r ∈ mid ++ [b], r.dependsOn = [])
    {x u : String} (hx : x ∈ ids steps) (hu : u ∈ ids steps) (hfrom : x ∈ sc.idsFrom w b)
    (hfrom' : u ∈ sc.idsFrom w a) : TransGen (Names steps) x u := by
  obtain ⟨yields, hyields, rfl⟩ := Scope.expand_eq_ok_iff.1 hexpand
  have h := hyields.family hdistinct
  obtain ⟨front, p, middle, y, behind, hsplit', rfl, rfl, rfl⟩ :=
    exists_yields_of_map_rule (h.rules.trans hsplit)
  have hp : p ∈ yields := by simp [hsplit']
  have hy : y ∈ yields := by simp [hsplit']
  have hpathId : sc.pathId p.rule ≠ "" := mt Scope.pathId_eq_empty_iff.1 (hid _ List.mem_cons_self)
  have hbehind : sc.StandsBehind yields (sc.pathId p.rule) u :=
    ⟨u, h.endOf_of_emitted hp hpathId (h.mem_ids_of_mem_idsFrom hp hu hfrom'), .refl⟩
  obtain ⟨s, hs, rfl⟩ := List.mem_map.1 (h.mem_ids_of_mem_idsFrom hy hx hfrom)
  refine h.transGen_of_chain hyields (fun q hq => h.descends_yield hdescends hq) hsequential hsplit'
    ?_ ?_ hbehind hs
  · intro q hq
    exact hid q.rule (by simpa using List.mem_map_of_mem hq)
  · intro q hq
    exact hnames q.rule (by simpa using List.mem_map_of_mem hq)

/-- Wherever a list of steps stands within a scope, steps of its rules depend on those of earlier ones,
if these and all in between have ids, none of them names a sibling, and no dependencies below them go
in a circle: none is named there either, or the dependencies of all steps fall. -/
theorem transGen_of_within {top : Scope} (hwithin : Scope.Within w top sc)
    (hdistinct : top.Distinct w) (hsequential : sc.sequential = true)
    {planned last : List String} {steps : List Step}
    (hexpand : top.expand w planned = (.ok steps, last))
    (hfalls : sc.Unnamed w ∨ ∃ rank, Descends rank steps)
    {before mid rest : List Rule} {a b : Rule} (hsplit : sc.rules = before ++ a :: mid ++ b :: rest)
    (hid : ∀ r ∈ a :: mid, r.id ≠ "") (hnames : ∀ r ∈ mid ++ [b], r.dependsOn = [])
    {x u : String} (hx : x ∈ ids steps) (hu : u ∈ ids steps) (hfrom : x ∈ sc.idsFrom w b)
    (hfrom' : u ∈ sc.idsFrom w a) : TransGen (Names steps) x u := by
  induction hwithin generalizing planned last steps with
  | @self sc =>
    obtain ⟨rank, hdescends⟩ : ∃ rank, Descends rank steps :=
      hfalls.elim (exists_descends_of_unnamed · hdistinct hexpand) id
    exact transGen_of_split hdistinct hsequential hexpand hdescends hsplit hid hnames hx hu hfrom
      hfrom'
  | @down top c sc between hbetween hbelow hinner ih =>
    obtain ⟨yields, hyields, rfl⟩ := Scope.expand_eq_ok_iff.1 hexpand
    have h := hyields.family hdistinct
    obtain ⟨y, hy, rfl⟩ := h.exists_yield hbetween
    have hemitted {x : String} {r : Rule} (hr : r ∈ sc.rules)
        (hx : x ∈ ids (top.collect .start yields).finish) (hfrom : x ∈ sc.idsFrom w r) :
        x ∈ ids y.steps := by
      refine h.mem_ids_of_mem_idsFrom hy hx ?_
      rw [Scope.idsFrom_of_below hbelow]
      have hsub := (Scope.idsFrom_sublist_ids hr).subset hfrom
      exact List.mem_cons_of_mem _ (hinner.ids_subset hsub)
    have hinside := hemitted (by simp [hsplit]) hx hfrom
    have hinside' := hemitted (by simp [hsplit]) hu hfrom'
    obtain ⟨planned, last, hexpand⟩ := h.expand_of_emitted hy hbelow hinside
    have hfalls' : sc.Unnamed w ∨ ∃ rank, Descends rank y.steps :=
      hfalls.imp_right fun ⟨rank, hdescends⟩ => ⟨rank, h.descends_yield hdescends hy⟩
    have hpath := ih (hdistinct.below hbetween hbelow) hsequential hexpand hfalls' hsplit hinside
      hinside' hfrom hfrom'
    exact h.transGen_finish hy hpath hinside'

/-- Of two rules in a list of steps, every step of the later one depends on every step of the earlier
one, be it by way of others.  The earlier rule and those in between have ids, the later ones name no
siblings, and below them no siblings are named either, or the plan can be put in order; and all rules
that have ids are told apart by their path ids. -/
theorem transGen_of_steps {top : Scope} {planned last : List String} {steps : List Step}
    (hdistinct : top.Distinct w) (hexpand : top.expand w planned = (.ok steps, last))
    (hwithin : Scope.Within w top sc) (hsequential : sc.sequential = true)
    {before mid rest : List Rule} {a b : Rule} (hsplit : sc.rules = before ++ a :: mid ++ b :: rest)
    (hid : ∀ r ∈ a :: mid, r.id ≠ "") (hnames : ∀ r ∈ mid ++ [b], r.dependsOn = [])
    (hcircles : sc.Unnamed w ∨ ∃ sorted, (Schedule.sort steps).sorted = .ok sorted)
    {s t : Step} (hs : s ∈ steps) (ht : t ∈ steps) (hfrom : s.id ∈ sc.idsFrom w a)
    (hfrom' : t.id ∈ sc.idsFrom w b) : TransGen (Names steps) t.id s.id := by
  have hfalls : sc.Unnamed w ∨ ∃ rank, Descends rank steps := by
    refine hcircles.imp_right ?_
    rintro ⟨sorted, hsorted⟩
    exact ⟨Schedule.place sorted, fun u hu d hd _ =>
      Schedule.place_lt_of_requires hsorted hu (Or.inl hd)⟩
  exact transGen_of_within hwithin hdistinct hsequential hexpand hfalls hsplit hid hnames
    (List.mem_map_of_mem ht) (List.mem_map_of_mem hs) hfrom' hfrom

/-! ## Rules without ids -/

/-- Steps below the rule of a document. -/
def documentRules (steps : List Rule) : List Rule := [{ bareRule "docs" "" with steps := steps }]

/-- The scope of these steps. -/
def documentScope (steps : List Rule) : Scope := ⟨[], ⟨"docs", []⟩, true, steps⟩

/-- A rule without an id that has a document signed and sealed. -/
def sealingRule : Rule :=
  { bareRule "" "" with steps := [bareRule "sign" "sign", bareRule "seal" "seal"] }

/-- A document is written, checked unless it has been written in this plan, and sealed. -/
def sealedLast : List Rule :=
  [bareRule "write" "write", { bareRule "check" "write" with once := true }, sealingRule]

/-- A document is written, sealed, and staged. -/
def sealedBetween : List Rule :=
  [bareRule "write" "write", sealingRule, bareRule "stage" "stage"]

theorem within_documentRules {steps : List Rule} (hsteps : steps ≠ []) :
    Scope.Within bareSetting (.root (documentRules steps)) (documentScope steps) := by
  have hpathId : (Scope.root (documentRules steps)).pathId
      { bareRule "docs" "" with steps := steps } = "docs" := by
    simp [Scope.pathId, Scope.root, Frame.root, Frame.id, bareRule]
  refine .down (List.mem_singleton_self _) (Scope.below?_of_steps rfl hsteps) ?_
  rw [hpathId]
  exact .self

/-- Rules name no siblings if none does on the two levels that there are. -/
theorem unnamed_documentScope {steps : List Rule} (hreference : ∀ r ∈ steps, r.reference = "")
    (hleaf : ∀ r ∈ steps, ∀ child ∈ r.steps, child.isComposite = false)
    (hnames : ∀ r ∈ steps, r.dependsOn = [] ∧ ∀ child ∈ r.steps, child.dependsOn = []) :
    (documentScope steps).Unnamed bareSetting := by
  intro inner hwithin r hr
  rcases hwithin.rules_eq hreference hleaf with rfl | ⟨parent, hparent, hrules⟩
  · exact (hnames r hr).1
  · exact (hnames parent hparent).2 r (hrules ▸ hr)

/-- The steps of the document that is sealed last. -/
def sealedLastSteps : List Step :=
  [bareStep "docs-write" "write" [], bareStep "sign" "sign" ["docs-write"],
    bareStep "seal" "seal" ["sign"]]

/-- The seal depends on the text, though the check is left out and the seal stands below a rule without
an id. -/
theorem transGen_of_steps_sealedLast :
    (Scope.root (documentRules sealedLast)).Distinct bareSetting ∧
    (Scope.root (documentRules sealedLast)).expand bareSetting [] =
      (.ok sealedLastSteps, ["write", "sign", "seal"]) ∧
    (documentScope sealedLast).Unnamed bareSetting ∧
    TransGen (Names sealedLastSteps) "seal" "docs-write" := by
  have hids : (Scope.root (documentRules sealedLast)).ids bareSetting =
      ["docs", "docs-write", "docs-check", "", "sign", "seal"] := by cbv
  have hdistinct : (Scope.root (documentRules sealedLast)).Distinct bareSetting := by
    rw [Scope.Distinct, hids]
    decide
  have hexpand : (Scope.root (documentRules sealedLast)).expand bareSetting [] =
      (.ok sealedLastSteps, ["write", "sign", "seal"]) := by cbv
  have hunnamed : (documentScope sealedLast).Unnamed bareSetting :=
    unnamed_documentScope (by decide) (by decide) (by decide)
  have hsealing : (documentScope sealedLast).idsFrom bareSetting sealingRule =
      ["", "sign", "seal"] := by cbv
  have hsplit : (documentScope sealedLast).rules = [] ++ bareRule "write" "write" ::
      [{ bareRule "check" "write" with once := true }] ++ sealingRule :: [] := rfl
  have hwrite : bareStep "docs-write" "write" [] ∈ sealedLastSteps := List.mem_cons_self
  have hseal : bareStep "seal" "seal" ["sign"] ∈ sealedLastSteps := by simp [sealedLastSteps]
  have hfrom : "seal" ∈ (documentScope sealedLast).idsFrom bareSetting sealingRule := by
    rw [hsealing]
    decide
  refine ⟨hdistinct, hexpand, hunnamed, ?_⟩
  exact transGen_of_steps hdistinct hexpand (within_documentRules (List.cons_ne_nil _ _)) rfl hsplit
    (by decide) (by decide) (Or.inl hunnamed) hwrite hseal (Scope.pathId_mem_idsFrom _ _) hfrom

/-- The steps of the document that is sealed before it is staged. -/
def sealedBetweenSteps : List Step :=
  [bareStep "docs-write" "write" [], bareStep "sign" "sign" ["docs-write"],
    bareStep "seal" "seal" ["sign"], bareStep "docs-stage" "stage" []]

/-- Behind a rule without an id the chain begins anew: nothing makes the document wait for its seal. -/
theorem not_transGen_sealedBetween :
    (Scope.root (documentRules sealedBetween)).Distinct bareSetting ∧
    (documentScope sealedBetween).Unnamed bareSetting ∧
    Scope.Within bareSetting (.root (documentRules sealedBetween)) (documentScope sealedBetween) ∧
    run bareSetting (documentRules sealedBetween) = .ok sealedBetweenSteps ∧
    "seal" ∈ (documentScope sealedBetween).idsFrom bareSetting sealingRule ∧
    "docs-stage" ∈ (documentScope sealedBetween).idsFrom bareSetting (bareRule "stage" "stage") ∧
    ¬ TransGen (Names sealedBetweenSteps) "docs-stage" "seal" := by
  have hids : (Scope.root (documentRules sealedBetween)).ids bareSetting =
      ["docs", "docs-write", "", "sign", "seal", "docs-stage"] := by cbv
  have hsealing : (documentScope sealedBetween).idsFrom bareSetting sealingRule =
      ["", "sign", "seal"] := by cbv
  refine ⟨?_, unnamed_documentScope (by decide) (by decide) (by decide),
    within_documentRules (List.cons_ne_nil _ _), by cbv, ?_, ?_, ?_⟩
  · rw [Scope.Distinct, hids]
    decide
  · rw [hsealing]
    decide
  · exact Scope.pathId_mem_idsFrom _ _
  · intro hpath
    obtain ⟨x, ⟨s, hs, hid, hd⟩, -⟩ := TransGen.head'_iff.1 hpath
    have hnone : ∀ s ∈ sealedBetweenSteps, s.id = "docs-stage" → s.dependsOn = [] := by
      simp [sealedBetweenSteps, bareStep]
    rw [hnone s hs hid] at hd
    cases hd

end Remediation.Expansion
