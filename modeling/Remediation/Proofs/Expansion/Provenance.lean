import Remediation.Proofs.Expansion.Passage
import Remediation.Proofs.Expansion.Precedence
import Remediation.Proofs.Expansion.Sequence
/-!
# Where dependencies come from

Expansion invents no dependency.  Where rules depend on siblings alone, and none of them on itself,
each dependency of a step was brought in by one scope, that of the siblings below which the two steps
were made: the one needs the other there, past siblings that became nothing (`Crosses`).  A step below
the one sibling has taken it over from there only because it depends on nothing below that sibling
itself (`crosses_of_dependsOn`).
-/

set_option autoImplicit false

namespace Remediation.Expansion

open Relation
open Schedule (ids)

variable {w : Setting} {sc inner : Scope} {yields : List Yield} {y y' : Yield} {s t : Step}
  {steps : List Step} {d : String} {r a b : Rule}

/-! ## Where two steps part -/

/-- Two different rules of a scope, by or below which two path ids stand. -/
structure Parts (w : Setting) (sc : Scope) (x d : String) (b a : Rule) : Prop where
  source : b ∈ sc.rules
  target : a ∈ sc.rules
  distinct : b ≠ a
  made : x ∈ sc.idsFrom w b
  met : d ∈ sc.idsFrom w a

/-- The path ids within a scope below a rule are among those of that rule. -/
theorem mem_idsFrom_of_within {c : Scope} {x : String} (hbelow : sc.below? w r = some c)
    (hwithin : Scope.Within w c inner) (hb : b ∈ inner.rules) (hx : x ∈ inner.idsFrom w b) :
    x ∈ sc.idsFrom w r := by
  rw [Scope.idsFrom_of_below hbelow]
  have hids := (Scope.idsFrom_sublist_ids hb).subset hx
  exact List.mem_cons_of_mem _ (hwithin.ids_subset hids)

namespace Parts

variable {x : String} {other : Scope} {b' a' : Rule}

/-- Ids that part in a scope do not part below one of its rules. -/
theorem false_of_below (h : Parts w sc x d b a) (hunique : (sc.ids w).Nodup) {c : Scope}
    (hr : r ∈ sc.rules) (hbelow : sc.below? w r = some c) (hwithin : Scope.Within w c other)
    (h' : Parts w other x d b' a') : False := by
  have hmade := mem_idsFrom_of_within hbelow hwithin h'.source h'.made
  have hmet := mem_idsFrom_of_within hbelow hwithin h'.target h'.met
  have hsource := Scope.eq_of_mem_idsFrom hunique h.source hr h.made hmade
  have htarget := Scope.eq_of_mem_idsFrom hunique h.target hr h.met hmet
  exact h.distinct (hsource.trans htarget.symm)

/-- Two ids part in one scope only, the deepest one that has both of them. -/
theorem unique {top : Scope} (hunique : (top.ids w).Nodup) (hwithin : Scope.Within w top sc)
    (hwithin' : Scope.Within w top other) (h : Parts w sc x d b a) (h' : Parts w other x d b' a') :
    sc = other ∧ b = b' ∧ a = a' := by
  induction hwithin with
  | self =>
    cases hwithin' with
    | self =>
      exact ⟨rfl, Scope.eq_of_mem_idsFrom hunique h.source h'.source h.made h'.made,
        Scope.eq_of_mem_idsFrom hunique h.target h'.target h.met h'.met⟩
    | down hr hbelow hinner => exact (h.false_of_below hunique hr hbelow hinner h').elim
  | @down top c sc r hr hbelow hinner ih =>
    cases hwithin' with
    | self => exact (h'.false_of_below hunique hr hbelow hinner h).elim
    | @down _ c' _ r' hr' hbelow' hinner' =>
      have hmade := mem_idsFrom_of_within hbelow hinner h.source h.made
      have hmade' := mem_idsFrom_of_within hbelow' hinner' h'.source h'.made
      obtain rfl := Scope.eq_of_mem_idsFrom hunique hr hr' hmade hmade'
      obtain rfl := Option.some.inj (hbelow.symm.trans hbelow')
      exact ih ((Scope.ids_sublist_of_below hr hbelow).nodup hunique) hinner' h

end Parts

/-! ## What a scope brings in -/

/-- No step was made by a rule, or below it. -/
def Unmade (w : Setting) (sc : Scope) (steps : List Step) (r : Rule) : Prop :=
  ∀ u ∈ steps, u.id ∉ sc.idsFrom w r

/-- A step depends on another one where the two part, as the rule of the one needs that of the other
past siblings without steps.  If the step was made below its rule, it depends on no other step that
was. -/
structure Crosses (w : Setting) (sc : Scope) (steps : List Step) (t : Step) (d : String)
    (b a : Rule) : Prop extends Parts w sc t.id d b a where
  needs : sc.NeedsPast (Unmade w sc steps) b a
  alone : t.id ≠ sc.pathId b → ∀ e ∈ t.dependsOn, e ∉ sc.idsFrom w b

/-- All dependencies of steps are steps, and cross from one sibling to another within a scope. -/
def Founded (w : Setting) (sc : Scope) (steps : List Step) : Prop :=
  ∀ t ∈ steps, ∀ d ∈ t.dependsOn, d ∈ ids steps ∧
    ∃ inner b a, Scope.Within w sc inner ∧ Crosses w inner steps t d b a

namespace Siblings

/-- A rule that has yielded nothing has no steps in the scope. -/
theorem unmade_of_silent (h : Siblings w sc yields) (hsilent : Silent yields r) :
    Unmade w sc (sc.collect .start yields).finish r := by
  obtain ⟨y, hy, rfl, hnil⟩ := hsilent
  intro u hu hfrom
  have hmem := h.mem_ids_of_mem_idsFrom hy (List.mem_map_of_mem hu) hfrom
  simp [hnil, ids] at hmem

/-- A rule within the scope below another one has no steps in a scope if it has none below that
rule. -/
theorem unmade_of_below (h : Siblings w sc yields) (hy : y ∈ yields) {c : Scope}
    (hbelow : sc.below? w y.rule = some c) (hwithin : Scope.Within w c inner) (hr : r ∈ inner.rules)
    (hunmade : Unmade w inner y.steps r) :
    Unmade w inner (sc.collect .start yields).finish r := by
  intro u hu hfrom
  have hrule := mem_idsFrom_of_within hbelow hwithin hr hfrom
  obtain ⟨v, hv, hid⟩ := List.mem_map.1
    (h.mem_ids_of_mem_idsFrom hy (List.mem_map_of_mem hu) hrule)
  exact hunmade v hv (hid ▸ hfrom)

/-- What a rule depends on crosses over to another sibling. -/
theorem exists_of_mem_deps_settled (h : Siblings w sc yields) (hregular : sc.Regular)
    (hy : y ∈ yields) {x : String} (hx : x ∈ y.deps) (hend : (sc.table yields).EndOf x d) :
    ∃ y' ∈ yields, d ∈ ids y'.steps ∧ y' ≠ y ∧
      sc.NeedsPast (Unmade w sc (sc.collect .start yields).finish) y.rule y'.rule := by
  obtain ⟨y', hy', hd, hneeds⟩ := h.exists_needsPast_of_mem_deps hregular hy hx hend
  refine ⟨y', hy', hd, ?_, hneeds.imp fun r _ hsilent => h.unmade_of_silent hsilent⟩
  rintro rfl
  exact hregular.acyclic _ hneeds.transGen

/-- A dependency of a rule crosses over when it becomes one of a step, which is the step of that rule
or depended on nothing before. -/
theorem crosses_of_mem_deps (h : Siblings w sc yields) (hregular : sc.Regular) (hy : y ∈ yields)
    (hs : s ∈ y.steps) {x : String} (hx : x ∈ y.deps) (hend : (sc.table yields).EndOf x d)
    (halone : s.id = sc.pathId y.rule ∨ s.dependsOn = []) :
    d ∈ ids (sc.collect .start yields).finish ∧ ∃ a,
      Crosses w sc (sc.collect .start yields).finish (sc.settled yields y s) d y.rule a := by
  obtain ⟨y', hy', hd, hne, hneeds⟩ := h.exists_of_mem_deps_settled hregular hy hx hend
  have hmade : (sc.settled yields y s).id ∈ sc.idsFrom w y.rule := by
    rw [settled_id]
    exact h.ids_subset hy (List.mem_map_of_mem hs)
  refine ⟨mem_ids_finish.2 ⟨y', hy', hd⟩, y'.rule, ?_⟩
  exact
    { source := h.rule_mem hy
      target := h.rule_mem hy'
      distinct := fun heq => hne (h.eq_of_rule_eq hy' hy heq.symm)
      made := hmade
      met := h.ids_subset hy' hd
      needs := hneeds
      alone := by
        intro hbelow e he hfrom
        rw [settled_id] at hbelow
        have hnone : s.dependsOn = [] := halone.resolve_left hbelow
        obtain ⟨x', hx', hend'⟩ := mem_dependsOn_settled.1 he
        have hdep : x' ∈ y.deps := by
          rcases hx' with hown | ⟨-, hdep⟩
          · simp [hnone] at hown
          · exact hdep
        obtain ⟨other, hother, hmem, hapart, -⟩ :=
          h.exists_of_mem_deps_settled hregular hy hdep hend'
        exact hapart (h.eq_of_mem_idsFrom hother hy (h.ids_subset hother hmem) hfrom) }

/-- A dependency that crosses over below a rule goes on to cross over there. -/
theorem crosses_of_below (h : Siblings w sc yields) (hy : y ∈ yields) {c : Scope}
    (hbelow : sc.below? w y.rule = some c) (hwithin : Scope.Within w c inner)
    (hclosed : ∀ e ∈ s.dependsOn, e ∈ ids y.steps) (hd : d ∈ s.dependsOn)
    (hcrosses : Crosses w inner y.steps s d b a) :
    Crosses w inner (sc.collect .start yields).finish (sc.settled yields y s) d b a where
  source := hcrosses.source
  target := hcrosses.target
  distinct := hcrosses.distinct
  made := settled_id.symm ▸ hcrosses.made
  met := hcrosses.met
  needs := hcrosses.needs.imp fun r hr hunmade => h.unmade_of_below hy hbelow hwithin hr hunmade
  alone := by
    intro hne e he
    rw [settled_id] at hne
    refine hcrosses.alone hne e ?_
    obtain ⟨x, hx | ⟨hinherits, -⟩, hend⟩ := mem_dependsOn_settled.1 he
    · obtain rfl := (h.ends_of_emitted hy (hclosed x hx)).endOf_iff.1 hend
      exact hx
    · exact absurd (hclosed d hd) (hinherits.2 d hd)

end Siblings

/-- All that the steps of a scope depend on crosses over somewhere within the scope. -/
theorem founded_of_expand (hregular : ∀ inner, Scope.Within w sc inner → inner.Regular)
    (hunique : (sc.ids w).Nodup) (hnamed : sc.Identified w) {planned last : List String}
    (hexpand : sc.expand w planned = (.ok steps, last)) : Founded w sc steps := by
  induction sc using Scope.induction w generalizing planned last steps with
  | _ sc ih =>
    obtain ⟨yields, hyields, rfl⟩ := Scope.expand_eq_ok_iff.1 hexpand
    have h := hyields.siblings hunique (hnamed sc .self)
    have hself := hregular sc .self
    intro t ht d hd
    obtain ⟨y, hy, s, hs, rfl⟩ := mem_finish.1 ht
    obtain ⟨x, hx, hend⟩ := mem_dependsOn_settled.1 hd
    have hrule := h.rule_mem hy
    obtain ⟨before, next, hbecame⟩ := h.became y hy
    rcases hbecame.cases with hnil | ⟨c, _, _, hbelow, hinner⟩ | ⟨-, params, hleaf⟩
    · simp [hnil] at hs
    · have hfounded : Founded w c y.steps := by
        refine ih y.rule hrule c hbelow ?_ ?_ ?_ hinner
        · exact fun inner hwithin => hregular inner (.down hrule hbelow hwithin)
        · exact (Scope.ids_sublist_of_below hrule hbelow).nodup hunique
        · exact hnamed.below hrule hbelow
      have hclosed : ∀ e ∈ s.dependsOn, e ∈ ids y.steps := fun e he => (hfounded s hs e he).1
      rcases hx with hown | ⟨hinherits, hdep⟩
      · obtain rfl := (h.ends_of_emitted hy (hclosed x hown)).endOf_iff.1 hend
        obtain ⟨hemitted, inner, b, a, hwithin, hcrosses⟩ := hfounded s hs d hown
        exact ⟨mem_ids_finish.2 ⟨y, hy, hemitted⟩, inner, b, a, .down hrule hbelow hwithin,
          h.crosses_of_below hy hbelow hwithin hclosed hown hcrosses⟩
      · have hnone : s.dependsOn = [] :=
          List.eq_nil_iff_forall_not_mem.2 fun e he => hinherits.2 e he (hclosed e he)
        obtain ⟨hemitted, a, hcrosses⟩ :=
          h.crosses_of_mem_deps hself hy hs hdep hend (Or.inr hnone)
        exact ⟨hemitted, sc, y.rule, a, .self, hcrosses⟩
    · obtain rfl := List.mem_singleton.1 (hleaf ▸ hs)
      have hdep : x ∈ y.deps := hx.elim id And.right
      obtain ⟨hemitted, a, hcrosses⟩ := h.crosses_of_mem_deps hself hy hs hdep hend (Or.inl rfl)
      exact ⟨hemitted, sc, y.rule, a, .self, hcrosses⟩

/-- Where all rules are named, have different path ids, and depend on siblings alone and not on
themselves, whatever a step depends on is a step, the two part in a scope, and wherever they part, the
one has come to depend on the other there. -/
theorem crosses_of_dependsOn {rules : List Rule}
    (hregular : ∀ inner, Scope.Within w (.root rules) inner → inner.Regular)
    (hnamed : ∀ inner, Scope.Within w (.root rules) inner → ∀ r ∈ inner.rules, r.id ≠ "")
    (hunique : ((Scope.root rules).ids w).Nodup) (hrun : run w rules = .ok steps) (ht : t ∈ steps)
    (hd : d ∈ t.dependsOn) :
    (∃ s ∈ steps, s.id = d) ∧
      (∃ sc b a, Scope.Within w (.root rules) sc ∧ Parts w sc t.id d b a) ∧
      ∀ sc b a, Scope.Within w (.root rules) sc → Parts w sc t.id d b a →
        Crosses w sc steps t d b a := by
  obtain ⟨last, hexpand⟩ := run_eq_iff.1 hrun
  obtain ⟨hemitted, sc, b, a, hwithin, hcrosses⟩ :=
    founded_of_expand hregular hunique hnamed hexpand t ht d hd
  refine ⟨List.mem_map.1 hemitted, ⟨sc, b, a, hwithin, hcrosses.toParts⟩, ?_⟩
  intro sc' b' a' hwithin' hparts
  obtain ⟨rfl, rfl, rfl⟩ := Parts.unique hunique hwithin hwithin' hcrosses.toParts hparts
  exact hcrosses

/-! ## A release past a check that became nothing -/

theorem regular_releaseRules (h : Scope.Within bareSetting (.root releaseRules) inner)
    (hunique : ((Scope.root releaseRules).ids bareSetting).Nodup) : inner.Regular := by
  have hsteps : ∀ r ∈ releaseRules, ∀ child ∈ r.steps,
      child.isComposite = false ∧ child.dependsOn = [] := by decide
  rcases h.rules_eq (by decide) (fun r hr child hchild => (hsteps r hr child hchild).1)
    with rfl | ⟨r, hr, hrules⟩
  · refine ⟨by decide, acyclic_of_rank (fun r => ["prepare", "check", "release"].idxOf r.id) ?_⟩
    intro b a hneeds
    have hranked : ∀ b ∈ releaseRules, ∀ d ∈ b.dependsOn,
        ["prepare", "check", "release"].idxOf d < ["prepare", "check", "release"].idxOf b.id := by
      decide
    cases hneeds with
    | named hb _ hd => exact hranked b hb _ hd
    | behind hsequential => cases hsequential
  · refine Scope.regular_of_unnamed (h.ids_sublist.nodup hunique) ?_
    intro child hchild
    exact (hsteps r hr child (hrules ▸ hchild)).2

/-- The release depends on the step of the preparation as it needs the check, which became nothing and
needs the preparation. -/
theorem crosses_of_dependsOn_release :
    run bareSetting releaseRules = .ok [releaseStep, probeStep] ∧
      Crosses bareSetting (.root releaseRules) [releaseStep, probeStep] releaseStep "prepare-probe"
        releaseRules[0] releaseRules[1] := by
  have hids : (Scope.root releaseRules).ids bareSetting =
      ["release", "prepare", "prepare-probe", "check"] := by cbv
  have hunique : ((Scope.root releaseRules).ids bareSetting).Nodup := by
    rw [hids]
    decide
  have hrun : run bareSetting releaseRules = .ok [releaseStep, probeStep] := by cbv
  have hprepare : (Scope.root releaseRules).idsFrom bareSetting releaseRules[1] =
      ["prepare", "prepare-probe"] := by cbv
  have hparts : Parts bareSetting (.root releaseRules) releaseStep.id "prepare-probe"
      releaseRules[0] releaseRules[1] :=
    { source := by simp [Scope.root]
      target := by simp [Scope.root]
      distinct := ne_of_apply_ne Rule.id (by decide)
      made := Scope.pathId_mem_idsFrom (Scope.root releaseRules) releaseRules[0]
      met := by simp [hprepare] }
  refine ⟨hrun, ?_⟩
  obtain ⟨-, -, hcrosses⟩ := crosses_of_dependsOn
    (fun inner hwithin => regular_releaseRules hwithin hunique)
    (fun inner hwithin r hr => hwithin.id_ne_empty (by simp [hids]) hr) hunique hrun
    (t := releaseStep) (d := "prepare-probe") (by simp) (by simp [releaseStep, bareStep])
  exact hcrosses _ _ _ .self hparts

end Remediation.Expansion
