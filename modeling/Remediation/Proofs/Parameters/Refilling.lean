import Mathlib
import Remediation.Proofs.Placeholders
/-!
# Filling parameters once more

A template without placeholders is filled with itself, and so is a value in which no placeholder is left
(`fill_eq_self`).  What a text has been read as is a text only if the text was kept, and then it is kept
again (`eq_of_coerce_eq_text`).  So parameters that have been filled, and in which no placeholder is left,
are filled with themselves (`materialize_filled`).
-/

set_option autoImplicit false

namespace Remediation

variable {facts : Facts} {s : String} {v w : Value} {name : String} {schema fields filled : Fields}

/-- A template without placeholders is filled with itself, whatever the facts are. -/
theorem Template.substitute_eq_self (h : namesFrom [] s = []) (facts : Facts) :
    substitute s facts = .ok s := by
  have hnames : (parse s.toList).filterMap Piece.name? = [] := by
    have hsub : (parse s.toList).filterMap Piece.name? ⊆ namesFrom [] s := fun name => mem_namesFrom.2
    exact List.eq_nil_of_subset_nil (h ▸ hsub)
  have hpieces : ∀ p ∈ parse s.toList, p.fill facts = .ok p.write := by
    intro p hp
    cases p with
    | char c => rfl
    | placeholder spelling => cases List.filterMap_eq_nil_iff.1 hnames _ hp
  have hnone : missing facts (parse s.toList) = [] := by
    rw [missing_eq_nil_iff, hnames]
    exact List.forall_mem_nil _
  have hwritten : (parse s.toList).flatMap Piece.write = s.toList := write_parse s.toList
  rw [substitute_of_fill (fill_eq_flatMap hpieces) hnone, hwritten, String.ofList_toList]

namespace Value

/-- A value in which no placeholder is left is filled with itself, whatever the facts are. -/
theorem fill_eq_self (h : v.placeholders = []) (facts : Facts) : v.fill facts = .ok v := by
  induction v using nestInduction with
  | scalar s =>
    rcases fill_scalar_cases s with ⟨t, rfl⟩ | hkept
    · rw [fill_text, Template.substitute_eq_self h]
      rfl
    · exact hkept facts
  | list items ih =>
    have hitems : ∀ v ∈ items, v.fill facts = .ok v := by
      intro v hv
      have hsub : v.placeholders ⊆ (list items).placeholders := fun name hname =>
        mem_placeholdersOfItems.2 ⟨v, hv, hname⟩
      exact ih v hv (List.eq_nil_of_subset_nil (h ▸ hsub))
    rw [fill, fillItems_eq_mapM, mapM_eq_self hitems]
    rfl
  | map entries ih =>
    have hentries : ∀ entry ∈ entries, (entry.2.fill facts).map (fun w => (entry.1, w)) = .ok entry := by
      intro entry hentry
      have hsub : entry.2.placeholders ⊆ (map entries).placeholders := fun name hname =>
        mem_placeholdersOfEntries.2 ⟨entry, hentry, hname⟩
      rw [ih entry hentry (List.eq_nil_of_subset_nil (h ▸ hsub))]
      rfl
    rw [fill, fillEntries_eq_mapM, mapM_eq_self hentries]
    rfl
  | set items => rw [fill]

/-- Only a text is filled with a text. -/
theorem exists_of_fill_eq_text (h : v.fill facts = .ok (.text s)) : ∃ t, v = .text t := by
  cases v with
  | scalar t =>
    rcases fill_scalar_cases t with ⟨t, rfl⟩ | hkept
    · exact ⟨t, rfl⟩
    · rw [hkept] at h
      exact ⟨s, Except.ok.inj h⟩
  | list items =>
    rw [fill] at h
    cases hitems : fillItems facts items <;> rw [hitems] at h <;> cases h
  | map entries =>
    rw [fill] at h
    cases hentries : fillEntries facts entries <;> rw [hentries] at h <;> cases h
  | set items =>
    rw [fill] at h
    cases h

end Value

/-- A text that is read as a text has been kept. -/
theorem Coercion.eq_of_coerce_eq_text {declared : Declared} {t : String}
    (h : coerce declared s = .ok (.text t)) : t = s := by
  rcases coerce_eq_ok_iff.1 h with hspells | ⟨htext, -, -⟩
  · cases hspells.admits
  · injection htext with htext
    injection htext

/-- A parameter that has been filled, and in which no placeholder is left, is filled with itself. -/
theorem materializeParameter_filled (h : materializeParameter facts schema name v = .ok w)
    (hnone : w.placeholders = []) (other : Facts) :
    materializeParameter other schema name w = .ok w := by
  by_cases htext : ∃ t, w = .text t
  · obtain ⟨t, rfl⟩ := htext
    have hkept : coerce (declaredType schema name) t = .ok (.text t) := by
      unfold materializeParameter at h
      split at h
      next s =>
        split at h
        next => cases h
        next filled _ =>
          obtain rfl := Coercion.eq_of_coerce_eq_text h
          exact h
      next hv =>
        split at h
        next => cases h
        next hfill =>
          obtain rfl := Except.ok.inj h
          obtain ⟨s, rfl⟩ := Value.exists_of_fill_eq_text hfill
          exact absurd rfl (hv s)
    simp only [materializeParameter, Template.substitute_eq_self hnone, hkept]
  · unfold materializeParameter
    split
    next t => exact absurd ⟨t, rfl⟩ htext
    next => rw [Value.fill_eq_self hnone]

/-- Parameters that have been filled, and in which no placeholder is left, are filled with themselves,
from the facts that they were filled from as from any others. -/
theorem materialize_filled (h : materialize facts schema fields = .ok filled)
    (hnone : (Value.ofFields filled).placeholders = []) (other : Facts) :
    materialize other schema filled = .ok filled := by
  rw [materialize_eq_mapM] at h ⊢
  refine mapM_eq_self fun f hf => ?_
  obtain ⟨raw, -, hraw⟩ := exists_of_mem_of_mapM_eq_ok h f hf
  obtain ⟨w, hw⟩ := exists_of_map_eq_ok hraw
  rw [hw] at hraw
  obtain rfl := Except.ok.inj hraw
  have hsub : w.placeholders ⊆ (Value.ofFields filled).placeholders := fun name hname =>
    Value.mem_placeholders_ofFields.2 ⟨_, hf, hname⟩
  rw [materializeParameter_filled hw (List.eq_nil_of_subset_nil (hnone ▸ hsub))]
  rfl

/-- Hosts to be read as a list, retries and a port to be read as integers, and notes as they are. -/
def deploymentFields : Fields :=
  [("hosts", .text "[\"\x7b\x7b.first\x7d\x7d\", [\"[1]\"]]"),
    ("retries", .text " \x7b\x7b.retries\x7d\x7d "), ("port", .text "\x7b\x7b.first\x7d\x7d"),
    ("notes", .list [.text "by \x7b\x7b.author\x7d\x7d",
      .map [(.text "\x7b\x7b.key\x7d\x7d", .null)]])]

/-- The author is spelled like the opening of a placeholder. -/
def deploymentFacts : Facts :=
  [(.text "first", .text "web"), (.text "retries", .text "-3"), (.text "author", .text "\x7b\x7bada")]

/-- What the parameters are declared to be. -/
def deploymentSchema : Fields :=
  [("properties", .map [(.text "hosts", .map [(.text "type", .text "array")]),
    (.text "retries", .map [(.text "type", .text "integer")]),
    (.text "port", .map [(.text "type", .text "integer")])])]

/-- The hosts are a list in which a text spells one, and the port is no integer. -/
def deploymentFilled : Fields :=
  [("hosts", .list [.text "web", .list [.text "[1]"]]), ("retries", .int (-3)), ("port", .text "web"),
    ("notes", .list [.text "by \x7b\x7bada", .map [(.text "\x7b\x7b.key\x7d\x7d", .null)]])]

/-- What has become of the parameters stays as it is, also where no facts are known. -/
theorem materialize_filled_deployment :
    materialize deploymentFacts deploymentSchema deploymentFields = .ok deploymentFilled ∧
    (Value.ofFields deploymentFilled).placeholders = [] ∧
    materialize [] deploymentSchema deploymentFilled = .ok deploymentFilled := by
  have hfilled : materialize deploymentFacts deploymentSchema deploymentFields =
      .ok deploymentFilled := by cbv
  have hnone : (Value.ofFields deploymentFilled).placeholders = [] := by cbv
  exact ⟨hfilled, hnone, materialize_filled hfilled hnone []⟩

end Remediation
