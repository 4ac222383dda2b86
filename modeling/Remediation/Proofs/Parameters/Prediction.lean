import Remediation.Proofs.Placeholders
/-!
# What parameters ask for

The names of the placeholders in the parameters tell what filling them asks the facts for: it reports names
missing if and only if a fact is missing for one of them, and facts that agree on them fill the parameters
alike (`materialize_predicted`).
-/

set_option autoImplicit false

namespace Remediation

variable {facts other : Facts} {schema fields filled : Fields} {e : Fault} {name : String}

/-- A schema that declares no parameter to be a number. -/
def Numberless (schema : Fields) : Prop :=
  ∀ name, declaredType schema name ≠ .integer ∧ declaredType schema name ≠ .number

/-- Facts that agree on all placeholders of the parameters fill the parameters alike. -/
theorem materialize_eq_of_agree (h : ∀ name ∈ (Value.ofFields fields).placeholders,
    entryAt? facts name = entryAt? other name) :
    materialize facts schema fields = materialize other schema fields :=
  materialize_congr fun s hs => Template.substitute_congr fun name hname =>
    h name (Value.mem_placeholders_iff.2 ⟨s, hs, hname⟩)

/-- Parameters are filled only if all of their placeholders are known. -/
theorem isSome_of_materialize (h : materialize facts schema fields = .ok filled)
    (hname : name ∈ (Value.ofFields fields).placeholders) : (entryAt? facts name).isSome := by
  obtain ⟨s, hs, hspelled⟩ := Value.mem_placeholders_iff.1 hname
  obtain ⟨f, hf, hinside⟩ := Value.hasText_ofFields_iff.1 hs
  obtain ⟨w, hw⟩ := exists_of_materialize_eq_ok h f hf
  obtain ⟨t, ht⟩ := exists_of_materializeParameter_eq_ok hw hinside
  exact Template.isSome_of_substitute ht name hspelled

/-- Where all facts can be shown and no parameter is a number, parameters are not filled only if names
are missing. -/
theorem exists_missing_of_materialize (hfacts : facts.AreShowable) (hschema : Numberless schema)
    (h : materialize facts schema fields = .error e) :
    ∃ names place, e = .missingParameters names place := by
  obtain ⟨f, -, hf⟩ := exists_of_materialize_eq_error h
  rcases exists_of_materializeParameter_eq_error hf with
    ⟨s, inside, -, hsubstitute, rfl⟩ | ⟨s, hcoerce⟩
  · rw [Template.eq_missing_of_substitute hfacts hsubstitute]
    exact ⟨_, _, rfl⟩
  · obtain ⟨v, hv⟩ := Coercion.exists_coerce (hschema f.1).1 (hschema f.1).2 s
    cases hcoerce.symm.trans hv

/-- The placeholders in the parameters tell what filling them comes to.  Names are reported missing if and
only if no fact has one of these names; those reported are some of them that no fact has, each once; and
other facts that agree on these names fill the parameters alike. -/
theorem materialize_predicted (hfacts : facts.AreShowable) (hschema : Numberless schema)
    (fields : Fields) :
    ((∃ names place, materialize facts schema fields = .error (.missingParameters names place)) ↔
      ∃ name ∈ (Value.ofFields fields).placeholders, entryAt? facts name = none) ∧
    (∀ names place, materialize facts schema fields = .error (.missingParameters names place) →
      names ≠ [] ∧ names.Nodup ∧
      ∀ name ∈ names, name ∈ (Value.ofFields fields).placeholders ∧ entryAt? facts name = none) ∧
    ∀ other : Facts, (∀ name ∈ (Value.ofFields fields).placeholders,
      entryAt? facts name = entryAt? other name) →
      materialize facts schema fields = materialize other schema fields := by
  refine ⟨⟨?missing, ?unknown⟩, ?reported, fun _ => materialize_eq_of_agree⟩
  case missing =>
    rintro ⟨names, place, h⟩
    have hmissing := missing_of_materialize h
    obtain ⟨name, hname⟩ := List.exists_mem_of_ne_nil names hmissing.some
    exact ⟨name, hmissing.spelled name hname, hmissing.unknown name hname⟩
  case unknown =>
    rintro ⟨name, hname, hunknown⟩
    cases h : materialize facts schema fields with
    | ok filled =>
      have hknown := isSome_of_materialize h hname
      rw [hunknown] at hknown
      cases hknown
    | error e =>
      obtain ⟨names, place, rfl⟩ := exists_missing_of_materialize hfacts hschema h
      exact ⟨names, place, rfl⟩
  case reported =>
    intro names place h
    have hmissing := missing_of_materialize h
    exact ⟨hmissing.some, hmissing.nodup,
      fun name hname => ⟨hmissing.spelled name hname, hmissing.unknown name hname⟩⟩

/-- The parameters of a notice: who gets it, as a list with a map inside, and its tags. -/
def noticeFields : Fields :=
  [("to", .list [.text "\x7b\x7b.who\x7d\x7d", .map [(.text "copy", .text "\x7b\x7b. team \x7d\x7d")]]),
    ("tags", .text "[\x7b\x7b.count\x7d\x7d]")]

/-- Facts that leave the team open. -/
def noticeFacts : Facts := [(.text "who", .text "ada"), (.text "count", .int (-12))]

/-- The tags of a notice are a list. -/
def noticeSchema : Fields :=
  [("properties", .map [(.text "tags", .map [(.text "type", .text "array")])])]

theorem placeholders_noticeFields :
    (Value.ofFields noticeFields).placeholders = ["who", "team", "count"] := by cbv

theorem numberless_noticeSchema : Numberless noticeSchema := by
  intro name
  by_cases hname : name = "tags"
  · subst hname
    decide
  · have hother : declaredType noticeSchema name = .other := by
      simp [declaredType, noticeSchema, lookupField, entryAt?, Ne.symm hname]
    simp [hother]

/-- The team is missing from the notice, and a page that it does not name makes no difference. -/
theorem materialize_predicted_notice : noticeFacts.AreShowable ∧ Numberless noticeSchema ∧
    (∃ names place, materialize noticeFacts noticeSchema noticeFields =
      .error (.missingParameters names place) ∧ names ≠ [] ∧ names.Nodup) ∧
    materialize noticeFacts noticeSchema noticeFields =
      materialize ((.text "page", .null) :: noticeFacts) noticeSchema noticeFields := by
  have hfacts : noticeFacts.AreShowable :=
    List.forall_mem_cons.2 ⟨rfl, List.forall_mem_singleton.2 (by decide +kernel)⟩
  obtain ⟨hmissing, hreported, hagree⟩ :=
    materialize_predicted hfacts numberless_noticeSchema noticeFields
  rw [placeholders_noticeFields] at hmissing hagree
  obtain ⟨names, place, h⟩ := hmissing.2 ⟨"team", by decide, by decide⟩
  obtain ⟨hsome, hnodup, -⟩ := hreported names place h
  have hsame : materialize noticeFacts noticeSchema noticeFields =
      materialize ((.text "page", .null) :: noticeFacts) noticeSchema noticeFields :=
    hagree _ (by simp [noticeFacts, entryAt?])
  exact ⟨hfacts, numberless_noticeSchema, ⟨names, place, h, hsome, hnodup⟩, hsame⟩

end Remediation
