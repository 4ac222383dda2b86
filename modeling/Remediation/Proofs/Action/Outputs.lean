import Remediation.Action
import Remediation.Proofs.Fields
import Remediation.Proofs.Json.Path
/-!
# Outputs of a command that has succeeded

What a command prints is parsed for each declared output by itself.  Outputs that parse are found, and
the others are left out with a warning, as long as the reason is what was printed
(`run_parseOutputs_append`).  That is the only reason there can be where each path is a text and each
pattern is one that can be read (`OutputParser.usable_iff`); then a command that has succeeded does not
fail any more.  Where a pattern cannot be read, it does (`capture_parses`).
-/

set_option autoImplicit false

namespace Remediation

/-- A fault of a value. -/
abbrev Fault.OfValue (e : Fault) : Prop := e.kind.isValue = true

theorem Fault.ofValue_of_kind {e : Fault} (h : e.kind = .value) : e.OfValue := by
  rw [Fault.OfValue, h]
  rfl

open Fault (OfValue)

namespace Action

/-! ## Parsers -/

namespace OutputParser

/-- A parser that was declared with what it can use: its path, if it has one, is a text, or its
pattern, if it has one, is a text that spells a pattern. -/
def Usable : OutputParser → Prop
  | json path => path.isSomething = true → ∃ spelled, path = .text spelled
  | text pattern => pattern.isSomething = true →
      ∃ spelled p, pattern = .text spelled ∧ Pattern.read spelled = .ok p

theorem failsAs_findText {pattern : String} {p : Pattern} (h : Pattern.read pattern = .ok p)
    (printed : String) : FailsAs OfValue (findText pattern printed) := by
  unfold findText
  rw [h]
  dsimp only
  repeat' split
  all_goals first | exact .ok _ | exact .error rfl

theorem failsAs_parseJson {path : Value} (h : (json path).Usable) (printed : String) :
    FailsAs OfValue (parseJson path printed) := by
  unfold parseJson
  split
  next e _ => cases e <;> exact .error rfl
  next j _ =>
    split
    next => exact .ok _
    next hsomething =>
      obtain ⟨spelled, rfl⟩ := h (by simpa using hsomething)
      exact ((Json.failsAs_follow j spelled).imp fun _ => Fault.ofValue_of_kind).map _

theorem failsAs_parseText {pattern : Value} (h : (text pattern).Usable) (printed : String) :
    FailsAs OfValue (parseText pattern printed) := by
  unfold parseText
  split
  next => exact .ok _
  next hsomething =>
    obtain ⟨spelled, p, rfl, hread⟩ := h (by simpa using hsomething)
    exact failsAs_findText hread printed

/-- A path that is no text cannot be followed, once there is a value to follow it in. -/
theorem exists_of_not_usable_json {path : Value} (h : ¬ (json path).Usable) :
    ∃ printed e, parseJson path printed = .error e ∧ ¬ OfValue e := by
  simp only [Usable, Classical.not_imp, not_exists] at h
  obtain ⟨hsomething, hnone⟩ := h
  have hread : Json.read Json.lenient "null" = .ok .null := rfl
  refine ⟨"null", .noMatch path.typeName "split", ?_, nofun⟩
  unfold parseJson
  rw [hread, hsomething]
  dsimp only
  rw [if_neg (by decide)]
  split
  next spelled => exact absurd rfl (hnone spelled)
  next => rfl

/-- A pattern that cannot be read is at fault whatever was printed. -/
theorem exists_of_not_usable_text {pattern : Value} (h : ¬ (text pattern).Usable)
    (printed : String) : ∃ e, parseText pattern printed = .error e ∧ ¬ OfValue e := by
  simp only [Usable, Classical.not_imp, not_exists, not_and] at h
  obtain ⟨hsomething, hnone⟩ := h
  unfold parseText
  rw [hsomething, if_neg (by decide)]
  split
  next spelled =>
    unfold findText
    cases hread : Pattern.read spelled with
    | ok p => exact absurd hread (hnone spelled p rfl)
    | error e =>
      refine ⟨_, rfl, ?_⟩
      unfold OfValue Fault.kind
      dsimp only
      split <;> nofun
  all_goals exact ⟨_, rfl, nofun⟩

/-- The parsers that can be used are those with which only what was printed can be at fault. -/
theorem usable_iff {p : OutputParser} :
    p.Usable ↔ ∀ printed e, p.parse printed = .error e → OfValue e := by
  constructor
  · intro h printed
    cases p with
    | json path => exact failsAs_parseJson h printed
    | text pattern => exact failsAs_parseText h printed
  · intro h
    by_contra hnot
    cases p with
    | json path =>
      obtain ⟨printed, e, he, hkind⟩ := exists_of_not_usable_json hnot
      exact hkind (h printed e he)
    | text pattern =>
      obtain ⟨e, he, hkind⟩ := exists_of_not_usable_text hnot ""
      exact hkind (h "" e he)

end OutputParser

namespace Tool

variable {t : Tool} {params : Fields} {s later : Session} {name printed : String}
  {entries : List (String × OutputParser)}

/-! ## Parsing outputs one by one -/

/-- Whether the outputs behind an output are parsed too: it is found, or it is left out since only what
was printed is at fault. -/
def passes (printed : String) (entry : String × OutputParser) : Bool :=
  match entry.2.parse printed with
  | .ok _ => true
  | .error e => e.kind.isValue

/-- The outputs that parse, under their names. -/
def parsed (printed : String) (entries : List (String × OutputParser)) : Fields :=
  entries.filterMap fun (output, p) =>
    match p.parse printed with
    | .ok v => some (output, v)
    | .error _ => none

/-- What is reported of the outputs that do not parse, one by one. -/
def warnings (name printed : String) (entries : List (String × OutputParser)) :
    List (Level × String) :=
  entries.filterMap fun (output, p) =>
    match p.parse printed with
    | .ok _ => none
    | .error e =>
      some (.warning, s!"Failed to parse output {output} of action {name}: {e.message}")

theorem exists_of_passes_eq_false {entry : String × OutputParser}
    (h : passes printed entry = false) : ∃ e, entry.2.parse printed = .error e ∧ ¬ OfValue e := by
  unfold passes at h
  split at h
  next => cases h
  next e he => exact ⟨e, he, Bool.eq_false_iff.1 h⟩

theorem mem_parsed {output : String} {v : Value} : (output, v) ∈ parsed printed entries ↔
    ∃ p, (output, p) ∈ entries ∧ p.parse printed = .ok v := by
  unfold parsed
  rw [List.mem_filterMap]
  constructor
  · rintro ⟨⟨output', p⟩, hmem, hparse⟩
    dsimp only at hparse
    split at hparse
    next w hok =>
      obtain ⟨rfl, rfl⟩ := Prod.mk.inj (Option.some.inj hparse)
      exact ⟨p, hmem, hok⟩
    next => cases hparse
  · rintro ⟨p, hmem, hok⟩
    exact ⟨(output, p), hmem, by simp [hok]⟩

/-- Behind outputs that pass, the others are parsed with what was found by then. -/
theorem run_parseOutputs_append {front : List (String × OutputParser)}
    (h : ∀ entry ∈ front, passes printed entry = true) (rest : List (String × OutputParser))
    (found : Fields) (s : Session) :
    (parseOutputs name printed (front ++ rest) found).run.run s =
      (parseOutputs name printed rest (overlay found (parsed printed front))).run.run
        { s with reports := s.reports ++ warnings name printed front } := by
  induction front generalizing found s with
  | nil => simp [parsed, warnings, overlay]
  | cons first front ih =>
    obtain ⟨output, p⟩ := first
    obtain ⟨hfirst, hfront⟩ := List.forall_mem_cons.1 h
    rw [List.cons_append, parseOutputs]
    cases hparse : p.parse printed with
    | ok v =>
      have hfound : parsed printed ((output, p) :: front) = (output, v) :: parsed printed front := by
        simp [parsed, hparse]
      have hsaid : warnings name printed ((output, p) :: front) = warnings name printed front := by
        simp [warnings, hparse]
      rw [hfound, hsaid, overlay_cons]
      exact ih hfront _ _
    | error e =>
      have hfound : parsed printed ((output, p) :: front) = parsed printed front := by
        simp [parsed, hparse]
      have hvalue : e.kind.isValue = true := by simpa [passes, hparse] using hfirst
      dsimp only
      rw [if_pos hvalue, hfound]
      refine (ih hfront found (s.report .warning _)).trans ?_
      simp [warnings, hparse, Session.report]

/-- Outputs that all pass are parsed to the end. -/
theorem run_parseOutputs (h : ∀ entry ∈ entries, passes printed entry = true) (found : Fields)
    (s : Session) : (parseOutputs name printed entries found).run.run s =
      (.ok (overlay found (parsed printed entries)),
        { s with reports := s.reports ++ warnings name printed entries }) := by
  rw [← List.append_nil entries, run_parseOutputs_append h, List.append_nil]
  rfl

/-- The first output that does not pass ends the work, whatever was found by then. -/
theorem run_parseOutputs_stopped {front rest : List (String × OutputParser)}
    (h : ∀ entry ∈ front, passes printed entry = true) {output : String} {p : OutputParser}
    {e : Fault} (hparse : p.parse printed = .error e) (he : ¬ OfValue e) (found : Fields)
    (s : Session) :
    (parseOutputs name printed (front ++ (output, p) :: rest) found).run.run s =
      (.error e, { s with reports := s.reports ++ warnings name printed front }) := by
  rw [run_parseOutputs_append h, parseOutputs, hparse]
  dsimp only
  rw [if_neg he]
  rfl

/-! ## A command that has succeeded -/

/-- When a tool is run in a session, its command can be filled in, is started and exits with status
zero, and the session goes on behind it. -/
def Succeeds (t : Tool) (params : Fields) (s : Session) (printed : String) (later : Session) : Prop :=
  ∃ argv errors after, t.command params = .ok argv ∧
    s.launch argv (if t.directory = "" then none else some t.directory) =
      (.exit 0 printed errors, after) ∧
    later = if t.verbose then after.print printed else after

theorem run_of_succeeds (h : t.Succeeds params s printed later) :
    (t.run params).run.run s = (.ok printed, later) := by
  obtain ⟨argv, errors, after, hargv, hlaunch, rfl⟩ := h
  have hfilled : (liftM (t.command params) : Work (List String)).run.run s = (.ok argv, s) := by
    rw [hargv]
    rfl
  have hstarted : (Work.launch argv (if t.directory = "" then none else some t.directory)).run.run s =
      (.ok (.exit 0 printed errors), after) := Work.run_lift_of_eq hlaunch
  unfold run
  rw [Work.run_bind_of_ok _ hfilled]
  dsimp only
  rw [Work.run_bind_of_ok _ hstarted]
  dsimp only
  cases t.verbose <;> rfl

/-- What is printed by a command that has succeeded is parsed for the outputs. -/
theorem run_capture_of_succeeds (h : t.Succeeds params s printed later) :
    (t.capture params).run.run s = (parseOutputs t.definition.name printed
      (outputParsers (t.definition.outputs.getD [])) []).run.run later := by
  unfold capture
  rw [Work.run_bind_of_ok _ (run_of_succeeds h)]

/-- The outputs that a tool declares. -/
def declared (t : Tool) : Fields := t.definition.outputs.getD []

/-- The parsers of the outputs that a tool declares. -/
def parsers (t : Tool) : List (String × OutputParser) := outputParsers t.declared

theorem mem_declared_of_mem_parsers {output : String} {p : OutputParser}
    (h : (output, p) ∈ t.parsers) : output ∈ t.declared.map Prod.fst := by
  obtain ⟨⟨name, v⟩, hmem, hdeclared⟩ := List.mem_filterMap.1 h
  dsimp only at hdeclared
  split at hdeclared
  next =>
    obtain ⟨rfl, -⟩ := Prod.mk.inj (Option.some.inj hdeclared)
    exact List.mem_map_of_mem hmem
  next => cases hdeclared

/-- What is found of the declared outputs of a tool in what its command has printed: those that parse,
each for itself. -/
structure Found (t : Tool) (printed : String) (found : Fields) : Prop where
  declared : ∀ output ∈ found.map Prod.fst, output ∈ t.declared.map Prod.fst
  parses : ∀ output, output ∈ found.map Prod.fst ↔
    ∃ p v, (output, p) ∈ t.parsers ∧ p.parse printed = .ok v
  value : ∀ output v, lookupField found output = some v →
    ∃ p, (output, p) ∈ t.parsers ∧ p.parse printed = .ok v

theorem found_parsed (t : Tool) (printed : String) :
    t.Found printed (overlay [] (parsed printed t.parsers)) := by
  have hparses (output : String) : output ∈ (overlay [] (parsed printed t.parsers)).map Prod.fst ↔
      ∃ p v, (output, p) ∈ t.parsers ∧ p.parse printed = .ok v := by
    rw [mem_map_fst_overlay, List.map_nil, or_iff_right List.not_mem_nil]
    constructor
    · intro hmem
      obtain ⟨⟨_, v⟩, hfound, rfl⟩ := List.mem_map.1 hmem
      obtain ⟨p, hp, hok⟩ := mem_parsed.1 hfound
      exact ⟨p, v, hp, hok⟩
    · rintro ⟨p, v, hp, hok⟩
      exact List.mem_map_of_mem (mem_parsed.2 ⟨p, hp, hok⟩)
  refine ⟨?declared, hparses, ?value⟩
  case declared =>
    intro output hmem
    obtain ⟨p, -, hp, -⟩ := (hparses output).1 hmem
    exact mem_declared_of_mem_parsers hp
  case value =>
    intro output v hlookup
    exact mem_parsed.1 ((mem_overlay (mem_of_lookupField hlookup)).resolve_left List.not_mem_nil)

/-- A tool whose command has succeeded finds outputs, or it fails for the first output that does not
pass, whose parser cannot be used. -/
theorem capture_cases (h : t.Succeeds params s printed later) :
    (t.capture params).run.run s = (.ok (overlay [] (parsed printed t.parsers)), { later with
      reports := later.reports ++ warnings t.definition.name printed t.parsers }) ∨
    ∃ front output p rest e, t.parsers = front ++ (output, p) :: rest ∧ ¬ p.Usable ∧
      p.parse printed = .error e ∧ ¬ OfValue e ∧
      (t.capture params).run.run s = (.error e, { later with
        reports := later.reports ++ warnings t.definition.name printed front }) := by
  have hcapture : (t.capture params).run.run s =
      (parseOutputs t.definition.name printed t.parsers []).run.run later :=
    run_capture_of_succeeds h
  rw [hcapture]
  rcases hfind : t.parsers.find? (!passes printed ·) with _ | ⟨output, p⟩
  · have hpass : ∀ entry ∈ t.parsers, passes printed entry = true := by
      simpa using List.find?_eq_none.1 hfind
    exact Or.inl (run_parseOutputs hpass [] later)
  · obtain ⟨hstops, front, rest, hsplit, hfront⟩ := List.find?_eq_some_iff_append.1 hfind
    obtain ⟨e, hparse, he⟩ := exists_of_passes_eq_false (by simpa using hstops)
    have hpass : ∀ entry ∈ front, passes printed entry = true := by simpa using hfront
    have hnot : ¬ p.Usable := fun husable => he (OutputParser.usable_iff.1 husable printed e hparse)
    refine Or.inr ⟨front, output, p, rest, e, hsplit, hnot, hparse, he, ?_⟩
    rw [hsplit, run_parseOutputs_stopped hpass hparse he]

/-- A tool that reports something, and has outputs in it. -/
def reporter (outputs : Fields) : Tool where
  definition := { (default : Definition) with
    name := "report", command := "report", outputs := some outputs }
  directory := ""
  verbose := false

/-- A session in which the next command prints a number. -/
def numbered : Session := { (default : Session) with endings := [.exit 0 "no 7" ""] }

/-- The session behind the command. -/
def behindReport : Session := (numbered.launch ["report"] none).2

theorem succeeds_reporter (outputs : Fields) :
    (reporter outputs).Succeeds [] numbered "no 7" behindReport := by
  have hargv : (reporter outputs).command [] = .ok ["report"] := by cbv
  exact ⟨["report"], "", behindReport, hargv, rfl, rfl⟩

/-- A JSON value and the number seven, of which there is only the latter. -/
def jsonAndNumber : Fields :=
  [("list", .map [(.text "format", .text "json")]),
    ("number", .map [(.text "format", .text "text"), (.text "pattern", .text "7")])]

/-- A number and all that is printed; the pattern of the number opens a group. -/
def openGroupAndAll : Fields :=
  [("number", .map [(.text "format", .text "text"), (.text "pattern", .text "(")]),
    ("all", .map [(.text "format", .text "text")])]

end Tool

end Action

end Remediation
