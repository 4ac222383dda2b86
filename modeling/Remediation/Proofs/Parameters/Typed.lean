import Remediation.Proofs.Json.Data
import Remediation.Proofs.Parameters.Coercion
import Remediation.Proofs.Parameters.Layout
import Remediation.Parameters
/-!
# Facts that pass through a template

A template that is nothing but a placeholder is filled with its fact as a text.  Where the parameter is
declared to be what the fact is, that text spells the fact again: a list as JSON on one line, an integer
as its sign and digits, a truth value as a word (`spells_inText`).  So the fact comes through the template
as it is (`materialize_typed`).
-/

set_option autoImplicit false

namespace Remediation

/-! ## Integers -/

namespace Coercion

theorem numberOf_natDigits (n : Nat) : numberOf (Decimal.natDigits n) = n := by
  rw [← natOfDigits_map_asciiDigit fun c hc => Decimal.isDigit_natDigits hc,
    Decimal.map_asciiDigit_natDigits, Decimal.natOfDigits_natDigits]

/-- A number is written as a numeral without a sign. -/
theorem numeral_natDigits {body : List Char} {negative : Bool} {n : Nat}
    (h : Signed body negative (Decimal.natDigits n)) : Numeral body negative (Decimal.natDigits n) where
  signed := h
  some := Nat.toDigits_ne_nil
  decimal := fun _ hc => Decimal.isDigit_natDigits hc

/-- An integer that is short enough to be written is spelled by what is written of it. -/
theorem spells_intText {declared : Declared} (hdeclared : declared = .integer ∨ declared = .number)
    {n : Int} (hn : Decimal.isWritable n = true) : Spells (Decimal.intText n) declared (.int n) := by
  have hbound : n.natAbs < Decimal.digitBound := by
    simpa only [Decimal.isWritable, decide_eq_true_eq] using hn
  have hlength := Decimal.length_natDigits_le_limit hbound
  cases n with
  | ofNat n =>
    have hnumeral : Numeral (Decimal.intText n).toList false (Decimal.natDigits n) := by
      rw [Decimal.intText, String.toList_ofList]
      exact numeral_natDigits (.none _)
    have hspells := Spells.integer hdeclared hnumeral hlength
    rwa [integerOf, if_neg Bool.false_ne_true, numberOf_natDigits] at hspells
  | negSucc n =>
    have hnumeral : Numeral (Decimal.intText (.negSucc n)).toList true (Decimal.natDigits (n + 1)) := by
      rw [Decimal.intText, String.toList_ofList]
      exact numeral_natDigits (.minus _)
    have hspells := Spells.integer hdeclared hnumeral hlength
    rwa [integerOf, if_pos rfl, numberOf_natDigits] at hspells

theorem strip_intText (n : Int) : Text.strip (Decimal.intText n) = Decimal.intText n := by
  have hdigit {m : Nat} : ∀ c ∈ Decimal.natDigits m, Text.isBlank c = false := fun c hc =>
    (Decimal.asciiDigit_of_isDigit (Decimal.isDigit_of_mem_natDigits hc)).2.2
  refine Text.Stripped.strip_eq (.of_forall ?_)
  rw [Decimal.intText, String.toList_ofList]
  cases n with
  | ofNat n => exact hdigit
  | negSucc n => exact List.forall_mem_cons.2 ⟨rfl, hdigit⟩

end Coercion

/-! ## Facts as texts -/

/-- A list is written from a bracket to a bracket. -/
theorem Json.strip_render_list (items : List Json) (style : Style) :
    Text.strip ((Json.list items).render style) = (Json.list items).render style := by
  refine Text.Stripped.strip_eq ?_
  rw [render, String.toList_ofList]
  cases items with
  | nil =>
    rw [write_noItems]
    exact .of_forall (List.forall_mem_cons.2 ⟨rfl, List.forall_mem_singleton.2 rfl⟩)
  | cons v vs =>
    rw [write_items]
    constructor
    · rintro c ⟨⟩
      rfl
    · rw [List.getLast?_concat]
      rintro c ⟨⟩
      rfl

namespace Value

variable {v : Value} {declared : Declared} {j : Json}

theorem inText_of_toJson (hv : ∀ s, v ≠ .text s) (h : v.toJson plainConvention = .ok j) :
    v.inText = .ok (j.render Json.lineStyle) := by
  unfold inText
  split
  next s => exact absurd rfl (hv s)
  next => simp only [h]

/-- The text of a fact that is what is declared spells the fact, and has no blanks around it. -/
theorem spells_inText (hplain : v.IsPlain) (hdeclared : declared.Admits v) :
    ∃ s, v.inText = .ok s ∧ Text.strip s = s ∧ Coercion.Spells s declared v := by
  obtain ⟨j, limit, hfits, rfl⟩ := hplain.isData
  have htext : ∀ s, j.toValue ≠ .text s := by
    intro s hs
    rw [hs] at hdeclared
    cases hdeclared
  have hread := Json.read_lenient_render hfits
  refine ⟨_, inText_of_toJson htext (hfits.toJson_toValue plainConvention), ?_⟩
  cases j with
  | null | text | map => cases hdeclared
  | float => cases hfits
  | bool b =>
    obtain _ | _ | _ | _ | _ := hdeclared
    cases b with
    | true => exact ⟨by decide, .boolean rfl⟩
    | false => exact ⟨by decide, .boolean rfl⟩
  | int n =>
    obtain _ | _ | hn := hfits
    refine ⟨Coercion.strip_intText n, Coercion.spells_intText ?_ hn⟩
    obtain _ | _ | _ | _ | _ := hdeclared
    · exact Or.inl rfl
    · exact Or.inr rfl
  | list items =>
    obtain _ | _ | _ | _ | _ := hdeclared
    exact ⟨Json.strip_render_list items Json.lineStyle, .array hread⟩

end Value

/-! ## Templates -/

namespace Template

variable {facts : Facts} {name s : String} {v : Value}

/-- The template that is nothing but a placeholder. -/
def alone (name : String) : String := "\x7b\x7b." ++ name ++ "\x7d\x7d"

/-- A template that is nothing but a placeholder is filled with its fact as a text. -/
theorem substitute_alone (hsome : name ≠ "") (hopen : '\x7d' ∉ name.toList)
    (hstrip : Text.strip name = name) (hfact : entryAt? facts name = some v)
    (htext : v.inText = .ok s) : substitute (alone name) facts = .ok s := by
  have hchars : (alone name).toList = opening ++ name.toList ++ closing ++ [] := by
    simp [alone, opening, closing]
  have hparse : parse (alone name).toList = [.placeholder name.toList] := by
    rw [hchars, parse_write (by simpa using hsome) hopen, parse]
  have hname : nameOf name.toList = name := hstrip
  have hpiece : Piece.fill facts (.placeholder name.toList) = .ok s.toList := by
    simp only [Piece.fill, hname, hfact, htext, Except.map]
  have hfill : fill facts (parse (alone name).toList) = .ok s.toList := by
    simp only [hparse, fill, hpiece, Except.map, List.append_nil]
  have hknown : missing facts (parse (alone name).toList) = [] := by
    rw [missing_eq_nil_iff, hparse]
    refine List.forall_mem_singleton.2 ?_
    rw [hname, hfact]
    rfl
  rw [substitute_of_fill hfill hknown, String.ofList_toList]

end Template

/-- A fact comes as it is through the template that is nothing but its placeholder, where the parameter is
declared to be a list, an integer, a number or a truth value and the fact is one, with nothing in it but
null, truth values, integers, texts, lists and maps. -/
theorem materialize_typed {facts : Facts} {schema : Fields} {parameter name : String} {v : Value}
    (hsome : name ≠ "") (hopen : '\x7d' ∉ name.toList) (hstrip : Text.strip name = name)
    (hfact : entryAt? facts name = some v) (hplain : v.IsPlain)
    (hdeclared : (declaredType schema parameter).Admits v) :
    materialize facts schema [(parameter, .text (Template.alone name))] = .ok [(parameter, v)] := by
  obtain ⟨s, htext, hs, hspells⟩ := Value.spells_inText hplain hdeclared
  have hfilled : Template.substitute (Template.alone name) facts = .ok s :=
    Template.substitute_alone hsome hopen hstrip hfact htext
  have hread : coerce (declaredType schema parameter) s = .ok v :=
    Coercion.coerce_of_spells (hs.symm ▸ hspells)
  have hparameter : materializeParameter facts schema parameter (.text (Template.alone name)) =
      .ok v := by
    simp only [materializeParameter, hfilled, hread]
  simp only [materialize, hparameter, Except.map]

/-- Hosts: a text with quotes and characters beyond ASCII, a negative integer, and a map with a list. -/
def hostList : Value :=
  .list [.text "\"front\\\n\" é😀", .int (-443), .list [],
    .map [(.text "open", .bool true), (.text "\x7b\x7b.team\x7d\x7d", .list [.null])]]

/-- The hosts are declared to be a list. -/
def hostSchema : Fields :=
  [("properties", .map [(.text "hosts", .map [(.text "type", .text "array")])])]

theorem isPlain_hostList : hostList.IsPlain := by
  have hport : Decimal.isWritable (-443) = true := by decide +kernel
  refine .list ?_
  simp only [List.forall_mem_cons]
  refine ⟨.text _, .int hport, .list (List.forall_mem_nil _), .map ?_ (by simp) ?_,
    List.forall_mem_nil _⟩
  · simp
  · simp only [List.forall_mem_cons]
    exact ⟨.bool true, .list (List.forall_mem_singleton.2 .null), List.forall_mem_nil _⟩

/-- The hosts come through their placeholder as they are. -/
theorem materialize_typed_hosts : hostList.IsPlain ∧
    (declaredType hostSchema "hosts").Admits hostList ∧
    materialize [(.text "all hosts", hostList)] hostSchema
      [("hosts", .text "\x7b\x7b.all hosts\x7d\x7d")] = .ok [("hosts", hostList)] := by
  have hdeclared : (declaredType hostSchema "hosts").Admits hostList := .array _
  have htemplate : Template.alone "all hosts" = "\x7b\x7b.all hosts\x7d\x7d" := by decide
  refine ⟨isPlain_hostList, hdeclared, ?_⟩
  rw [← htemplate]
  exact materialize_typed (by decide) (by decide) (by decide) rfl isPlain_hostList hdeclared

end Remediation
