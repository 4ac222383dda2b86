import Mathlib.Data.List.TakeWhile
import Remediation.Json.Path
import Remediation.Proofs.Decimal.Digits
import Remediation.Proofs.Text.Cut
import Remediation.Proofs.Work
/-!
# Where paths lead

A value inside a JSON value is where branches lead from the outside in: the fields of names and the
items of numbers (`Leads`).  A path spells branches by its parts, and an item by a part of its own or
behind the field in front of it (`Spells`).  However they are spelled, the path leads where the branches
lead, and where one of them is not in the value to which those in front of it lead, the path is a fault
of the value (`follow_spelled`).

The parts are taken one by one, so that it is enough to know where a single part leads: a field as its
branch (`field_eq_ok_iff`), and an item as its branch in what the field in front of it holds
(`exists_of_step_bracketed`, `step_bracketed`).
-/

set_option autoImplicit false

namespace Remediation.Json

/-! ## Faults of paths -/

/-- A fault of the value in which a path is followed. -/
abbrev Misled (e : Fault) : Prop := e.kind = .value

theorem failsAs_itemNumber (digits : List Char) : FailsAs Misled (itemNumber digits) := by
  unfold itemNumber
  split
  · exact .error rfl
  · exact .ok _

theorem failsAs_field (name : List Char) (j : Json) : FailsAs Misled (field name j) := by
  unfold field
  split
  · exact .ok _
  · split
    · exact .ok _
    · exact .error rfl

theorem failsAs_item (spelled : List Char) (n : Nat) (j : Json) :
    FailsAs Misled (item spelled n j) := by
  unfold item
  split
  · split
    · exact .ok _
    · exact .error rfl
  · exact .error rfl

theorem failsAs_step (j : Json) (spelled : List Char) : FailsAs Misled (step j spelled) := by
  unfold step
  dsimp only
  split
  next => exact failsAs_field _ _
  next digits _ =>
    split
    next e he => exact .error (failsAs_itemNumber _ e he)
    next n _ =>
      split
      next e he => exact .error (failsAs_field _ _ e he)
      next => exact failsAs_item _ _ _

theorem failsAs_walk (j : Json) (parts : List (List Char)) : FailsAs Misled (walk j parts) := by
  induction parts generalizing j with
  | nil => exact .ok j
  | cons spelled rest ih =>
    unfold walk
    split
    next e he => exact .error (failsAs_step _ _ e he)
    next v _ => exact ih v

/-- A path that does not lead anywhere is a fault of the value. -/
theorem failsAs_follow (j : Json) (path : String) : FailsAs Misled (j.follow path) :=
  failsAs_walk j _

/-! ## Branches -/

/-- A branch of a value: the field of a name, or the item of a number. -/
inductive Branch where
  | field (name : String)
  | item (n : Nat)
  deriving DecidableEq, Repr

namespace Branch

/-- A path can spell the branch: a name is not empty and has no points and brackets. -/
def Spellable : Branch → Prop
  | field name => name ≠ "" ∧ '.' ∉ name.toList ∧ '[' ∉ name.toList ∧ ']' ∉ name.toList
  | item _ => True

/-- The number of an item has no more digits than can be read, as in every list that can be held. -/
def Short : Branch → Prop
  | field _ => True
  | item n => (Decimal.natDigits n).length ≤ Decimal.digitLimit

instance (b : Branch) : Decidable b.Spellable :=
  match b with
  | field _ => inferInstanceAs (Decidable (_ ∧ _))
  | item _ => inferInstanceAs (Decidable True)

instance (b : Branch) : Decidable b.Short :=
  match b with
  | field _ => inferInstanceAs (Decidable True)
  | item _ => inferInstanceAs (Decidable (_ ≤ _))

/-- A value holds another one at a branch, and null at a field that is not there. -/
inductive Holds : Json → Branch → Json → Prop where
  | field {fields : List (String × Json)} {name : String} {w : Json} :
      lookupField fields name = some w → Holds (.map fields) (field name) w
  | absent {fields : List (String × Json)} {name : String} :
      lookupField fields name = none → Holds (.map fields) (field name) .null
  | item {items : List Json} {n : Nat} {w : Json} :
      items[n]? = some w → Holds (.list items) (item n) w

/-- A value has no such branch. -/
inductive Excludes : Json → Branch → Prop where
  | noMap {v : Json} {name : String} : (∀ fields, v ≠ .map fields) → Excludes v (field name)
  | noList {v : Json} {n : Nat} : (∀ items, v ≠ .list items) → Excludes v (item n)
  | outOfRange {items : List Json} {n : Nat} : items.length ≤ n → Excludes (.list items) (item n)

variable {v u w : Json} {b : Branch}

theorem Holds.unique (h : Holds v b u) (h' : Holds v b w) : u = w := by
  cases h with
  | field hu => cases h' with
    | field hw => exact Option.some.inj (hu.symm.trans hw)
    | absent hw => cases hu.symm.trans hw
  | absent hu => cases h' with
    | field hw => cases hu.symm.trans hw
    | absent => rfl
  | item hu => cases h' with
    | item hw => exact Option.some.inj (hu.symm.trans hw)

theorem Excludes.not_holds (h : Excludes v b) : ¬ Holds v b u := by
  intro hholds
  cases h with
  | noMap hno => cases hholds <;> exact hno _ rfl
  | noList hno => cases hholds; exact hno _ rfl
  | outOfRange hle => cases hholds with
    | item hitem => cases (List.getElem?_eq_none hle).symm.trans hitem

end Branch

open Branch (Holds Excludes)

/-- Branches lead from a value to one inside it. -/
inductive Leads : Json → List Branch → Json → Prop where
  | here (v : Json) : Leads v [] v
  | into {v u w : Json} {b : Branch} {branches : List Branch} :
      Holds v b u → Leads u branches w → Leads v (b :: branches) w

variable {v u w : Json} {b : Branch} {branches : List Branch}

/-- Branches do not lead past one that the value has not to which those in front of it lead. -/
theorem Leads.not_leads {before behind : List Branch} (h : Leads v before u)
    (hexcludes : Excludes u b) : ¬ Leads v (before ++ b :: behind) w := by
  induction h with
  | here v =>
    intro hleads
    cases hleads with
    | into hholds _ => exact hexcludes.not_holds hholds
  | into hholds _ ih =>
    intro hleads
    cases hleads with
    | into hholds' hrest =>
      obtain rfl := hholds.unique hholds'
      exact ih hexcludes hrest

/-! ## Spellings -/

/-- The number of an item, in brackets. -/
def bracketed (n : Nat) : String := "[" ++ String.ofList (Decimal.natDigits n) ++ "]"

/-- Branches are spelled by the parts of a path.  An item may be spelled behind the field in front of
it. -/
inductive Spells : List Branch → List String → Prop where
  | nil : Spells [] []
  | field {branches : List Branch} {parts : List String} (name : String) :
      Spells branches parts → Spells (.field name :: branches) (name :: parts)
  | item {branches : List Branch} {parts : List String} (n : Nat) :
      Spells branches parts → Spells (.item n :: branches) (bracketed n :: parts)
  | attached {branches : List Branch} {parts : List String} (name : String) (n : Nat) :
      Spells branches parts →
      Spells (.field name :: .item n :: branches) ((name ++ bracketed n) :: parts)

/-- The characters of a number in brackets. -/
theorem toList_bracketed (n : Nat) :
    (bracketed n).toList = '[' :: (Decimal.natDigits n ++ [']']) := by
  simp [bracketed]

/-- A text without brackets. -/
def Unbracketed (cs : List Char) : Prop := ∀ c ∈ cs, (c == '[' || c == ']') = false

theorem PathPart.read_of_unbracketed {cs : List Char} (h : Unbracketed cs) :
    PathPart.read cs = ⟨cs, none⟩ := by
  have hdrop : cs.dropWhile (fun c => !(c == '[' || c == ']')) = [] :=
    List.dropWhile_eq_nil_iff.2 fun c hc => by rw [h c hc]; rfl
  unfold PathPart.read PathPart.indexed?
  simp only [hdrop, Option.getD_none]

theorem PathPart.read_bracketed {cs : List Char} (h : Unbracketed cs) (n : Nat) :
    PathPart.read (cs ++ (bracketed n).toList) = ⟨cs, some (Decimal.natDigits n)⟩ := by
  have hname : ∀ c ∈ cs, (!(c == '[' || c == ']')) = true := fun c hc => by rw [h c hc]; rfl
  have hdigits : ∀ c ∈ Decimal.natDigits n, Text.isDigit c = true := fun c hc =>
    Decimal.isDigit_natDigits hc
  have hsome : (Decimal.natDigits n).isEmpty = false := by
    rw [List.isEmpty_eq_false_iff]
    exact Nat.toDigits_ne_nil
  have hopen : (cs ++ (bracketed n).toList).dropWhile (fun c => !(c == '[' || c == ']')) =
      '[' :: (Decimal.natDigits n ++ [']']) := by
    rw [List.dropWhile_append_of_pos hname, toList_bracketed]
    rfl
  have hbefore : (cs ++ (bracketed n).toList).takeWhile (fun c => !(c == '[' || c == ']')) = cs := by
    rw [List.takeWhile_append_of_pos hname, toList_bracketed]
    exact List.append_nil cs
  have htake : (Decimal.natDigits n ++ [']']).takeWhile Text.isDigit = Decimal.natDigits n := by
    rw [List.takeWhile_append_of_pos hdigits]
    exact List.append_nil _
  have hdrop : (Decimal.natDigits n ++ [']']).dropWhile Text.isDigit = [']'] :=
    List.dropWhile_append_of_pos hdigits
  unfold PathPart.read PathPart.indexed?
  simp only [hopen, hbefore, htake, hdrop, hsome]
  rfl

/-- What can be spelled is spelled without points and brackets. -/
theorem Branch.Spellable.unbracketed {name : String} (h : (Branch.field name).Spellable) :
    Unbracketed name.toList := by
  intro c hc
  obtain ⟨-, -, hopen, hclose⟩ := h
  simp only [Bool.or_eq_false_iff, beq_eq_false_iff_ne]
  exact ⟨ne_of_mem_of_not_mem hc hopen, ne_of_mem_of_not_mem hc hclose⟩

theorem point_notMem_bracketed (n : Nat) : '.' ∉ (bracketed n).toList := by
  intro hmem
  rw [toList_bracketed] at hmem
  have hdigit : '.' ∈ Decimal.natDigits n := by simpa using hmem
  exact absurd (Decimal.isDigit_of_mem_natDigits hdigit) (by decide)

theorem Spells.ne_nil {parts : List String} (h : Spells branches parts) (hne : branches ≠ []) :
    parts ≠ [] := by
  cases h with
  | nil => exact absurd rfl hne
  | field | item | attached => exact List.cons_ne_nil _ _

/-- No part has a point in it, so that points part them. -/
theorem Spells.point_notMem {parts : List String} (h : Spells branches parts)
    (hspellable : ∀ b ∈ branches, b.Spellable) : ∀ part ∈ parts, '.' ∉ part.toList := by
  induction h with
  | nil => exact List.forall_mem_nil _
  | field name _ ih =>
    obtain ⟨hname, hrest⟩ := List.forall_mem_cons.1 hspellable
    exact List.forall_mem_cons.2 ⟨hname.2.1, ih hrest⟩
  | item n _ ih =>
    obtain ⟨-, hrest⟩ := List.forall_mem_cons.1 hspellable
    exact List.forall_mem_cons.2 ⟨point_notMem_bracketed n, ih hrest⟩
  | attached name n _ ih =>
    obtain ⟨hname, hbehind⟩ := List.forall_mem_cons.1 hspellable
    obtain ⟨-, hrest⟩ := List.forall_mem_cons.1 hbehind
    refine List.forall_mem_cons.2 ⟨?_, ih hrest⟩
    rw [String.toList_append, List.mem_append]
    exact not_or.2 ⟨hname.2.1, point_notMem_bracketed n⟩

/-! ## Steps along a path -/

theorem itemNumber_natDigits {n : Nat} (h : (Branch.item n).Short) :
    itemNumber (Decimal.natDigits n) = .ok n := by
  rw [itemNumber, if_neg (Nat.not_lt.2 h), Decimal.map_asciiDigit_natDigits,
    Decimal.natOfDigits_natDigits]

theorem eq_of_itemNumber_natDigits {n m : Nat} (h : itemNumber (Decimal.natDigits n) = .ok m) :
    m = n := by
  rw [itemNumber, Decimal.map_asciiDigit_natDigits, Decimal.natOfDigits_natDigits] at h
  split at h
  · cases h
  · exact (Except.ok.inj h).symm

theorem field_nil (v : Json) : field [] v = .ok v := rfl

theorem field_eq_ok_iff {name : String} (hname : name ≠ "") :
    field name.toList v = .ok u ↔ Holds v (.field name) u := by
  have hsome : name.toList.isEmpty = false := by simpa using hname
  unfold field
  rw [hsome, if_neg Bool.false_ne_true, String.ofList_toList]
  constructor
  · intro h
    split at h
    next fields =>
      obtain rfl := Except.ok.inj h
      cases hlookup : lookupField fields name with
      | some w => exact .field hlookup
      | none => exact .absent hlookup
    next => cases h
  · intro h
    cases h with
    | field hlookup => simp [hlookup]
    | absent hlookup => simp [hlookup]

theorem item_eq_ok_iff {n : Nat} (spelled : List Char) :
    item spelled n v = .ok u ↔ Holds v (.item n) u := by
  unfold item
  constructor
  · intro h
    split at h
    next items =>
      split at h
      next w hitem =>
        obtain rfl := Except.ok.inj h
        exact .item hitem
      next => cases h
    next => cases h
  · intro h
    cases h with
    | item hitem => simp [hitem]

theorem step_of_unbracketed {cs : List Char} (h : Unbracketed cs) (v : Json) :
    step v cs = field cs v := by
  unfold step
  simp only [PathPart.read_of_unbracketed h]

/-- A part with an item leads where first the field and then the item leads. -/
theorem exists_of_step_bracketed {cs : List Char} {n : Nat} (h : Unbracketed cs)
    (hstep : step v (cs ++ (bracketed n).toList) = .ok w) :
    ∃ u, field cs v = .ok u ∧ Holds u (.item n) w := by
  unfold step at hstep
  simp only [PathPart.read_bracketed h] at hstep
  split at hstep
  next => cases hstep
  next m hnumber =>
    obtain rfl := eq_of_itemNumber_natDigits hnumber
    split at hstep
    next => cases hstep
    next u hfield => exact ⟨u, hfield, (item_eq_ok_iff _).1 hstep⟩

theorem step_bracketed {cs : List Char} {n : Nat} (h : Unbracketed cs)
    (hn : (Branch.item n).Short) (hfield : field cs v = .ok u) (hitem : Holds u (.item n) w) :
    step v (cs ++ (bracketed n).toList) = .ok w := by
  unfold step
  simp only [PathPart.read_bracketed h, itemNumber_natDigits hn, hfield]
  exact (item_eq_ok_iff _).2 hitem

theorem walk_cons_eq_ok_iff {spelled : List Char} {rest : List (List Char)} :
    walk v (spelled :: rest) = .ok w ↔ ∃ u, step v spelled = .ok u ∧ walk u rest = .ok w := by
  rw [walk]
  cases step v spelled with
  | error e => simp
  | ok u => simp

/-! ## Whole paths -/

theorem unbracketed_nil : Unbracketed [] := List.forall_mem_nil _

/-- Where the parts of a path lead, the branches lead that they spell. -/
theorem Spells.leads_of_walk {parts : List String} (h : Spells branches parts)
    (hspellable : ∀ b ∈ branches, b.Spellable)
    (hwalk : walk v (parts.map String.toList) = .ok w) : Leads v branches w := by
  induction h generalizing v with
  | nil =>
    obtain rfl := Except.ok.inj hwalk
    exact .here v
  | field name _ ih =>
    obtain ⟨hname, hrest⟩ := List.forall_mem_cons.1 hspellable
    obtain ⟨u, hstep, hwalk⟩ := walk_cons_eq_ok_iff.1 hwalk
    rw [step_of_unbracketed hname.unbracketed] at hstep
    exact .into ((field_eq_ok_iff hname.1).1 hstep) (ih hrest hwalk)
  | item n _ ih =>
    obtain ⟨-, hrest⟩ := List.forall_mem_cons.1 hspellable
    obtain ⟨u, hstep, hwalk⟩ := walk_cons_eq_ok_iff.1 hwalk
    obtain ⟨v', hfield, hitem⟩ := exists_of_step_bracketed unbracketed_nil hstep
    obtain rfl := Except.ok.inj hfield
    exact .into hitem (ih hrest hwalk)
  | attached name n _ ih =>
    obtain ⟨hname, hbehind⟩ := List.forall_mem_cons.1 hspellable
    obtain ⟨-, hrest⟩ := List.forall_mem_cons.1 hbehind
    obtain ⟨u, hstep, hwalk⟩ := walk_cons_eq_ok_iff.1 hwalk
    rw [String.toList_append] at hstep
    obtain ⟨held, hfield, hitem⟩ := exists_of_step_bracketed hname.unbracketed hstep
    exact .into ((field_eq_ok_iff hname.1).1 hfield) (.into hitem (ih hrest hwalk))

/-- Where branches lead, the parts lead by which they are spelled. -/
theorem Spells.walk_of_leads {parts : List String} (h : Spells branches parts)
    (hspellable : ∀ b ∈ branches, b.Spellable) (hshort : ∀ b ∈ branches, b.Short)
    (hleads : Leads v branches w) : walk v (parts.map String.toList) = .ok w := by
  induction h generalizing v with
  | nil =>
    cases hleads
    rfl
  | field name _ ih =>
    obtain ⟨hname, hrest⟩ := List.forall_mem_cons.1 hspellable
    obtain ⟨-, hshort⟩ := List.forall_mem_cons.1 hshort
    cases hleads with
    | into hholds hleads =>
      refine walk_cons_eq_ok_iff.2 ⟨_, ?_, ih hrest hshort hleads⟩
      rw [step_of_unbracketed hname.unbracketed]
      exact (field_eq_ok_iff hname.1).2 hholds
  | item n _ ih =>
    obtain ⟨-, hrest⟩ := List.forall_mem_cons.1 hspellable
    obtain ⟨hn, hshort⟩ := List.forall_mem_cons.1 hshort
    cases hleads with
    | into hholds hleads =>
      have hstep := step_bracketed unbracketed_nil hn (field_nil v) hholds
      exact walk_cons_eq_ok_iff.2 ⟨_, hstep, ih hrest hshort hleads⟩
  | attached name n _ ih =>
    obtain ⟨hname, hbehind⟩ := List.forall_mem_cons.1 hspellable
    obtain ⟨-, hrest⟩ := List.forall_mem_cons.1 hbehind
    obtain ⟨-, hshort⟩ := List.forall_mem_cons.1 hshort
    obtain ⟨hn, hshort⟩ := List.forall_mem_cons.1 hshort
    cases hleads with
    | into hfield hleads => cases hleads with
      | into hitem hleads =>
        refine walk_cons_eq_ok_iff.2 ⟨_, ?_, ih hrest hshort hleads⟩
        rw [String.toList_append]
        exact step_bracketed hname.unbracketed hn ((field_eq_ok_iff hname.1).2 hfield) hitem

/-- A path is followed part by part. -/
theorem Spells.follow_eq_walk {parts : List String} (h : Spells branches parts)
    (hspellable : ∀ b ∈ branches, b.Spellable) (hne : branches ≠ []) (v : Json) :
    v.follow (Text.join "." parts) = walk v (parts.map String.toList) := by
  have hparts : parts.map String.toList ≠ [] := mt List.map_eq_nil_iff.1 (h.ne_nil hne)
  have hpoints : ∀ part ∈ parts.map String.toList, '.' ∉ part :=
    List.forall_mem_map.2 (h.point_notMem hspellable)
  have hchars : (Text.join "." parts).toList = ['.'].intercalate (parts.map String.toList) :=
    String.toList_intercalate
  rw [follow, hchars, Text.splitChars_intercalate hparts hpoints]

theorem exists_spells (branches : List Branch) : ∃ parts, Spells branches parts := by
  induction branches with
  | nil => exact ⟨[], .nil⟩
  | cons b branches ih =>
    obtain ⟨parts, hparts⟩ := ih
    cases b with
    | field name => exact ⟨_, .field name hparts⟩
    | item n => exact ⟨_, .item n hparts⟩

/-- Whatever inside a value branches lead to, there is a path to it: each path by which they are
spelled.  If one of the branches is not in the value to which those in front of it lead, since that is no
map or no list or is too short, the path is a fault of the value. -/
theorem follow_spelled (hne : branches ≠ []) (hspellable : ∀ b ∈ branches, b.Spellable) (v : Json) :
    (∃ parts, Spells branches parts) ∧
    ∀ parts, Spells branches parts →
      (∀ w, Leads v branches w → (∀ b ∈ branches, b.Short) →
        v.follow (Text.join "." parts) = .ok w) ∧
      ∀ before b behind u, branches = before ++ b :: behind → Leads v before u → Excludes u b →
        ∃ e : Fault, v.follow (Text.join "." parts) = .error e ∧ e.kind = .value := by
  refine ⟨exists_spells branches, ?_⟩
  intro parts hspells
  rw [hspells.follow_eq_walk hspellable hne v]
  constructor
  · intro w hleads hshort
    exact hspells.walk_of_leads hspellable hshort hleads
  · rintro before b behind u rfl hleads hexcludes
    cases hwalk : walk v (parts.map String.toList) with
    | ok w =>
      exact absurd (hspells.leads_of_walk hspellable hwalk) (hleads.not_leads hexcludes)
    | error e => exact ⟨e, rfl, failsAs_walk v _ e hwalk⟩

/-- Two changes, of which the second one has files in groups. -/
def changes : Json :=
  .map [("items", .list [.map [("sha", .text "a1")],
    .map [("sha", .text "b2"), ("files", .list [.list [.text "x", .text "y"]])]])]

/-- The second file of the first group of the second change. -/
def secondFile : List Branch := [.field "items", .item 1, .field "files", .item 0, .item 1]

/-- What the third change is called. -/
def thirdName : List Branch := [.field "items", .item 2, .field "sha"]

/-- Items are reached behind their field and by themselves.  A third change is not there. -/
theorem follow_spelled_changes :
    Spells secondFile ["items[1]", "files", "[0]", "[1]"] ∧
    Leads changes secondFile (.text "y") ∧
    (∀ b ∈ secondFile, b.Short) ∧
    changes.follow "items[1].files.[0].[1]" = .ok (.text "y") ∧
    Spells thirdName ["items[2]", "sha"] ∧
    ∃ e : Fault, changes.follow "items[2].sha" = .error e ∧ e.kind = .value := by
  have hspells : Spells secondFile ["items[1]", "files", "[0]", "[1]"] := by
    have hparts := Spells.attached "items" 1 (.field "files" (.item 0 (.item 1 .nil)))
    rwa [show "items" ++ bracketed 1 = "items[1]" by decide, show bracketed 0 = "[0]" by decide,
      show bracketed 1 = "[1]" by decide] at hparts
  have hspells' : Spells thirdName ["items[2]", "sha"] := by
    have hparts := Spells.attached "items" 2 (.field "sha" .nil)
    rwa [show "items" ++ bracketed 2 = "items[2]" by decide] at hparts
  have hleads : Leads changes secondFile (.text "y") :=
    .into (.field rfl) <| .into (.item rfl) <| .into (.field rfl) <| .into (.item rfl) <|
      .into (.item rfl) (.here _)
  have hshort : ∀ b ∈ secondFile, b.Short := by decide
  have hsecond : ∀ b ∈ secondFile, b.Spellable := by decide
  have hthird : ∀ b ∈ thirdName, b.Spellable := by decide
  exact ⟨hspells, hleads, hshort,
    ((follow_spelled (List.cons_ne_nil _ _) hsecond changes).2 _ hspells).1 _ hleads hshort, hspells',
    ((follow_spelled (List.cons_ne_nil _ _) hthird changes).2 _ hspells').2 [.field "items"] (.item 2)
      [.field "sha"] _ rfl (.into (.field rfl) (.here _)) (.outOfRange (Nat.le_refl 2))⟩

end Remediation.Json
