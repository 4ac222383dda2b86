import Remediation.Action.Catalogue
import Remediation.Proofs.Work
import Remediation.RuleFile
/-!
# Faults of documents

What can stop the reading of a document is little: a file that cannot be reached, a text that is none
(`Workspace.Illegible`), a document that is refused, and a scalar that is not what it is declared to be
(`Yaml.Unbuilt`).  The lemmas go up along the readers, from scalars to whole documents and to the files
that hold them, and say what is left of these faults when the readers have named the file.

Parameters are reported missing when templates are filled, and nowhere here (`MissesNone`).

A file whose characters have one byte each, and whose lines end in line feeds, is read character by
character as it is written (`textOf_asciiBytes`).
-/

set_option autoImplicit false

namespace Remediation

variable {α β : Type}

/-- A result that reports no parameters missing. -/
def MissesNone (x : Except Fault α) : Prop :=
  ∀ names place, x ≠ .error (.missingParameters names place)

namespace MissesNone

theorem ok (a : α) : MissesNone (.ok a) := nofun

theorem error {e : Fault} (h : ∀ names place, e ≠ .missingParameters names place) :
    MissesNone (.error e : Except Fault α) := by
  intro names place heq
  exact h names place (Except.error.inj heq)

theorem bind {x : Except Fault α} {f : α → Except Fault β} (h : MissesNone x)
    (hf : ∀ a, MissesNone (f a)) : MissesNone (x.bind f) := by
  cases x with
  | ok a => exact hf a
  | error e => exact error fun names place heq => h names place (congrArg Except.error heq)

end MissesNone

theorem FailsAs.missesNone {P : Fault → Prop} {x : Except Fault α} (h : FailsAs P x)
    (hnone : ∀ names place, ¬ P (.missingParameters names place)) : MissesNone x :=
  fun names place heq => hnone names place (h _ heq)

/-! ## YAML -/

namespace Yaml

/-- Why a scalar is not what it is declared to be. -/
inductive Unbuilt : Fault → Prop where
  | badNumber (reader text : String) : Unbuilt (.badNumber reader text)
  | longDigits (digits : Nat) : Unbuilt (.longDigits digits)
  | noNumber : Unbuilt .noNumber
  | unknownWord (word : String) : Unbuilt (.unknownWord word)
  | moment (f : MomentFault) : Unbuilt (.moment f)
  | noMoment : Unbuilt (.noMatch "NoneType" "groupdict")
  /-- An escape names a code that no character has. -/
  | codePoint (code : Nat) : Unbuilt (.codePoint code)

/-- Why a text gives no value: it is no document, or a scalar of it cannot be built. -/
def Unread (e : Fault) : Prop := e = .yaml ∨ Unbuilt e

theorem Unread.malformed : Unread .yaml := .inl rfl

theorem failsAs_readWhole (base : Nat) (s : String) : FailsAs Unread (readWhole base s) := by
  unfold readWhole
  rcases Decimal.readSign (Text.stripChars s.toList) with ⟨negative, body⟩
  dsimp -zeta only
  extract_lets value? digits
  clear_value digits
  split
  · split
    · exact .error (.inr (.badNumber _ _))
    · split
      · exact .error (.inr (.longDigits _))
      · exact .ok _
  · exact .error (.inr (.badNumber _ _))

theorem failsAs_readFloat (s : String) : FailsAs Unread (readFloat s) := by
  unfold readFloat
  split
  · exact .ok _
  · exact .error (.inr (.badNumber _ _))

theorem failsAs_readSigned (s : String) : FailsAs Unread (readSigned s) := by
  unfold readSigned
  split
  · exact .error (.inr .noNumber)
  · exact .ok _
  · exact .ok _
  · exact .ok _

theorem failsAs_intOf (s : String) : FailsAs Unread (intOf s) := by
  refine (failsAs_readSigned s).bind ?_
  rintro ⟨negative, cs⟩
  dsimp only
  split
  · exact .error (.inr .noNumber)
  · exact .ok _
  · exact (failsAs_readWhole _ _).bind fun n => .ok _
  · exact (failsAs_readWhole _ _).bind fun n => .ok _
  · exact (failsAs_readWhole _ _).bind fun n => .ok _
  · split
    · exact (FailsAs.mapM (failsAs_readWhole 10)).bind fun parts => .ok _
    · exact (failsAs_readWhole _ _).bind fun n => .ok _

theorem failsAs_floatOf (s : String) : FailsAs Unread (floatOf s) := by
  refine (failsAs_readSigned s).bind ?_
  rintro ⟨negative, cs⟩
  dsimp only
  split
  · exact .ok _
  · split
    · exact .ok _
    · split
      · exact (FailsAs.mapM failsAs_readFloat).bind fun parts => .ok _
      · exact (failsAs_readFloat _).bind fun x => .ok _

theorem failsAs_truthOf (s : String) : FailsAs Unread (truthOf s) := by
  unfold truthOf
  dsimp only
  split
  · exact .ok _
  · split
    · exact .ok _
    · exact .error (.inr (.unknownWord _))

theorem failsAs_scalarOf (kind : Kind) (s : String) : FailsAs Unread (scalarOf kind s) := by
  unfold scalarOf
  split
  · exact .ok _
  · exact (failsAs_truthOf s).map _
  · exact (failsAs_intOf s).map _
  · exact (failsAs_floatOf s).map _
  · exact .ok _
  · split
    next stamp _ =>
      refine FailsAs.map ?_ _
      cases stamp.moment with
      | ok m => exact .ok m
      | error f => exact .error (.inr (.moment f))
    next => exact .error (.inr .noMoment)
  · split
    · exact .ok _
    · exact .error .malformed
  · exact .error .malformed

/-- What nodes give, unless a text is refused. -/
def Built.Reads (b : Built α) : Prop := FailsAs Unread (b.mapError Prod.snd)

namespace Built.Reads

theorem ok (a : α) : Reads (.ok a) := FailsAs.ok a

theorem error {n : Nat} {e : Fault} (h : Unread e) : Reads (.error (n, e) : Built α) :=
  FailsAs.error h

theorem malformed (n : Nat) : Reads (.error (n, .yaml) : Built α) := error .malformed

theorem unread {n : Nat} {e : Fault} (h : Reads (.error (n, e) : Built α)) : Unread e := h e rfl

theorem of_result {x : Except Fault α} (h : FailsAs Unread x) :
    Reads (x.mapError fun e => (0, e)) := by
  cases x with
  | ok a => exact ok a
  | error e => exact error (h e rfl)

theorem map {b : Built α} (f : α → β) (h : Reads b) : Reads (b.map f) := by
  cases b with
  | ok a => exact ok (f a)
  | error e => exact error h.unread

theorem deeper {b : Built α} (h : Reads b) : Reads b.deeper := by
  cases b with
  | ok a => exact ok a
  | error e => exact error h.unread

theorem apply {f : Built (α → β)} {b : Built α} (hf : Reads f) (hb : Reads b) :
    Reads (f.apply b) := by
  unfold Built.apply
  split
  · exact ok _
  · exact error hb.unread
  · exact error hf.unread
  · split
    · exact error hb.unread
    · exact error hf.unread

end Built.Reads

namespace Node

theorem reads_key (n : Node) : Built.Reads n.key := by
  unfold key
  extract_lets s?
  clear_value s?
  split
  · exact .of_result (failsAs_scalarOf _ _)
  · exact .malformed 0

/-- The values of entries are read. -/
def Entries.Read (entries : Entries) : Prop := ∀ e ∈ entries, Built.Reads e.2

theorem reads_mapOf {entries : Entries} (h : entries.Read) : Built.Reads (mapOf entries) := by
  have hfold : ∀ entries : Entries, entries.Read → ∀ es : Built (List (Scalar × Value)),
      es.Reads → Built.Reads (entries.foldl
        (fun es e => .apply (.apply (es.map fun es k v => upsertEntry es k v) (key e.1)) e.2) es) := by
    intro entries h
    induction entries with
    | nil => exact fun es hes => hes
    | cons e rest ih =>
      intro es hes
      obtain ⟨hv, hrest⟩ := List.forall_mem_cons.1 h
      exact ih hrest _ (((hes.map _).apply (reads_key e.1)).apply hv)
  exact hfold entries h _ (.ok [])

theorem reads_ofEntries (kind : Kind) {entries : Option Entries} (h : ∀ es ∈ entries, es.Read) :
    Built.Reads (ofEntries kind entries) := by
  have hmap : Built.Reads (entries.elim (.error (0, .yaml)) mapOf) := by
    cases entries with
    | none => exact .malformed 0
    | some es => exact reads_mapOf (h es rfl)
  unfold ofEntries
  split
  next heq =>
    rw [heq] at hmap
    exact .deeper (.error hmap.unread)
  next =>
    split
    · exact .ok _
    · exact .ok _
    · exact .malformed 1

/-- What a node gives is read, and so is what maps take over from it. -/
structure Reads (n : Node) : Prop where
  build : Built.Reads n.build
  single : ∀ kind k v, n = .mapping kind [(k, v)] → Built.Reads k.build ∧ Built.Reads v.build
  entriesOf : ∀ es ∈ n.entriesOf, es.Read
  sourceEntries : ∀ es ∈ n.sourceEntries, es.Read

variable {items : List Node} {entries : List (Node × Node)}

theorem reads_buildItems (h : ∀ n ∈ items, n.Reads) : Built.Reads (buildItems items) := by
  induction items with
  | nil => exact .ok []
  | cons n ns ih =>
    obtain ⟨hn, hns⟩ := List.forall_mem_cons.1 h
    exact (hn.build.map _).apply (ih hns)

theorem reads_buildSingles (h : ∀ n ∈ items, n.Reads) : Built.Reads (buildSingles items) := by
  induction items with
  | nil => exact .ok []
  | cons n ns ih =>
    obtain ⟨hn, hns⟩ := List.forall_mem_cons.1 h
    rw [buildSingles.eq_def]
    dsimp only
    split
    next kind k v =>
      obtain ⟨hk, hv⟩ := hn.single kind k v rfl
      exact (((hk.map _).apply hv).map _).apply (ih hns)
    next => exact ((Built.Reads.malformed 0).map _).apply (ih hns)

theorem read_sourceItems (h : ∀ n ∈ items, n.Reads) : ∀ es ∈ sourceItems items, es.Read := by
  induction items with
  | nil =>
    rintro es ⟨⟩
    exact List.forall_mem_nil _
  | cons n ns ih =>
    obtain ⟨hn, hns⟩ := List.forall_mem_cons.1 h
    intro es hes
    rw [sourceItems] at hes
    split at hes
    next own more hown hmore =>
      obtain rfl := Option.mem_some_iff.1 hes
      exact List.forall_mem_append.2 ⟨ih hns more hmore, hn.entriesOf own hown⟩
    next => cases hes

theorem read_ownEntries (h : ∀ e ∈ entries, e.2.Reads) : Entries.Read (ownEntries entries) := by
  induction entries with
  | nil => exact List.forall_mem_nil _
  | cons e rest ih =>
    obtain ⟨he, hrest⟩ := List.forall_mem_cons.1 h
    obtain ⟨k, v⟩ := e
    rw [ownEntries]
    split
    · exact ih hrest
    · exact List.forall_mem_cons.2 ⟨he.build, ih hrest⟩

theorem read_takenOver (h : ∀ e ∈ entries, e.2.Reads) : ∀ es ∈ takenOver entries, es.Read := by
  induction entries with
  | nil =>
    rintro es ⟨⟩
    exact List.forall_mem_nil _
  | cons e rest ih =>
    obtain ⟨he, hrest⟩ := List.forall_mem_cons.1 h
    obtain ⟨k, v⟩ := e
    intro es hes
    rw [takenOver] at hes
    split at hes
    · split at hes
      next taken more htaken hmore =>
        obtain rfl := Option.mem_some_iff.1 hes
        exact List.forall_mem_append.2 ⟨he.sourceEntries taken htaken, ih hrest more hmore⟩
      next => cases hes
    · exact ih hrest es hes

theorem read_ownEntries_takenOver (h : ∀ e ∈ entries, e.2.Reads) :
    ∀ es ∈ (takenOver entries).map (· ++ ownEntries entries), es.Read := by
  intro es hes
  obtain ⟨taken, htaken, rfl⟩ := Option.map_eq_some_iff.1 hes
  exact List.forall_mem_append.2 ⟨read_takenOver h taken htaken, read_ownEntries h⟩

theorem reads_scalar (kind : Kind) (s : String) : (Node.scalar kind s).Reads where
  build := .of_result ((failsAs_scalarOf kind s).map _)
  single := nofun
  entriesOf := nofun
  sourceEntries := nofun

theorem reads_sequence (kind : Kind) (h : ∀ n ∈ items, n.Reads) :
    (Node.sequence kind items).Reads where
  build := by
    rw [Node.build.eq_def]
    dsimp only
    split
    · exact ((reads_buildItems h).map _).deeper
    · exact ((reads_buildSingles h).map _).deeper
    · exact .malformed _
  single := nofun
  entriesOf := nofun
  sourceEntries := read_sourceItems h

theorem reads_mapping (kind : Kind) (h : ∀ e ∈ entries, e.1.Reads ∧ e.2.Reads) :
    (Node.mapping kind entries).Reads where
  build := by
    have hvalues : ∀ e ∈ entries, e.2.Reads := fun e he => (h e he).2
    rw [Node.build.eq_def]
    dsimp only
    split
    · split
      · exact .of_result ((failsAs_scalarOf _ _).map _)
      · exact .malformed 0
    · split
      next taken htaken =>
        refine reads_ofEntries kind ?_
        intro es hes
        obtain rfl := Option.mem_some_iff.1 hes
        exact List.forall_mem_append.2
          ⟨read_takenOver hvalues taken htaken, read_ownEntries hvalues⟩
      next => exact reads_ofEntries kind nofun
  single := by
    rintro kind' k v ⟨⟩
    obtain ⟨hk, hv⟩ := h (k, v) (by simp)
    exact ⟨hk.build, hv.build⟩
  entriesOf := read_ownEntries_takenOver fun e he => (h e he).2
  sourceEntries := read_ownEntries_takenOver fun e he => (h e he).2

theorem reads (n : Node) : n.Reads :=
  Node.rec reads_scalar (fun kind _ => reads_sequence kind) (fun kind _ => reads_mapping kind)
    (List.forall_mem_nil _) (fun _ _ hn hns => List.forall_mem_cons.2 ⟨hn, hns⟩)
    (List.forall_mem_nil _) (fun _ _ he hes => List.forall_mem_cons.2 ⟨he, hes⟩)
    (fun _ _ hk hv => And.intro hk hv) n

end Node

theorem failsAs_read (s : String) : FailsAs Unread (read s) := by
  have hrefusal (e : Refusal) : FailsAs Unread (.error e.fault : Except Fault Value) := by
    cases e with
    | malformed => exact .error .malformed
    | code n => exact .error (.inr (.codePoint n))
  unfold read
  split
  · exact hrefusal _
  · split
    · exact hrefusal _
    · exact .ok _
    · exact (Node.reads _).build

end Yaml

/-! ## Files -/

namespace Workspace

/-- Why a file has no text although it can be reached: no file can have its name, or its bytes encode
none. -/
inductive Illegible : Fault → Prop where
  | zeroByte : Illegible .zeroByte
  | undecodable (f : Text.Utf8Fault) : Illegible (.undecodable f)

/-- A path starts at a home directory that is nobody's. -/
def Homeless (e : Fault) : Prop := e = .raised "Could not determine home directory."

/-- A path has a name that is too long to be followed. -/
def Overlong (e : Fault) : Prop := ∃ path, e = .file (.nameTooLong path)

theorem failsAs_textOf (bytes : List UInt8) : FailsAs Illegible (textOf bytes) := by
  unfold textOf
  split
  · exact .ok _
  · exact .error (.undecodable _)

theorem isFile_kind (f : FileFault) : (Fault.file f).kind.isFile = true := by
  cases f <;> rfl

theorem failsAs_readBytes (w : Workspace) (p : Path) :
    FailsAs (fun e => (∃ f, e = .file f) ∨ e = .zeroByte) (w.readBytes p) := by
  unfold readBytes
  split
  · exact .error (.inr rfl)
  · split
    · exact .ok _
    · exact .error (.inl ⟨_, rfl⟩)
    · exact .error (.inl ⟨_, rfl⟩)

/-- A file is read, or it cannot be reached, or it has no text. -/
theorem failsAs_readText (w : Workspace) (p : Path) :
    FailsAs (fun e => e.kind.isFile = true ∨ Illegible e) (w.readText p) := by
  unfold readText
  split
  next e hread =>
    rcases failsAs_readBytes w p e hread with ⟨f, rfl⟩ | rfl
    · exact .error (.inl (isFile_kind f))
    · exact .error (.inr .zeroByte)
  next bytes _ => exact (failsAs_textOf bytes).imp fun _ => Or.inr

theorem failsAs_find? (w : Workspace) (p : Path) : FailsAs Overlong (w.find? p) := by
  unfold find?
  split
  · exact .ok _
  · split
    · exact .ok _
    · exact .error ⟨_, rfl⟩
    · exact .ok _

theorem failsAs_isFile (w : Workspace) (p : Path) : FailsAs Overlong (w.isFile p) :=
  (failsAs_find? w p).map _

theorem failsAs_isDirectory (w : Workspace) (p : Path) : FailsAs Overlong (w.isDirectory p) :=
  (failsAs_find? w p).map _

theorem failsAs_expand (w : Workspace) (p : Path) : FailsAs Homeless (w.expand p) := by
  unfold expand
  split
  · exact .ok _
  · exact .error rfl

end Workspace

/-! ## Texts of one byte a character -/

/-- The bytes of characters that have one byte each. -/
def asciiBytes (cs : List Char) : List UInt8 := cs.map fun c => UInt8.ofNat c.toNat

theorem decodeUtf8Aux_asciiBytes {cs : List Char} (h : ∀ c ∈ cs, c.toNat < 0x80) (position : Nat) :
    Text.decodeUtf8Aux position 0 (asciiBytes cs) = .ok cs := by
  induction cs generalizing position with
  | nil => rfl
  | cons c cs ih =>
    obtain ⟨hc, hcs⟩ := List.forall_mem_cons.1 h
    have hbyte : (UInt8.ofNat c.toNat).toNat = c.toNat :=
      UInt8.toNat_ofNat_of_lt (Nat.lt_trans hc (by decide))
    have hfront : Text.decodeFront (UInt8.ofNat c.toNat) (asciiBytes cs) = .ok (c, 0) := by
      rw [Text.decodeFront, if_pos (UInt8.lt_iff_toNat_lt.2 (by rw [hbyte]; exact hc)), hbyte,
        Char.ofNat_toNat]
    have hbytes : asciiBytes (c :: cs) = UInt8.ofNat c.toNat :: asciiBytes cs := rfl
    rw [hbytes, Text.decodeUtf8Aux, hfront]
    simp only [ih hcs]

/-- Lines that end in line feeds stay as they are. -/
theorem unifyLines_eq {cs : List Char} (h : ∀ c ∈ cs, c ≠ '\r') : Workspace.unifyLines cs = cs := by
  induction cs with
  | nil => rfl
  | cons c cs ih =>
    obtain ⟨hc, hcs⟩ := List.forall_mem_cons.1 h
    rw [Workspace.unifyLines, ih hcs]
    · exact fun rest heq => absurd heq hc
    · exact fun heq => absurd heq hc

/-- A text of characters of one byte each is read as it is written. -/
theorem textOf_asciiBytes {s : String} (h : ∀ c ∈ s.toList, c.toNat < 0x80 ∧ c ≠ '\r') :
    Workspace.textOf (asciiBytes s.toList) = .ok s := by
  rw [Workspace.textOf, Text.decodeUtf8, decodeUtf8Aux_asciiBytes fun c hc => (h c hc).1]
  simp [Except.map, unifyLines_eq fun c hc => (h c hc).2]

/-! ## Documents -/

/-- What is left unsaid of what is wrong with a file of YAML, once the file has been named for all that
keeps it from being a document. -/
def Yaml.Unnamed (e : Fault) : Prop := Workspace.Illegible e ∨ Yaml.Unbuilt e

theorem Yaml.unnamed_of_readText {w : Workspace} {p : Path} {e : Fault}
    (h : (w.readText p).bind Yaml.read = .error e)
    (hunsaid : ¬ (e.kind.isFile || decide (e.kind = .yaml)) = true) : Yaml.Unnamed e := by
  have hread : FailsAs (fun e => e.kind.isFile = true ∨ Workspace.Illegible e ∨ Yaml.Unread e)
      ((w.readText p).bind Yaml.read) :=
    ((w.failsAs_readText p).imp fun _ => Or.imp_right Or.inl).bind fun s =>
      (Yaml.failsAs_read s).imp fun _ => Or.inr ∘ Or.inr
  simp only [Bool.or_eq_true, decide_eq_true_eq, not_or] at hunsaid
  rcases hread e h with hreached | hillegible | rfl | hunbuilt
  · exact absurd hreached hunsaid.1
  · exact .inl hillegible
  · exact absurd rfl hunsaid.2
  · exact .inr hunbuilt

namespace RuleFile

open Workspace (Illegible Homeless)

/-- What is left unsaid of what is wrong with a rule file: that it has no text, and that a scalar of it
is not what it is declared to be, unless the fault counts as one of its value. -/
def Unnamed (e : Fault) : Prop := Illegible e ∨ Yaml.Unbuilt e ∧ e.kind.isValue = false

theorem Unnamed.yaml {e : Fault} (h : Unnamed e) : Yaml.Unnamed e := h.imp_right And.left

theorem failsAs_parse (p : Path) (s : String) :
    FailsAs (fun e => e.kind.isValue = true ∨ Yaml.Unread e) (parse p s) := by
  unfold parse
  split
  · split
    · exact .ok _
    next e _ => cases e <;> exact .error (.inl rfl)
  · exact (Yaml.failsAs_read s).imp fun _ => Or.inr

theorem failsAs_rulesOf (p : Path) (v : Value) :
    FailsAs (fun e => e.kind = .ruleStructure) (rulesOf p v) := by
  unfold rulesOf
  split
  · exact .ok []
  next es =>
    cases read (.map es) with
    | ok rules => exact .ok rules
    | error i => exact .error rfl
  · exact .error rfl

/-- The rules of a file are read, or its fault is one of rules, or it is left unsaid. -/
theorem failsAs_load (w : Workspace) (p : Path) :
    FailsAs (fun e => e.kind = .ruleStructure ∨ Unnamed e) (load w p) := by
  unfold load
  split
  next e hread =>
    split
    · exact .error (.inl rfl)
    next hfile =>
      rcases w.failsAs_readText p e hread with hreached | hillegible
      · exact absurd hreached hfile
      · exact .error (.inr (.inl hillegible))
  next s _ =>
    split
    next e hparse =>
      split
      · exact .error (.inl rfl)
      next hunsaid =>
        simp only [Bool.or_eq_true, decide_eq_true_eq, not_or, Bool.not_eq_true] at hunsaid
        rcases failsAs_parse p s e hparse with hvalue | rfl | hunbuilt
        · rw [hunsaid.1] at hvalue
          cases hvalue
        · exact absurd rfl hunsaid.2
        · exact .error (.inr (.inr ⟨hunbuilt, hunsaid.1⟩))
    next v _ => exact (failsAs_rulesOf p v).imp fun _ => Or.inl

/-- Following a reference leads to rules, or to a fault of rules, or to one that is left unsaid. -/
theorem failsAs_follow (w : Workspace) (directory : Option Path) (ref : String) :
    FailsAs (fun e => e.kind = .ruleStructure ∨ Homeless e ∨ Unnamed e) (follow w directory ref) := by
  unfold follow
  split
  next e hlocate =>
    exact .error (.inr (.inl ((w.failsAs_expand (Path.parse ref)).map _ e hlocate)))
  next p _ => exact (failsAs_load w p).imp fun _ => Or.imp_right Or.inr

theorem Unnamed.ne_missing {names : List String} {place : Whereabouts} :
    ¬ Unnamed (.missingParameters names place) := by
  rintro (⟨⟨⟩⟩ | ⟨⟨⟩, -⟩)

end RuleFile

namespace Action

open Workspace (Overlong)

/-- The definition of a file is read, or its fault is one of actions, or it is left unsaid. -/
theorem Definition.failsAs_load (w : Workspace) (p : Path) :
    FailsAs (fun e => e.kind = .actionResolution ∨ Yaml.Unnamed e) (Definition.load w p) := by
  rw [Definition.load]
  cases hresult : (w.readText p).bind Yaml.read with
  | error e =>
    dsimp only
    split
    · exact .error (.inl rfl)
    next hunsaid => exact .error (.inr (Yaml.unnamed_of_readText hresult hunsaid))
  | ok v =>
    dsimp only
    generalize (if v.isSomething then v else .map []) = found
    cases found with
    | map es =>
      dsimp only
      cases read (.map es) with
      | error i => exact .error (.inl rfl)
      | ok d => exact .ok _
    | scalar | list | set => exact .error (.inl rfl)

/-- The definition of an action is there, or its fault is one of actions, or it is left unsaid. -/
theorem Catalogue.failsAs_definition (c : Catalogue) (w : Workspace) (name : String) :
    FailsAs (fun e => e.kind = .actionResolution ∨ Overlong e ∨ Yaml.Unnamed e)
      (c.definition w name) := by
  have hfile : ∀ paths, FailsAs Overlong (file? w name paths) := by
    intro paths
    induction paths with
    | nil => exact .ok none
    | cons p paths ih =>
      rw [file?]
      split
      next herror => exact .error (w.failsAs_isFile _ _ herror)
      next => exact .ok _
      next => exact ih
  unfold definition
  split
  · exact .ok _
  · split
    next herror => exact .error (.inr (.inl (hfile c.paths _ herror)))
    next => exact .error (.inl rfl)
    next p _ => exact (Definition.failsAs_load w p).imp fun _ => Or.imp_right Or.inr

/-- All actions are listed, or there is a fault that is left unsaid: those of actions become
warnings. -/
theorem Catalogue.failsAs_listing (c : Catalogue) (w : Workspace) :
    FailsAs (fun e => Overlong e ∨ Yaml.Unnamed e) (c.listing w) := by
  have hlistFile (l : Listing) (p : Path) :
      FailsAs (fun e => Overlong e ∨ Yaml.Unnamed e) (listFile w l p) := by
    unfold listFile
    split
    · exact .ok _
    next e hload =>
      split
      · exact .ok _
      next hkind => exact .error (.inr ((Definition.failsAs_load w p e hload).resolve_left hkind))
  refine FailsAs.foldlM (fun l p => ?_) _
  unfold listDirectory
  split
  next herror => exact .error (.inl (w.failsAs_isDirectory p _ herror))
  next => exact .ok l
  next => exact FailsAs.foldlM hlistFile l

/-- The definition of an action is there, or it is not for a reason that reports nothing missing. -/
theorem Catalogue.missesNone_definition (c : Catalogue) (w : Workspace) (name : String) :
    MissesNone (c.definition w name) := by
  refine (c.failsAs_definition w name).missesNone ?_
  rintro names place (⟨⟨⟩⟩ | ⟨_, ⟨⟩⟩ | ⟨⟨⟩⟩ | ⟨⟨⟩⟩)

end Action

end Remediation
