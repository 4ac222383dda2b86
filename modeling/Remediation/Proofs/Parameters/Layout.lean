import Remediation.Proofs.Parameters.Substitution
/-!
# Templates as they are laid out

A layout is what a template is meant to be: literal texts with placeholders between them.  A literal may
hold any braces but the ones that open a placeholder.  Its template is cut into just these pieces
(`parse_template`), so that filling it puts the values between the literals and looks at no value again
(`substitute_template`).
-/

set_option autoImplicit false

namespace Remediation

namespace Template

variable {spelling rest literal : List Char} {facts : Facts} {value : String → String}

/-! ## Pieces from the left -/

/-- A placeholder as it is written is read, whatever stands behind it. -/
theorem readPlaceholder?_write (hsome : spelling ≠ []) (hopen : '\x7d' ∉ spelling)
    (rest : List Char) :
    readPlaceholder? (opening ++ spelling ++ closing ++ rest) = some (spelling, rest) := by
  have hname : ∀ c ∈ spelling, decide (c ≠ '\x7d') = true := fun c hc =>
    decide_eq_true fun heq => hopen (heq ▸ hc)
  have htake : (spelling ++ '\x7d' :: '\x7d' :: rest).takeWhile (· ≠ '\x7d') = spelling := by
    rw [List.takeWhile_append_of_pos hname]
    simp
  have hdrop : (spelling ++ '\x7d' :: '\x7d' :: rest).dropWhile (· ≠ '\x7d') =
      '\x7d' :: '\x7d' :: rest := by
    rw [List.dropWhile_append_of_pos hname]
    simp
  have hlead : Text.dropLead? opening (opening ++ spelling ++ closing ++ rest) =
      some (spelling ++ '\x7d' :: '\x7d' :: rest) := by
    simp [opening, closing, Text.dropLead?]
  obtain ⟨c, more, rfl⟩ := List.exists_cons_of_ne_nil hsome
  simp only [readPlaceholder?, hlead, htake, hdrop]

/-- No placeholder starts within a literal, neither where nothing follows it nor where a placeholder
does. -/
theorem readPlaceholder?_literal {c : Char} (hplain : ¬ opening <:+: c :: literal)
    (hrest : rest = [] ∨ opening <+: rest) : readPlaceholder? (c :: literal ++ rest) = none := by
  have hlead : Text.dropLead? opening (c :: literal ++ rest) = none := by
    refine Option.eq_none_iff_forall_ne_some.2 fun body hbody => ?_
    have heq := Text.eq_append_of_dropLead? hbody
    -- The opening would end within the literal, or reach into what follows by one brace or two.
    match literal, hplain, heq with
    | [], _, heq | [_], _, heq =>
      rcases hrest with rfl | ⟨behind, rfl⟩ <;> simp [opening] at heq
    | d :: e :: more, hplain, heq =>
      refine hplain (List.IsPrefix.isInfix ⟨more, ?_⟩)
      simp only [opening, List.cons_append, List.cons.injEq] at heq ⊢
      exact ⟨heq.1.symm, heq.2.1.symm, heq.2.2.1.symm, rfl⟩
  rw [readPlaceholder?, hlead]

theorem parse_write (hsome : spelling ≠ []) (hopen : '\x7d' ∉ spelling) (rest : List Char) :
    parse (opening ++ spelling ++ closing ++ rest) = .placeholder spelling :: parse rest := by
  have hread := readPlaceholder?_write hsome hopen rest
  rw [show opening ++ spelling ++ closing ++ rest =
    '\x7b' :: ('\x7b' :: '.' :: spelling ++ closing ++ rest) by simp [opening]] at hread ⊢
  rw [parse]
  split
  next h =>
    obtain ⟨rfl, rfl⟩ := Prod.mk.inj (Option.some.inj (hread.symm.trans h))
    rfl
  next h => cases hread.symm.trans h

theorem parse_literal (hplain : ¬ opening <:+: literal) (hrest : rest = [] ∨ opening <+: rest) :
    parse (literal ++ rest) = literal.map .char ++ parse rest := by
  induction literal with
  | nil => rfl
  | cons c literal ih =>
    have hread := readPlaceholder?_literal hplain hrest
    rw [List.cons_append] at hread ⊢
    rw [parse]
    split
    next h => cases hread.symm.trans h
    next => rw [ih fun h => hplain (List.infix_cons h)]; rfl

/-! ## Layouts -/

/-- A literal and the placeholder behind it. -/
structure Part where
  literal : List Char
  spelling : List Char
  /-- The literal opens no placeholder. -/
  plain : ¬ opening <:+: literal
  /-- The name is spelled with some characters. -/
  spelled : spelling ≠ []
  /-- The name does not close the placeholder. -/
  unclosed : '\x7d' ∉ spelling

/-- Literals with placeholders between them. -/
structure Layout where
  parts : List Part
  /-- The literal behind the last placeholder. -/
  last : List Char
  plain : ¬ opening <:+: last

namespace Layout

/-- The literals, with something that stands for each placeholder between them. -/
def splice (stand : List Char → List Char) (l : Layout) : List Char :=
  l.parts.flatMap (fun p => p.literal ++ stand p.spelling) ++ l.last

/-- The template that is laid out. -/
def template (l : Layout) : String :=
  String.ofList (l.splice fun spelling => opening ++ spelling ++ closing)

/-- The literals with the values between them. -/
def filled (value : String → String) (l : Layout) : String :=
  String.ofList (l.splice fun spelling => (value (nameOf spelling)).toList)

/-- The names of the placeholders. -/
def names (l : Layout) : List String := l.parts.map fun p => nameOf p.spelling

/-- The facts know each name as the text that is its value. -/
def Known (facts : Facts) (value : String → String) (l : Layout) : Prop :=
  ∀ name ∈ l.names, entryAt? facts name = some (.text (value name))

/-- The pieces that are laid out. -/
def pieces (l : Layout) : List Piece :=
  l.parts.flatMap (fun p => p.literal.map .char ++ [.placeholder p.spelling]) ++
    l.last.map .char

/-- A template is cut into the pieces that are laid out. -/
theorem parse_template (l : Layout) : parse l.template.toList = l.pieces := by
  obtain ⟨parts, last, hlast⟩ := l
  rw [template, String.toList_ofList, splice, pieces]
  induction parts with
  | nil =>
    have hparse := parse_literal hlast (Or.inl rfl)
    rw [List.append_nil, parse, List.append_nil] at hparse
    exact hparse
  | cons p parts ih =>
    have hopening : opening <+: opening ++ p.spelling ++ closing ++
        (parts.flatMap (fun q => q.literal ++ (opening ++ q.spelling ++ closing)) ++ last) := by
      simp only [List.append_assoc, List.prefix_append]
    have hparse := parse_literal p.plain (Or.inr hopening)
    rw [parse_write p.spelled p.unclosed, ih] at hparse
    simpa only [List.flatMap_cons, List.append_assoc, List.cons_append, List.nil_append] using hparse

theorem filterMap_name?_chars (cs : List Char) :
    (cs.map Piece.char).filterMap Piece.name? = [] := by
  simp [List.filterMap_map, Function.comp_def, Piece.name?]

/-- The pieces have the names of the placeholders. -/
theorem filterMap_name?_pieces (l : Layout) : l.pieces.filterMap Piece.name? = l.names := by
  obtain ⟨parts, last, hlast⟩ := l
  rw [pieces, names, List.filterMap_append, filterMap_name?_chars, List.append_nil]
  induction parts with
  | nil => rfl
  | cons p parts ih =>
    rw [List.flatMap_cons, List.filterMap_append, List.filterMap_append, filterMap_name?_chars, ih]
    rfl

/-- What stands for a piece whose name has a value. -/
def stand (value : String → String) : Piece → List Char
  | .char c => [c]
  | .placeholder spelling => (value (nameOf spelling)).toList

theorem flatMap_stand_pieces (l : Layout) : l.pieces.flatMap (stand value) =
    l.splice fun spelling => (value (nameOf spelling)).toList := by
  have hchars (cs : List Char) : (cs.map Piece.char).flatMap (stand value) = cs := by
    simp [List.flatMap_map, stand]
  obtain ⟨parts, last, hlast⟩ := l
  rw [pieces, splice, List.flatMap_append, hchars]
  congr 1
  induction parts with
  | nil => rfl
  | cons p parts ih =>
    rw [List.flatMap_cons, List.flatMap_append, List.flatMap_append, hchars, ih]
    simp only [List.flatMap_cons, List.flatMap_nil, List.append_nil, stand]

/-- A template whose names are known as texts is filled with the values, each in its place and as it
is. -/
theorem substitute_template {l : Layout} (h : l.Known facts value) :
    substitute l.template facts = .ok (l.filled value) := by
  have hpieces : ∀ p ∈ l.pieces, p.fill facts = .ok (stand value p) := by
    intro p hp
    cases p with
    | char c => rfl
    | placeholder spelling =>
      have hname : nameOf spelling ∈ l.names :=
        filterMap_name?_pieces l ▸ List.mem_filterMap.2 ⟨_, hp, rfl⟩
      rw [Piece.fill, h _ hname]
      rfl
  have hfill : fill facts (parse l.template.toList) =
      .ok (l.splice fun spelling => (value (nameOf spelling)).toList) := by
    rw [parse_template, fill_eq_flatMap hpieces, flatMap_stand_pieces]
  have hknown : missing facts (parse l.template.toList) = [] := by
    rw [missing_eq_nil_iff, parse_template, filterMap_name?_pieces]
    intro name hname
    rw [h name hname]
    rfl
  exact substitute_of_fill hfill hknown

end Layout

end Template

end Remediation
