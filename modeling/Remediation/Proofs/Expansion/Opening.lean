import Remediation.Proofs.Expansion.Transfer
/-!
# Openings

An opening is a place for one more rule, in the root rule file or in a file of the library, between
two rules or among the steps of one at any depth (`Opening`).  One more rule in a file is one more rule
wherever the file is included, and there it stands in the scope that the opening lies in
(`Opening.Lies`).

Scopes in the same place, one without and one with the new rule, hold the same rules, or rules around
a spot in which the new rule is (`Opening.Grown`), and so do the scopes below them
(`Opening.Fits.exists_below`).
-/

set_option autoImplicit false

namespace Remediation.Expansion

variable {w : Setting} {sc c top : Scope} {r x : Rule} {rules others : List Rule}

/-! ## Spots -/

/-- A rule with other steps. -/
def stepping (r : Rule) (steps : List Rule) : Rule := { r with steps := steps }

theorem isComposite_stepping (r : Rule) {steps : List Rule} (h : steps ≠ []) :
    (stepping r steps).isComposite = true := by
  simp [Rule.isComposite, stepping, h]

/-- A spot among rules: between two of them, or among the steps of one of them. -/
inductive Spot where
  | here (front behind : List Rule)
  | inside (front : List Rule) (r : Rule) (spot : Spot) (behind : List Rule)

namespace Spot

/-- The rules around a spot. -/
def around : Spot → List Rule
  | here front behind => front ++ behind
  | inside front r spot behind => front ++ stepping r spot.around :: behind

/-- The rules around a spot and one more rule in it. -/
def filled (x : Rule) : Spot → List Rule
  | here front behind => front ++ x :: behind
  | inside front r spot behind => front ++ stepping r (spot.filled x) :: behind

/-- The rules among whose steps the spot is have steps. -/
def Sound : Spot → Prop
  | here _ _ => True
  | inside _ r spot _ => r.reference = "" ∧ spot.around ≠ [] ∧ spot.Sound

theorem filled_ne_nil (spot : Spot) (x : Rule) : spot.filled x ≠ [] := by
  cases spot <;> simp [filled]

end Spot

theorem Scope.Within.trans {inner : Scope} (h : Scope.Within w sc c)
    (hinner : Scope.Within w c inner) : Scope.Within w sc inner := by
  induction h with
  | self => exact hinner
  | down hr hbelow _ ih => exact .down hr hbelow (ih hinner)

/-! ## Files of the library -/

namespace Setting

variable {rule ref other : String} {found : List Rule}

/-- A setting whose library has other rules for a reference. -/
def writing (w : Setting) (ref : String) (rules : List Rule) : Setting :=
  { w with library := w.library.map fun lib => setField lib ref (.ok rules) }

theorem load_eq_ok_iff : w.load rule ref = .ok found ↔
    ∃ lib, w.library = some lib ∧ lookupField lib ref = some (.ok found) := by
  unfold load
  cases w.library with
  | none => simp
  | some lib => cases hlookup : lookupField lib ref <;> simp [hlookup]

theorem load_writing_self (h : w.load rule ref = .ok found) (rule' : String) :
    (w.writing ref rules).load rule' ref = .ok rules := by
  obtain ⟨lib, hlibrary, -⟩ := load_eq_ok_iff.1 h
  refine load_eq_ok_iff.2 ⟨setField lib ref (.ok rules), ?_, lookupField_setField_self _ _ _⟩
  rw [writing, hlibrary, Option.map_some]

theorem load_writing_of_ne (hne : ref ≠ other) (h : w.load rule other = .ok found) :
    (w.writing ref rules).load rule other = .ok found := by
  obtain ⟨lib, hlibrary, hlookup⟩ := load_eq_ok_iff.1 h
  refine load_eq_ok_iff.2 ⟨setField lib ref (.ok rules), ?_, ?_⟩
  · rw [writing, hlibrary, Option.map_some]
  · rw [lookupField_setField_ne _ _ hne, hlookup]

end Setting

/-! ## Openings -/

/-- A spot in the root rule file, or in a file of the library. -/
structure Opening where
  /-- The reference of the file, unless it is the root rule file. -/
  file : Option String
  spot : Spot

namespace Opening

/-- The rules of the root rule file with a rule in the opening. -/
def ruleFile (o : Opening) (root : List Rule) (x : Rule) : List Rule :=
  match o.file with
  | none => o.spot.filled x
  | some _ => root

/-- The setting with a rule in the opening. -/
def setting (o : Opening) (w : Setting) (x : Rule) : Setting :=
  match o.file with
  | none => w
  | some ref => w.writing ref (o.spot.filled x)

/-- The opening is one of the root rules, or of the library. -/
structure Fits (o : Opening) (w : Setting) (root : List Rule) : Prop where
  sound : o.spot.Sound
  root : o.file = none → root = o.spot.around
  loaded : ∀ ref, o.file = some ref → w.load "" ref = .ok o.spot.around

/-- The opening lies in scopes of its file, and among the steps that its spot is among.  What is left
of the spot is where it lies in the scope. -/
inductive Lies (o : Opening) (w : Setting) (top : Scope) (x : Rule) : Scope → Spot → Prop where
  | file {sc : Scope} : Scope.Within w top sc → sc.sequential = false →
      sc.history.getLast? = o.file → Lies o w top x sc o.spot
  | inside {sc : Scope} {front behind : List Rule} {r : Rule} {spot : Spot} :
      Lies o w top x sc (.inside front r spot behind) →
      Lies o w top x ⟨sc.history, ⟨sc.pathId r, sc.frame.overrides⟩, true, spot.filled x⟩ spot

/-- The rules that a scope has when there is a rule in the opening: the same as without it, or those
around a spot that the opening lies in, and that rule. -/
inductive Grown (o : Opening) (w : Setting) (top : Scope) (x : Rule) (sc : Scope) :
    List Rule → Prop where
  | same : Grown o w top x sc sc.rules
  | spot {spot : Spot} : spot.Sound → sc.rules = spot.around →
      o.Lies w top x (sc.holding (spot.filled x)) spot → Grown o w top x sc (spot.filled x)

variable {o : Opening}

theorem facts_setting : (o.setting w x).facts = w.facts := by
  unfold setting
  split <;> rfl

theorem definition_setting : (o.setting w x).definition = w.definition := by
  unfold setting
  split <;> rfl

theorem Fits.grown_root {w' : Setting} (h : o.Fits w rules) :
    o.Grown w' (.root (o.ruleFile rules x)) x (.root rules) (o.ruleFile rules x) := by
  have hcases : o.file = none ∧ o.ruleFile rules x = o.spot.filled x ∨
      o.ruleFile rules x = rules := by
    cases hfile : o.file <;> simp [ruleFile, hfile]
  rcases hcases with ⟨hfile, hfilled⟩ | hsame
  · rw [hfilled]
    exact .spot h.sound (h.root hfile) (.file .self rfl hfile.symm)
  · rw [hsame]
    exact .same

/-- A file is loaded with the rule in the opening if the opening is in it, and as it was otherwise. -/
theorem Fits.load_cases {rule ref : String} {found : List Rule} (h : o.Fits w rules)
    (hload : w.load rule ref = .ok found) :
    o.file = some ref ∧ found = o.spot.around ∧
        (o.setting w x).load rule ref = .ok (o.spot.filled x) ∨
      (o.setting w x).load rule ref = .ok found := by
  cases hfile : o.file with
  | none =>
    right
    rwa [setting, hfile]
  | some file =>
    rw [setting, hfile]
    by_cases hsame : file = ref
    · subst hsame
      obtain ⟨lib, hlibrary, hlookup⟩ := Setting.load_eq_ok_iff.1 hload
      obtain ⟨lib', hlibrary', hlookup'⟩ := Setting.load_eq_ok_iff.1 (h.loaded file hfile)
      obtain rfl := Option.some.inj (hlibrary.symm.trans hlibrary')
      obtain rfl := Except.ok.inj (Option.some.inj (hlookup.symm.trans hlookup'))
      exact Or.inl ⟨rfl, rfl, Setting.load_writing_self hload rule⟩
    · exact Or.inr (Setting.load_writing_of_ne hsame hload)

/-- Below a rule that stands in a scope with and without the rule in the opening, stand scopes in the
same place, with and without that rule. -/
theorem Fits.exists_below (h : o.Fits w rules) (hr : r ∈ others)
    (hwithin : Scope.Within (o.setting w x) top (sc.holding others))
    (hbelow : sc.below? w r = some c) :
    ∃ found, (sc.holding others).below? (o.setting w x) r = some (c.holding found) ∧
      o.Grown (o.setting w x) top x c found := by
  have hstale (hfresh : r.reference ∉ sc.history) : r.reference ∉ (sc.holding others).history :=
    hfresh
  rcases Scope.below?_cases hbelow with ⟨found, hreference, hfresh, hload, rfl⟩ |
      ⟨hreference, hsteps, rfl⟩
  · rcases h.load_cases (x := x) hload with ⟨hfile, rfl, hthere⟩ | hthere
    · have hbelow' := Scope.below?_of_load hreference (hstale hfresh) hthere
      have hinside := hwithin.trans (.down hr hbelow' .self)
      refine ⟨o.spot.filled x, hbelow', .spot h.sound rfl (.file hinside rfl ?_)⟩
      rw [hfile]
      exact List.getLast?_concat
    · exact ⟨found, Scope.below?_of_load hreference (hstale hfresh) hthere, .same⟩
  · exact ⟨r.steps, Scope.below?_of_steps hreference hsteps, .same⟩

end Opening

end Remediation.Expansion
