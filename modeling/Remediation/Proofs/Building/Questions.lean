import Remediation.Building
import Remediation.Proofs.Placeholders
/-!
# Questions

What rules need and no fact tells is asked for, once for each name and in order (`complete_eq`).  Where
all questions are answered, the answers are told and all other facts stay as they were.
-/

set_option autoImplicit false

namespace Remediation

/-! ## Facts -/

theorem Scalar.sameKey_iff {a b : Scalar} :
    a.sameKey b = true ↔ ∃ key, a.key? = some key ∧ b.key? = some key := by
  unfold sameKey
  split
  next j k hj hk =>
    rw [beq_iff_eq]
    constructor
    · rintro rfl
      exact ⟨j, hj, hk⟩
    · rintro ⟨key, ha, hb⟩
      rw [Option.some.inj (hj.symm.trans ha), Option.some.inj (hk.symm.trans hb)]
  next hnone =>
    refine iff_of_false Bool.false_ne_true ?_
    rintro ⟨key, ha, hb⟩
    exact hnone key key ha hb

theorem Scalar.sameKey_text {k : Scalar} {key : String} :
    k.sameKey (.text key) = true ↔ k = .text key := by
  have htext : (Scalar.text key).key? = some (.text key) := rfl
  rw [sameKey_iff, htext]
  constructor
  · rintro ⟨_, hk, ⟨⟩⟩
    cases k with
    | text s => exact congrArg Scalar.text (Key.text.inj (Option.some.inj hk))
    | float x =>
      unfold key? at hk
      grind
    | moment m =>
      unfold key? at hk
      grind
    | null | bool | int | bytes => cases hk
  · rintro rfl
    exact ⟨_, htext, rfl⟩

/-- An entry under a text is found there, and hides no others. -/
theorem entryAt?_upsertEntry (entries : List (Scalar × Value)) (key name : String) (v : Value) :
    entryAt? (upsertEntry entries (.text key) v) name =
      if key = name then some v else entryAt? entries name := by
  induction entries with
  | nil => simp [upsertEntry, entryAt?]
  | cons e rest ih =>
    obtain ⟨k, old⟩ := e
    rw [upsertEntry]
    split
    next hkey =>
      obtain rfl := Scalar.sameKey_text.1 hkey
      simp only [entryAt?]
      split <;> rfl
    next hkey =>
      cases k with
      | text other =>
        have hne : other ≠ key := fun heq => hkey (Scalar.sameKey_text.2 (by rw [heq]))
        simp only [entryAt?, ih]
        by_cases hother : other = name
        · have hkey' : key ≠ name := fun heq => hne (hother.trans heq.symm)
          simp [hother, hkey']
        · simp [hother]
      | null | bool | int | float | moment | bytes => exact ih

namespace Gathering

variable {facts : Facts} {names given : List String} {rest : List Answer} {s : Session} {name : String}

/-- The names that no fact has. -/
def unknown (facts : Facts) (names : List String) : List String :=
  names.filter fun name => !knows facts name

/-- Facts with answers to the questions for names. -/
def tell (facts : Facts) (answers : List (String × String)) : Facts :=
  answers.foldl (fun facts (name, s) => upsertEntry facts (.text name) (.text s)) facts

/-- Facts that are not asked for stay as they are. -/
theorem entryAt?_tell_of_notMem {answers : List (String × String)}
    (h : name ∉ answers.map Prod.fst) : entryAt? (tell facts answers) name = entryAt? facts name := by
  induction answers generalizing facts with
  | nil => rfl
  | cons answer answers ih =>
    obtain ⟨hne, hrest⟩ := not_or.1 (List.mem_cons.not.1 h)
    have htell : tell facts (answer :: answers) =
        tell (upsertEntry facts (.text answer.1) (.text answer.2)) answers := rfl
    rw [htell, ih hrest, entryAt?_upsertEntry, if_neg (Ne.symm hne)]

/-- What is answered to the question for a name becomes the fact of that name. -/
theorem entryAt?_tell_of_mem {answers : List (String × String)} {text : String}
    (hnodup : (answers.map Prod.fst).Nodup) (h : (name, text) ∈ answers) :
    entryAt? (tell facts answers) name = some (.text text) := by
  induction answers generalizing facts with
  | nil => cases h
  | cons answer answers ih =>
    obtain ⟨hnew, hrest⟩ := List.nodup_cons.1 hnodup
    have htell : tell facts (answer :: answers) =
        tell (upsertEntry facts (.text answer.1) (.text answer.2)) answers := rfl
    rw [htell]
    rcases List.mem_cons.1 h with rfl | hmem
    · rw [entryAt?_tell_of_notMem hnew, entryAt?_upsertEntry, if_pos rfl]
    · exact ih hrest hmem

/-! ## Asking -/

/-- A session in which the questions for names have been asked, with the answers that are left. -/
def asked (s : Session) (names : List String) (rest : List Answer) : Session :=
  { s with printed := s.printed ++ String.join (names.map question), answers := rest }

theorem knows_eq_true_iff : knows facts name = true ↔ entryAt? facts name ≠ none := by
  rw [knows, Option.isSome_iff_ne_none]

theorem unknown_upsertEntry {v : Value} (h : name ∉ names) :
    unknown (upsertEntry facts (.text name) v) names = unknown facts names := by
  refine List.filter_congr ?_
  intro other hother
  have hne : name ≠ other := fun heq => h (heq ▸ hother)
  rw [knows, knows, entryAt?_upsertEntry, if_neg hne]

theorem asked_asked (s : Session) (names more : List String) (left rest : List Answer) :
    asked (asked s names left) more rest = asked s (names ++ more) rest := by
  simp [asked, String.append_assoc]

theorem asked_nil (s : Session) : asked s [] s.answers = s := by
  simp [asked]

theorem complete_cons_of_unknown {text : String} (h : knows facts name = false)
    (hanswers : s.answers = .given text :: rest) :
    (complete facts (name :: names)).run s =
      (complete (upsertEntry facts (.text name) (.text text)) names).run (asked s [name] rest) := by
  have hask : s.ask (question name) = (.given text, asked s [name] rest) := by
    simp [Session.ask, Session.print, asked, hanswers]
  have hrun : (modifyGet (·.ask (question name)) : StateM Session Answer).run s =
      (.given text, asked s [name] rest) := hask
  rw [complete, if_neg (by simp [h]), StateT.run_bind, hrun]
  rfl

/-- Where answers are given to all questions, those for unknown names are asked, in order, and told. -/
theorem complete_eq (hnodup : names.Nodup) (hanswers : s.answers = given.map .given ++ rest)
    (hlength : given.length = (unknown facts names).length) :
    (complete facts names).run s =
      ((tell facts ((unknown facts names).zip given), .ok ()), asked s (unknown facts names) rest) := by
  induction names generalizing facts given s with
  | nil =>
    obtain rfl := List.eq_nil_of_length_eq_zero hlength
    obtain rfl : s.answers = rest := hanswers
    exact congrArg (Prod.mk _) (asked_nil s).symm
  | cons name names ih =>
    obtain ⟨hnew, hrest⟩ := List.nodup_cons.1 hnodup
    cases hknows : knows facts name with
    | true =>
      have hunknown : unknown facts (name :: names) = unknown facts names := by
        simp [unknown, hknows]
      rw [hunknown] at hlength ⊢
      rw [complete, if_pos hknows]
      exact ih hrest hanswers hlength
    | false =>
      have hunknown : unknown facts (name :: names) = name :: unknown facts names := by
        simp [unknown, hknows]
      rw [hunknown, List.length_cons] at hlength
      obtain ⟨text, given, rfl⟩ := List.exists_cons_of_length_eq_add_one hlength
      have hsame : unknown (upsertEntry facts (.text name) (.text text)) names =
          unknown facts names := unknown_upsertEntry hnew
      rw [complete_cons_of_unknown hknows hanswers, ih hrest rfl, hsame, asked_asked, hunknown]
      · rfl
      · rw [hsame]
        exact Nat.succ.inj hlength

/-! ## Where everything is answered -/

theorem map_fst_answers (hlength : given.length = (unknown facts names).length) :
    ((unknown facts names).zip given).map Prod.fst = unknown facts names :=
  List.map_fst_zip (Nat.le_of_eq hlength.symm)

theorem entryAt?_answered (hnodup : names.Nodup)
    (hlength : given.length = (unknown facts names).length) {answer : String × String}
    (h : answer ∈ (unknown facts names).zip given) :
    entryAt? (tell facts ((unknown facts names).zip given)) answer.1 = some (.text answer.2) := by
  refine entryAt?_tell_of_mem ?_ h
  rw [map_fst_answers hlength]
  exact hnodup.filter _

theorem entryAt?_unasked (hlength : given.length = (unknown facts names).length)
    (h : name ∉ unknown facts names) :
    entryAt? (tell facts ((unknown facts names).zip given)) name = entryAt? facts name := by
  refine entryAt?_tell_of_notMem ?_
  rwa [map_fst_answers hlength]

/-- All names are known when the questions for them have been answered. -/
theorem knows_tell (hnodup : names.Nodup)
    (hlength : given.length = (unknown facts names).length) (h : name ∈ names) :
    knows (tell facts ((unknown facts names).zip given)) name = true := by
  rw [knows_eq_true_iff]
  by_cases hasked : name ∈ unknown facts names
  · rw [← map_fst_answers hlength] at hasked
    obtain ⟨answer, hanswer, rfl⟩ := List.mem_map.1 hasked
    rw [entryAt?_answered hnodup hlength hanswer]
    exact Option.some_ne_none _
  · rw [entryAt?_unasked hlength hasked]
    by_contra hnone
    exact hasked (List.mem_filter.2 ⟨h, by simp [knows, hnone]⟩)

end Gathering

end Remediation
