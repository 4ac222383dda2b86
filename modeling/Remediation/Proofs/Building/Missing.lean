import Mathlib
import Remediation.Proofs.Building.Failure
import Remediation.Proofs.Building.Questions
import Remediation.Proofs.Expansion.Demand
import Remediation.Proofs.Building.Documents
/-!
# What stays missing

A plan is built from what a rule file needs and somebody has told.  What the files need that references
lead to is not asked for, so it may be missing, but nothing else is
(`build_asks_and_misses_included`).
-/

set_option autoImplicit false

namespace Remediation.Building

open Expansion (Follows Scope bareRule)
open Gathering (knows unknown tell asked gather)
open Work (run_bind_of_ok run_lift_of_eq)

variable {w : Workspace} {c : Action.Catalogue} {path : String} {report facts : Facts}
  {o : BuildOptions} {rules : List Rule} {s later : Session} {given : List String}
  {rest : List Answer} {names : List String} {place : Whereabouts} {directory : Path}

/-! ## Asking -/

/-- The facts for rules that somebody is asked about. -/
theorem factsFor_run (hsilent : o.silent = false)
    (hgather : (gather report o).run.run s = (.ok facts, later))
    (hanswers : later.answers = given.map .given ++ rest)
    (hlength : given.length = (unknown facts (RuleFile.required rules)).length) :
    (factsFor rules report o).run.run s =
      (.ok (tell facts ((unknown facts (RuleFile.required rules)).zip given)),
        asked later (unknown facts (RuleFile.required rules)) rest) := by
  have hcomplete := run_lift_of_eq
    (Gathering.complete_eq (RuleFile.nodup_required rules) hanswers hlength)
  rw [factsFor, run_bind_of_ok _ hgather, hsilent]
  exact run_bind_of_ok _ hcomplete

/-- A plan is compiled from rules and from the facts for them. -/
theorem build_run (hrules : rulesIn s.workspace path = .ok rules)
    (hfacts : (factsFor rules report o).run.run s = (.ok facts, later)) :
    (build (some c) path report o).run.run s =
      (compile (setting s.workspace c (ruleDirectory path o) rules facts) rules, later) := by
  have hworkspace : Work.workspace.run.run s = (.ok s.workspace, s) := rfl
  have hloaded : (liftM (rulesIn s.workspace path) : Work (List Rule)).run.run s = (.ok rules, s) := by
    rw [hrules]
    rfl
  rw [build, run_bind_of_ok _ hworkspace, run_bind_of_ok _ hloaded, run_bind_of_ok _ hfacts]
  cases compile (setting s.workspace c (ruleDirectory path o) rules facts) rules <;> rfl

/-! ## What is missing -/

/-- References of rules are followed among the files. -/
theorem load_of_mem {ref : String} (rule : String) (h : ref ∈ Rule.referencesOf rules) :
    (setting w c directory rules facts).load rule ref = RuleFile.follow w (some directory) ref := by
  have hmem : ref ∈ (Rule.referencesOf rules ++ RuleFile.allReferences w).foldl appendNew [] :=
    mem_foldl_appendNew.2 (Or.inr (List.mem_append_left _ h))
  have hlookup := lookupField_map_of_mem (RuleFile.follow w (some directory)) hmem
  unfold Expansion.Setting.load
  simp only [setting, RuleFile.library, hlookup]

/-- Following a reference reports nothing missing. -/
theorem missesNone_load (rule ref : String) :
    MissesNone ((setting w c directory rules facts).load rule ref) := by
  refine (failsAs_load rule ref).missesNone ?_
  rintro names place (⟨⟨⟩⟩ | ⟨⟨⟩⟩ | hunnamed)
  exact RuleFile.Unnamed.ne_missing hunnamed

theorem missesNone_sorted (steps : List Step) : MissesNone (Schedule.sort steps).sorted := by
  refine (failsAs_sorted steps).missesNone ?_
  rintro names place ⟨⟩

theorem missesNone_factText (facts : Facts) (name absent : String) :
    MissesNone (factText facts name absent) :=
  (failsAs_factText facts name absent).missesNone nofun

/-- Names that are missing when a plan is compiled are missing when its rules are expanded. -/
theorem run_of_compile {setting : Expansion.Setting}
    (h : compile setting rules = .error (.missingParameters names place)) :
    Expansion.run setting rules = .error (.missingParameters names place) := by
  cases hrun : Expansion.run setting rules with
  | error e =>
    unfold compile at h
    rw [hrun] at h
    exact congrArg Except.error (Except.error.inj h)
  | ok steps =>
    unfold compile at h
    rw [hrun] at h
    have hrest := (missesNone_sorted steps).bind fun sorted =>
      (missesNone_factText setting.facts "project_name" Plan.unknownProject).bind fun project =>
        (missesNone_factText setting.facts "project_repo" Plan.unknownRepository).bind
          fun repository => .ok (Plan.mk project repository sorted)
    exact absurd h (hrest names place)

/-! ## Where everything is answered -/

/-- Where a rule file can be read, facts have been gathered, and there are answers to all questions,
those are asked that the rules need and no fact answers, in order and once each; and the plan is
compiled from the facts and the answers.  A name that is missing then is none of the rule file: it is
known to no fact, and a file needs it that references lead to from there. -/
theorem build_asks_and_misses_included (hsilent : o.silent = false)
    (hrules : rulesIn s.workspace path = .ok rules)
    (hgather : (gather report o).run.run s = (.ok facts, later))
    (hanswers : later.answers = given.map .given ++ rest)
    (hlength : given.length = (unknown facts (RuleFile.required rules)).length) :
    let questions := unknown facts (RuleFile.required rules)
    let told := tell facts (questions.zip given)
    let expanded := setting s.workspace c (ruleDirectory path o) rules told
    (build (some c) path report o).run.run s = (compile expanded rules, asked later questions rest) ∧
      (∀ name ∈ RuleFile.required rules, knows told name = true) ∧
      (∀ name ∉ questions, entryAt? told name = entryAt? facts name) ∧
      (∀ answer ∈ questions.zip given, entryAt? told answer.1 = some (.text answer.2)) ∧
      ∀ names place, compile expanded rules = .error (.missingParameters names place) →
        names ≠ [] ∧ ∀ name ∈ names, knows told name = false ∧ name ∉ RuleFile.required rules ∧
          ∃ history file, history ≠ [] ∧ Follows expanded rules history file ∧
            name ∈ RuleFile.required file := by
  intro questions told expanded
  have hnodup := RuleFile.nodup_required rules
  have hknown : ∀ name ∈ RuleFile.required rules, knows told name = true :=
    fun name hname => Gathering.knows_tell hnodup hlength hname
  refine ⟨build_run hrules (factsFor_run hsilent hgather hanswers hlength), hknown, ?_, ?_, ?_⟩
  · exact fun name hname => Gathering.entryAt?_unasked hlength hname
  · exact fun answer hanswer => Gathering.entryAt?_answered hnodup hlength hanswer
  · intro names place hcompile
    obtain ⟨hsome, hdemanded⟩ := Expansion.demanded_of_run
      (c.missesNone_definition s.workspace) missesNone_load (run_of_compile hcompile)
    refine ⟨hsome, fun name hname => ?_⟩
    obtain ⟨hnone, history, file, hfollows, hrequired⟩ := hdemanded name hname
    have hunknown : knows told name = false := by
      rw [← Bool.not_eq_true, Gathering.knows_eq_true_iff, not_not]
      exact hnone
    have hnot : name ∉ RuleFile.required rules := by
      intro hmem
      rw [hknown name hmem] at hunknown
      cases hunknown
    refine ⟨hunknown, hnot, history, file, ?_, hfollows, hrequired⟩
    rintro rfl
    generalize hnil : ([] : List String) = history at hfollows
    cases hfollows with
    | root => exact hnot hrequired
    | step => simp at hnil

/-! ## A file that asks for more -/

theorem load_of_json {w : Workspace} {p : Path} {bytes : List UInt8} {s : String} {j : Json}
    {rules : List Rule} (hbytes : w.readBytes p = .ok bytes) (htext : Workspace.textOf bytes = .ok s)
    (hsuffix : p.suffix = ".json") (hjson : Json.read Json.lenient s = .ok j)
    (hrules : RuleFile.rulesOf p j.toValue = .ok rules) : RuleFile.load w p = .ok rules := by
  have hending : p.suffix.map Char.toLower = ".json" := by
    rw [hsuffix]
    cbv
  rw [RuleFile.load, Workspace.readText, hbytes]
  simp only [htext, RuleFile.parse, if_pos hending, hjson, hrules]

/-- A team, with a file of its own. -/
def teamText : String :=
  "\x7b\"mappings\":[\x7b\"id\":\"team\",\"ruleRef\":\"team.json\"," ++
    "\"parameters\":\x7b\"to\":\"\x7b\x7b.owner\x7d\x7d\"\x7d\x7d]\x7d"

/-- What is granted to a team. -/
def grantText : String :=
  "\x7b\"mappings\":[\x7b\"id\":\"grant\",\"action\":\"grant\"," ++
    "\"parameters\":\x7b\"as\":\"\x7b\x7b.role\x7d\x7d\"\x7d\x7d]\x7d"

/-- The rule of a team, which is granted something as its file says. -/
def teamRules : List Rule :=
  [{ bareRule "team" "" with
      reference := "team.json", parameters := [("to", .text "\x7b\x7b.owner\x7d\x7d")] }]

/-- The rule of that file. -/
def grantRules : List Rule :=
  [{ bareRule "grant" "grant" with parameters := [("as", .text "\x7b\x7b.role\x7d\x7d")] }]

/-- A workspace of the file of a team and of what is granted to it. -/
def teamFiles (team grant : List UInt8) : Workspace where
  tree := .directory [("main.json", .file team), ("team.json", .file grant)]
  current := ⟨"/", []⟩
  home := ⟨"/", []⟩

/-- The files of a team. -/
def teamWorkspace : Workspace := teamFiles (asciiBytes teamText.toList) (asciiBytes grantText.toList)

theorem load_main : RuleFile.load teamWorkspace ⟨"", ["main.json"]⟩ = .ok teamRules := by
  have hbytes (team grant : List UInt8) :
      (teamFiles team grant).readBytes ⟨"", ["main.json"]⟩ = .ok team := rfl
  have htext : Workspace.textOf (asciiBytes teamText.toList) = .ok teamText :=
    textOf_asciiBytes (List.all_iff_forall_prop.1 (by cbv))
  have hjson : Json.read Json.lenient teamText = .ok (.map [("mappings", .list [.map
      [("id", .text "team"), ("ruleRef", .text "team.json"),
       ("parameters", .map [("to", .text "\x7b\x7b.owner\x7d\x7d")])]])]) := by cbv
  exact load_of_json (hbytes _ _) htext (by decide) hjson (by cbv)

theorem load_team : RuleFile.load teamWorkspace ⟨"", ["team.json"]⟩ = .ok grantRules := by
  have hbytes (team grant : List UInt8) :
      (teamFiles team grant).readBytes ⟨"", ["team.json"]⟩ = .ok grant := rfl
  have htext : Workspace.textOf (asciiBytes grantText.toList) = .ok grantText :=
    textOf_asciiBytes (List.all_iff_forall_prop.1 (by cbv))
  have hjson : Json.read Json.lenient grantText = .ok (.map [("mappings", .list [.map
      [("id", .text "grant"), ("action", .text "grant"),
       ("parameters", .map [("as", .text "\x7b\x7b.role\x7d\x7d")])]])]) := by cbv
  exact load_of_json (hbytes _ _) htext (by decide) hjson (by cbv)

/-- Granting, as it is known. -/
def grantCatalogue : Action.Catalogue :=
  ⟨[], [("grant", ⟨"grant", "", "", [], "", [], [], [], none⟩)]⟩

/-- Facts come from what is given alone, and from somebody who is asked. -/
def askingOptions : BuildOptions :=
  { BuildOptions.default with skipDefaults := true, skipRepository := true }

/-- Somebody has one answer. -/
def teamSession : Session :=
  { Session.start teamWorkspace grantCatalogue with answers := [.given "acme"] }

/-- What the rules of a team are expanded against when the answer has been told. -/
def teamSetting : Expansion.Setting :=
  setting teamWorkspace grantCatalogue ⟨"", []⟩ teamRules [(.text "owner", .text "acme")]

theorem rulesIn_main : rulesIn teamWorkspace "main.json" = .ok teamRules := by
  have hpath : Path.parse "main.json" = ⟨"", ["main.json"]⟩ := by cbv
  rw [rulesIn, hpath, load_main]
  rfl

theorem required_teamRules : RuleFile.required teamRules = ["owner"] := by cbv

theorem unknown_teamRules : unknown [] (RuleFile.required teamRules) = ["owner"] := by
  rw [required_teamRules]
  rfl

theorem length_teamAnswers :
    ["acme"].length = (unknown [] (RuleFile.required teamRules)).length := by
  rw [unknown_teamRules]
  rfl

theorem load_teamSetting : teamSetting.load "team" "team.json" = .ok grantRules := by
  have hpath : Path.parse "team.json" = ⟨"", ["team.json"]⟩ := by cbv
  have hlocate : RuleFile.locate teamWorkspace (some ⟨"", []⟩) "team.json" =
      .ok ⟨"", ["team.json"]⟩ := by
    rw [RuleFile.locate, hpath]
    rfl
  refine (load_of_mem "team" (by decide)).trans ?_
  rw [RuleFile.follow, hlocate]
  exact load_team

theorem ruleDirectory_main : ruleDirectory "main.json" askingOptions = ⟨"", []⟩ := by cbv

theorem gather_run : (gather [] askingOptions).run.run teamSession = (.ok [], teamSession) := rfl

/-- The scope of what is granted to a team. -/
def grantScope : Scope :=
  ⟨["team.json"], ⟨"team", [("to", .text "\x7b\x7b.owner\x7d\x7d")]⟩, false, grantRules⟩

theorem run_teamRules : Expansion.run teamSetting teamRules =
    .error (.missingParameters ["role"] (.rule "team-grant")) := by
  have hleaf (w : Workspace) (library : Option Library) :
      Expansion.leaf ⟨[(.text "owner", .text "acme")], grantCatalogue.definition w, library⟩
        grantScope.frame [] grantRules[0] [] =
      (.error (.missingParameters ["role"] (.rule "team-grant")), []) := by cbv
  have hgrant : grantScope.expand teamSetting [] =
      (.error (.missingParameters ["role"] (.rule "team-grant")), []) :=
    Scope.expand_eq_error_iff.2 ⟨[], grantRules[0], [], [], [], rfl, .nil,
      .unplanned (Expansion.applies_of_blank rfl) rfl (by decide) (hleaf _ _)⟩
  have hbelow : (Scope.root teamRules).below? teamSetting teamRules[0] = some grantScope :=
    Scope.below?_of_load (by decide) (by decide) load_teamSetting
  exact Expansion.run_eq_iff.2 ⟨[], Scope.expand_eq_error_iff.2 ⟨[], teamRules[0], [], [], [], rfl,
    .nil, .inside (Expansion.applies_of_blank rfl) hbelow hgrant⟩⟩

theorem compile_teamRules : compile teamSetting teamRules =
    .error (.missingParameters ["role"] (.rule "team-grant")) := by
  rw [compile, run_teamRules]
  rfl

/-- The owner is asked for, and what is missing then is needed by the file of the team. -/
theorem build_asks_and_misses_included_team :
    rulesIn teamSession.workspace "main.json" = .ok teamRules ∧
      (gather [] askingOptions).run.run teamSession = (.ok [], teamSession) ∧
      (build (some grantCatalogue) "main.json" [] askingOptions).run.run teamSession =
        (compile teamSetting teamRules, asked teamSession ["owner"] []) ∧
      "role" ∉ RuleFile.required teamRules ∧
      ∃ history file, history ≠ [] ∧ Follows teamSetting teamRules history file ∧
        "role" ∈ RuleFile.required file := by
  have hanswers : teamSession.answers = ["acme"].map .given ++ [] := rfl
  obtain ⟨hbuild, -, -, -, hmissing⟩ := build_asks_and_misses_included (c := grantCatalogue)
    rfl rulesIn_main gather_run hanswers length_teamAnswers
  simp only [unknown_teamRules, ruleDirectory_main] at hbuild hmissing
  obtain ⟨-, hnames⟩ := hmissing _ _ compile_teamRules
  obtain ⟨-, hnot, hincluded⟩ := hnames "role" (by simp)
  exact ⟨rulesIn_main, gather_run, hbuild, hnot, hincluded⟩

/-- All questions are answered, and still something is missing. -/
theorem build_missing_answered :
    (build (some grantCatalogue) "main.json" [] askingOptions).run.run teamSession =
      (.error (.missingParameters ["role"] (.rule "team-grant")), asked teamSession ["owner"] []) := by
  have hanswers : teamSession.answers = ["acme"].map .given ++ [] := rfl
  have hfacts := factsFor_run rfl gather_run hanswers length_teamAnswers
  rw [unknown_teamRules] at hfacts
  rw [build_run rulesIn_main hfacts, ruleDirectory_main]
  exact congrArg (Prod.mk · (asked teamSession ["owner"] [])) compile_teamRules

end Remediation.Building
