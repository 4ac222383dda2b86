import Mathlib
import Remediation.Proofs.Building.Failure
import Remediation.Proofs.Building.Questions
/-!
# The ranks of facts

The value of a key is that of the parameters that are given, else of the report, else of the
repository, else of the defaults (`valueAt?_combine`).  A source that is skipped counts as empty, and so
does one that cannot be read for a fault that is warned of (`DefaultsCount`, `RepositoryCounts`).  Any
other fault of a source is raised, and nothing is gathered (`gather_ranks_or_raises`): among them are a
file of defaults that is no text, and a project description in which the project is no table.
-/

set_option autoImplicit false

namespace Remediation

/-! ## Keys -/

namespace Scalar

variable {a b : Scalar}

theorem sameKey_comm (a b : Scalar) : a.sameKey b = b.sameKey a := by
  rw [Bool.eq_iff_iff, sameKey_iff, sameKey_iff]
  exact ⟨fun ⟨key, ha, hb⟩ => ⟨key, hb, ha⟩, fun ⟨key, hb, ha⟩ => ⟨key, ha, hb⟩⟩

/-- The same key is the same to all keys. -/
theorem sameKey_congr (h : a.sameKey b = true) (c : Scalar) : a.sameKey c = b.sameKey c := by
  obtain ⟨key, ha, hb⟩ := sameKey_iff.1 h
  rw [sameKey, sameKey, ha, hb]

theorem sameKey_texts (s t : String) : (text s).sameKey (text t) = decide (s = t) := by
  rw [Bool.eq_iff_iff, sameKey_text, text.injEq, decide_eq_true_eq]

end Scalar

/-- The value under a key. -/
def valueAt? (entries : List (Scalar × Value)) (key : Scalar) : Option Value :=
  (entries.find? fun e => e.1.sameKey key).map Prod.snd

/-- No two entries are of the same key. -/
def DistinctKeys (entries : List (Scalar × Value)) : Prop :=
  entries.Pairwise fun a b => a.1.sameKey b.1 = false

section Entries

variable {entries later : List (Scalar × Value)} {key name : Scalar} {v : Value}

theorem valueAt?_cons (e : Scalar × Value) (entries : List (Scalar × Value)) (name : Scalar) :
    valueAt? (e :: entries) name =
      if e.1.sameKey name = true then some e.2 else valueAt? entries name := by
  unfold valueAt?
  rw [List.find?_cons]
  cases e.1.sameKey name <;> rfl

theorem valueAt?_upsertEntry (entries : List (Scalar × Value)) (key name : Scalar) (v : Value) :
    valueAt? (upsertEntry entries key v) name =
      if key.sameKey name = true then some v else valueAt? entries name := by
  induction entries with
  | nil => exact valueAt?_cons (key, v) [] name
  | cons e rest ih =>
    obtain ⟨k, old⟩ := e
    rw [upsertEntry]
    split
    next hsame =>
      rw [valueAt?_cons, valueAt?_cons, Scalar.sameKey_congr hsame name]
      split <;> rfl
    next hother =>
      rw [valueAt?_cons, valueAt?_cons, ih]
      split
      next hold =>
        have hkey : ¬ key.sameKey name = true := by
          refine fun hnew => hother ?_
          rw [Scalar.sameKey_comm, Scalar.sameKey_congr hnew, Scalar.sameKey_comm]
          exact hold
        rw [if_neg hkey]
      next => rfl

theorem valueAt?_mergeEntries (h : DistinctKeys later) (entries : List (Scalar × Value))
    (name : Scalar) :
    valueAt? (mergeEntries entries later) name = (valueAt? later name).or (valueAt? entries name) := by
  induction later generalizing entries with
  | nil => rfl
  | cons e rest ih =>
    obtain ⟨hnew, hrest⟩ := List.pairwise_cons.1 h
    have hmerge : mergeEntries entries (e :: rest) = mergeEntries (upsertEntry entries e.1 e.2) rest :=
      rfl
    rw [hmerge, ih hrest, valueAt?_upsertEntry, valueAt?_cons]
    split
    next hsame =>
      have hnone : valueAt? rest name = none := by
        unfold valueAt?
        rw [Option.map_eq_none_iff, List.find?_eq_none]
        intro other hother hfound
        have hdifferent := hnew other hother
        rw [Scalar.sameKey_congr hsame, Scalar.sameKey_comm, hfound] at hdifferent
        cases hdifferent
      rw [hnone]
      rfl
    next => rfl

/-- Fields under different names are entries of different keys. -/
theorem distinctKeys_factsOf {fields : Fields} (h : (fields.map Prod.fst).Nodup) :
    DistinctKeys (BuildOptions.factsOf fields) := by
  rw [List.nodup_iff_pairwise_ne, List.pairwise_map] at h
  refine List.pairwise_map.2 (h.imp fun {a b} hne => ?_)
  rw [Scalar.sameKey_texts]
  exact decide_eq_false hne

end Entries

/-! ## Work that sees no reports -/

/-- Sessions of the same files in which commands end the same. -/
structure Session.Alike (s t : Session) : Prop where
  workspace : s.workspace = t.workspace
  endings : s.endings = t.endings
  lastEnding : s.lastEnding = t.lastEnding

namespace Work

variable {α β : Type}

/-- Work that gives the same in sessions of the same files in which commands end the same. -/
def Blind (x : Work α) : Prop := ∀ s t, Session.Alike s t →
  (x.run.run s).1 = (x.run.run t).1 ∧ Session.Alike (x.run.run s).2 (x.run.run t).2

namespace Blind

theorem pure (a : α) : Blind (Pure.pure a : Work α) := fun _ _ h => ⟨rfl, h⟩

theorem lift (r : Except Fault α) : Blind (liftM r : Work α) := fun _ _ h => ⟨rfl, h⟩

theorem throw_bind (e : Fault) (f : α → Work β) : Blind ((MonadExcept.throw e : Work α) >>= f) :=
  fun _ _ h => ⟨rfl, h⟩

theorem workspace : Blind Work.workspace := fun _ _ h => ⟨congrArg Except.ok h.workspace, h⟩

theorem launch (argv : List String) (directory : Option String) :
    Blind (Work.launch argv directory) := by
  intro s t h
  have hrun : ∀ s, (Work.launch argv directory).run.run s =
      (.ok (s.launch argv directory).1, (s.launch argv directory).2) := fun _ => rfl
  obtain ⟨hworkspace, hendings, hlast⟩ := h
  rw [hrun, hrun]
  unfold Session.launch Session.record
  dsimp only
  rw [hendings]
  cases t.endings with
  | nil => exact ⟨congrArg Except.ok hlast, hworkspace, rfl, hlast⟩
  | cons e rest => exact ⟨rfl, hworkspace, rfl, hlast⟩

theorem bind {x : Work α} {f : α → Work β} (h : Blind x) (hf : ∀ a, Blind (f a)) :
    Blind (x >>= f) := by
  intro s t hst
  obtain ⟨hresult, hlater⟩ := h s t hst
  rw [ExceptT.run_bind, StateT.run_bind, StateT.run_bind]
  rcases hs : x.run.run s with ⟨result, later⟩
  rcases ht : x.run.run t with ⟨result', later'⟩
  rw [hs, ht] at hresult hlater
  dsimp only at hresult hlater
  subst hresult
  cases result with
  | ok a => exact hf a later later' hlater
  | error e => exact ⟨rfl, hlater⟩

end Blind

end Work

theorem Repository.blind_explore (directory : Option Path) : Work.Blind (explore directory) := by
  have haddress (p : Path) : Work.Blind (address? p) := by
    refine (Work.Blind.launch _ _).bind fun ending => ?_
    cases ending <;> exact .pure _
  refine Work.Blind.workspace.bind fun w => (Work.Blind.lift _).bind fun there => ?_
  cases there with
  | false => exact .throw_bind _ _
  | true =>
    refine (haddress _).bind fun address => (Work.Blind.lift _).bind fun name => ?_
    cases name <;> exact .pure _

/-- The names under which a repository tells something are different. -/
theorem Repository.nodup_explore {directory : Option Path} {s later : Session} {told : Fields}
    (h : (explore directory).run.run s = (.ok told, later)) : (told.map Prod.fst).Nodup := by
  refine explore_cases (P := fun told => (told.map Prod.fst).Nodup) List.nodup_nil (fun address => ?_)
    (fun place name hplace => nodup_setField hplace _ _) h
  unfold addressFields
  split <;> simp

namespace Gathering

variable {o : BuildOptions} {s : Session}

/-! ## Sources -/

/-- Facts of two ranks: those of the parameters count before those of the report, these before those of
the repository, and these before the defaults. -/
theorem valueAt?_combine {defaults repository report parameters : Facts}
    (hrepository : DistinctKeys repository) (hreport : DistinctKeys report)
    (hparameters : DistinctKeys parameters) (key : Scalar) :
    valueAt? (combine defaults repository report parameters) key =
      (valueAt? parameters key).or ((valueAt? report key).or
        ((valueAt? repository key).or (valueAt? defaults key))) := by
  unfold combine
  rw [valueAt?_mergeEntries hparameters, valueAt?_mergeEntries hreport,
    valueAt?_mergeEntries hrepository]

/-- The directory of the repository. -/
def directory? (o : BuildOptions) : Option Path :=
  if o.repository = "" then none else some (Path.parse o.repository)

/-- What the defaults count as: nothing if they are skipped, or cannot be read for a fault of plans. -/
inductive DefaultsCount (o : BuildOptions) (w : Workspace) : Facts → Prop where
  | skipped : o.skipDefaults = true → DefaultsCount o w []
  | loaded {facts : Facts} : o.skipDefaults = false → Defaults.load w o.defaultsPath = .ok facts →
      DefaultsCount o w facts
  | unread {e : Fault} : o.skipDefaults = false → Defaults.load w o.defaultsPath = .error e →
      e.kind.isPlan = true → DefaultsCount o w []

/-- A fault of the defaults that is not caught. -/
structure DefaultsRaise (o : BuildOptions) (w : Workspace) (e : Fault) : Prop where
  wanted : o.skipDefaults = false
  load : Defaults.load w o.defaultsPath = .error e
  unloaded : Defaults.Unloaded e
  not_plan : e.kind.isPlan = false

/-- What the repository counts as: nothing if it is skipped, or cannot be reached for a fault of
files. -/
inductive RepositoryCounts (o : BuildOptions) (s : Session) : Facts → Prop where
  | skipped : o.skipRepository = true → RepositoryCounts o s []
  | explored {told : Fields} : o.skipRepository = false →
      ((Repository.explore (directory? o)).run.run s).1 = .ok told →
      RepositoryCounts o s (BuildOptions.factsOf told)
  | unreached {e : Fault} : o.skipRepository = false →
      ((Repository.explore (directory? o)).run.run s).1 = .error e → e.kind.isFile = true →
      RepositoryCounts o s []

/-- A fault of the repository that is not caught. -/
structure RepositoryRaises (o : BuildOptions) (s : Session) (e : Fault) : Prop where
  wanted : o.skipRepository = false
  explore : ((Repository.explore (directory? o)).run.run s).1 = .error e
  unexplored : Repository.Unexplored e
  not_file : e.kind.isFile = false

theorem run_defaults (o : BuildOptions) (s : Session) :
    (∃ facts later, (defaults o).run.run s = (.ok facts, later) ∧ later.Alike s ∧
      DefaultsCount o s.workspace facts) ∨
    ∃ e later, (defaults o).run.run s = (.error e, later) ∧ DefaultsRaise o s.workspace e := by
  have hsame : s.Alike s := ⟨rfl, rfl, rfl⟩
  unfold defaults
  split
  next hskip => exact Or.inl ⟨[], s, rfl, hsame, .skipped hskip⟩
  next hwanted =>
    have hread : o.skipDefaults = false := Bool.eq_false_iff.2 hwanted
    have hworkspace : Work.workspace.run.run s = (.ok s.workspace, s) := rfl
    rw [Work.run_bind_of_ok _ hworkspace]
    split
    next facts hload => exact Or.inl ⟨facts, s, rfl, hsame, .loaded hread hload⟩
    next e hload =>
      split
      next hplan =>
        exact Or.inl ⟨[], s.report .warning _, rfl, ⟨rfl, rfl, rfl⟩, .unread hread hload hplan⟩
      next hother =>
        have hunloaded := (Defaults.failsAs_load _ _ e hload).resolve_left fun hkind =>
          hother (by rw [hkind]; rfl)
        exact Or.inr ⟨e, s, rfl, hread, hload, hunloaded, Bool.eq_false_iff.2 hother⟩

/-- What the repository tells is printed where that is wanted, and kept. -/
theorem exists_run_told (o : BuildOptions) (told : Fields) (s : Session) :
    ∃ later, (do
      if o.verbose && !told.isEmpty then printExplored told
      return BuildOptions.factsOf told : Work Facts).run.run s =
        (.ok (BuildOptions.factsOf told), later) := by
  split
  · have hprints := failsAs_printExplored (fun _ => False) told s
    rcases hrun : (printExplored told).run.run s with ⟨e | ⟨⟩, later⟩
    · rw [hrun] at hprints
      exact (hprints e rfl).elim
    · exact ⟨later, Work.run_bind_of_ok _ hrun⟩
  · exact ⟨s, rfl⟩

theorem run_repository (o : BuildOptions) (s : Session) :
    (∃ facts later, (repository o).run.run s = (.ok facts, later) ∧ RepositoryCounts o s facts) ∨
    ∃ e later, (repository o).run.run s = (.error e, later) ∧ RepositoryRaises o s e := by
  unfold repository
  split
  next hskip => exact Or.inl ⟨[], s, rfl, .skipped hskip⟩
  next hwanted =>
    have hread : o.skipRepository = false := Bool.eq_false_iff.2 hwanted
    rcases hrun : (Repository.explore (directory? o)).run.run s with ⟨e | told, between⟩
    · have hresult : ((Repository.explore (directory? o)).run.run s).1 = .error e := by rw [hrun]
      have hcaught := Work.run_map_of_eq some hrun
      cases hfile : e.kind.isFile with
      | true =>
        obtain ⟨later, htold⟩ := exists_run_told o [] (between.report .warning
          s!"Failed to infer parameters from repository: {e.message}")
        refine Or.inl ⟨_, later, (Work.run_bind_of_ok (a := none) _
          ((Work.run_tryCatch_of_error _ hcaught).trans ?_)).trans htold,
          .unreached hread hresult hfile⟩
        rw [if_pos hfile]
        rfl
      | false =>
        have hunexplored : Repository.Unexplored e := Repository.failsAs_explore _ s e hresult
        refine Or.inr ⟨e, between, Work.run_bind_of_error _
          ((Work.run_tryCatch_of_error _ hcaught).trans ?_), hread, hresult, hunexplored, hfile⟩
        rw [hfile]
        rfl
    · have hresult : ((Repository.explore (directory? o)).run.run s).1 = .ok told := by rw [hrun]
      obtain ⟨later, htold⟩ := exists_run_told o told between
      exact Or.inl ⟨_, later, (Work.run_bind_of_ok _
        (Work.run_tryCatch_of_ok _ (Work.run_map_of_eq some hrun))).trans htold,
        .explored hread hresult⟩

theorem RepositoryCounts.distinct {facts : Facts} (h : RepositoryCounts o s facts) :
    DistinctKeys facts := by
  cases h with
  | skipped | unreached => exact List.Pairwise.nil
  | explored _ hexplore =>
    rename_i told _
    exact distinctKeys_factsOf (Repository.nodup_explore (Prod.ext hexplore rfl))

/-- What a repository tells depends on the files and on how commands end, and on nothing else. -/
theorem explore_eq_of_alike {t : Session} (h : s.Alike t) (directory : Option Path) :
    ((Repository.explore directory).run.run s).1 = ((Repository.explore directory).run.run t).1 :=
  (Repository.blind_explore directory s t h).1

/-! ## Facts of all sources -/

/-- Facts are gathered, and each key has the value of the first source that has one: the parameters, the
report, the repository or the defaults.  Otherwise one of the last two raises a fault that is not
caught. -/
theorem gather_ranks_or_raises (report : Facts) (o : BuildOptions) (s : Session)
    (hreport : DistinctKeys report) (hparameters : DistinctKeys o.parameters) :
    (∃ facts later defaults repository, (gather report o).run.run s = (.ok facts, later) ∧
      DefaultsCount o s.workspace defaults ∧ RepositoryCounts o s repository ∧
      ∀ key, valueAt? facts key = (valueAt? o.parameters key).or ((valueAt? report key).or
        ((valueAt? repository key).or (valueAt? defaults key)))) ∨
    ∃ e later, (gather report o).run.run s = (.error e, later) ∧
      (DefaultsRaise o s.workspace e ∨ RepositoryRaises o s e) := by
  rcases run_defaults o s with ⟨defaults, between, hdefaults, halike, hcount⟩ |
      ⟨e, later, hdefaults, hraise⟩
  · -- The repository is explored behind the defaults, but tells what it would have told before them.
    rcases run_repository o between with ⟨repository, later, hrepository, hcounts⟩ |
        ⟨e, later, hrepository, hraise⟩
    · have hsame : RepositoryCounts o s repository := by
        cases hcounts with
        | skipped hskip => exact .skipped hskip
        | explored hread hexplore =>
          exact .explored hread ((explore_eq_of_alike halike _).symm.trans hexplore)
        | unreached hread hexplore hfile =>
          exact .unreached hread ((explore_eq_of_alike halike _).symm.trans hexplore) hfile
      refine Or.inl ⟨_, later, defaults, repository, ?_, hcount, hsame, fun key =>
        valueAt?_combine hsame.distinct hreport hparameters key⟩
      unfold gather
      rw [Work.run_bind_of_ok _ hdefaults, Work.run_bind_of_ok _ hrepository]
      rfl
    · have hsame : RepositoryRaises o s e := { hraise with
        explore := (explore_eq_of_alike halike _).symm.trans hraise.explore }
      refine Or.inr ⟨e, later, ?_, Or.inr hsame⟩
      unfold gather
      rw [Work.run_bind_of_ok _ hdefaults, Work.run_bind_of_error _ hrepository]
  · exact Or.inr ⟨e, later, Work.run_bind_of_error _ hdefaults, Or.inl hraise⟩

/-- A directory that holds the description of a project and nothing else. -/
def described (description : List UInt8) : Workspace where
  tree := .directory [("pyproject.toml", .file description)]
  current := ⟨"/", []⟩
  home := ⟨"/", []⟩

/-- The report tells who owns the project, and so does what is given; neither the defaults nor the
repository can be read. -/
def givenOptions : BuildOptions :=
  { BuildOptions.default with
    defaultsPath := "defaults", repository := "missing"
    parameters := [(.text "owner", .text "acme")] }

theorem gather_ranks_or_raises_owner :
    DistinctKeys [(.text "owner", .text "nobody"), (.text "host", .text "forge")] ∧
    DistinctKeys givenOptions.parameters ∧
    ∃ facts later, (gather [(.text "owner", .text "nobody"), (.text "host", .text "forge")]
        givenOptions).run.run (Session.start (described []) default) = (.ok facts, later) ∧
      valueAt? facts (.text "owner") = some (.text "acme") ∧
      valueAt? facts (.text "host") = some (.text "forge") := by
  have hreport : DistinctKeys [(.text "owner", .text "nobody"), (.text "host", .text "forge")] := by
    refine List.pairwise_pair.2 ?_
    rw [Scalar.sameKey_texts]
    decide
  have hparameters : DistinctKeys givenOptions.parameters := List.pairwise_singleton _ _
  have hdefaults : Defaults.load (described []) givenOptions.defaultsPath =
      .error (.defaultsUnread "defaults" (.file (.absent "defaults"))) := by
    have hpath : Path.parse "defaults" = ⟨"", ["defaults"]⟩ := by cbv
    show Defaults.load (described []) "defaults" = _
    rw [Defaults.load, if_neg (by decide), hpath]
    rfl
  have hexplore : ((Repository.explore (directory? givenOptions)).run.run
      (Session.start (described []) default)).1 = .error (.repositoryAbsent "missing") := by
    have hpath : directory? givenOptions = some ⟨"", ["missing"]⟩ := by cbv
    rw [hpath]
    rfl
  refine ⟨hreport, hparameters, ?_⟩
  rcases gather_ranks_or_raises _ givenOptions (Session.start (described []) default) hreport hparameters
    with ⟨facts, later, defaults, repository, hrun, -, -, hvalue⟩ | ⟨e, later, -, hraise | hraise⟩
  · refine ⟨facts, later, hrun, ?_, ?_⟩
    · rw [hvalue]
      rfl
    · rw [hvalue]
      rfl
  · have hload := hdefaults.symm.trans hraise.load
    obtain rfl := Except.error.inj hload
    cases hraise.not_plan
  · have hload := hexplore.symm.trans hraise.explore
    obtain rfl := Except.error.inj hload
    cases hraise.not_file

section Described

variable {description : List UInt8} {text : String} (c : Action.Catalogue)
  (hdecode : Text.decodeUtf8 description = .ok text)
  (htoml : Toml.read text = .ok (.map [(.text "project", .text "x")]))

include hdecode htoml

theorem name?_described :
    Repository.name? (described description) ⟨"/", []⟩ = .error (.noMatch "str" "get") := by
  have hpackage : Path.child ⟨"/", []⟩ "package.json" = ⟨"/", ["package.json"]⟩ := by cbv
  have hproject : Path.child ⟨"/", []⟩ "pyproject.toml" = ⟨"/", ["pyproject.toml"]⟩ := by cbv
  have hbytes : (described description).readBytes ⟨"/", ["pyproject.toml"]⟩ = .ok description := rfl
  have hread : Repository.projectName? (described description) ⟨"/", ["pyproject.toml"]⟩ =
      .error (.noMatch "str" "get") := by
    rw [Repository.projectName?, hbytes]
    simp only [hdecode, Except.mapError, htoml, bind, Except.bind]
    rfl
  have hno : (described description).isFile ⟨"/", ["package.json"]⟩ = .ok false := rfl
  have hfile : (described description).isFile ⟨"/", ["pyproject.toml"]⟩ = .ok true := rfl
  rw [Repository.name?, hpackage, hproject]
  simp only [hno, hfile, hread, bind, Except.bind]
  rfl

theorem explore_described : ((Repository.explore none).run.run
    (Session.start (described description) c)).1 = .error (.noMatch "str" "get") := by
  have hworkspace : Work.workspace.run.run (Session.start (described description) c) =
    (.ok (described description), Session.start (described description) c) := rfl
  have hdirectory : (described description).isDirectory ⟨"/", []⟩ = .ok true := rfl
  have haddress : ((Repository.address? ⟨"/", []⟩).run.run
      (Session.start (described description) c)).1 = .ok none := by cbv
  rw [Repository.explore, Work.run_bind_of_ok _ hworkspace]
  simp only [Option.getD_none]
  have hroot : (described description).current = ⟨"/", []⟩ := rfl
  rw [hroot, hdirectory]
  have hthere : (liftM (.ok true : Except Fault Bool) : Work Bool).run.run
      (Session.start (described description) c) =
        (.ok true, Session.start (described description) c) := rfl
  rw [Work.run_bind_of_ok _ hthere]
  rcases hrun : (Repository.address? ⟨"/", []⟩).run.run (Session.start (described description) c)
    with ⟨result, later⟩
  rw [hrun] at haddress
  dsimp only at haddress
  subst haddress
  show ((_ >>= _ : Work Fields).run.run _).1 = _
  rw [Work.run_bind_of_ok _ hrun, name?_described hdecode htoml]
  rfl

/-- A project that is no table is not left out: nothing is gathered. -/
theorem gather_described :
    ((gather [] { BuildOptions.default with skipDefaults := true }).run.run
      (Session.start (described description) c)).1 = .error (.noMatch "str" "get") := by
  have hexplore := explore_described c hdecode htoml
  rcases run_repository { BuildOptions.default with skipDefaults := true }
      (Session.start (described description) c) with
    ⟨facts, later, -, hcounts⟩ | ⟨e, later, hrun, hraise⟩
  · cases hcounts with
    | skipped hskip => cases hskip
    | explored _ hother => cases hexplore.symm.trans hother
    | unreached _ hother hfile =>
      obtain rfl := Except.error.inj (hexplore.symm.trans hother)
      cases hfile
  · obtain rfl := Except.error.inj (hexplore.symm.trans hraise.explore)
    have hskipped : (defaults { BuildOptions.default with skipDefaults := true }).run.run
        (Session.start (described description) c) =
          (.ok [], Session.start (described description) c) := rfl
    unfold gather
    rw [Work.run_bind_of_ok _ hskipped, Work.run_bind_of_error _ hrun]

end Described

/-- A project description whose project is a text. -/
theorem gather_projectText :
    ((gather [] { BuildOptions.default with skipDefaults := true }).run.run
      (Session.start (described (asciiBytes "project = \"x\"".toList)) default)).1 =
        .error (.noMatch "str" "get") := by
  have hdecode : Text.decodeUtf8 (asciiBytes "project = \"x\"".toList) = .ok "project = \"x\"" := by
    rw [Text.decodeUtf8, decodeUtf8Aux_asciiBytes (List.all_iff_forall_prop.1 (by cbv))]
    rfl
  have htoml : Toml.read "project = \"x\"" = .ok (.map [(.text "project", .text "x")]) := by cbv
  exact gather_described default hdecode htoml

end Gathering

end Remediation
