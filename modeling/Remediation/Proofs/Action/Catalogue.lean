import Mathlib
import Remediation.Proofs.Distinct
import Remediation.Proofs.Repository
/-!
# Actions that are listed and looked up

A listing gives a name the definition of the first file that holds one of that name (`First`): files are
taken directory by directory, and in each in the order of their names.  A lookup reads the first file
that is called by the name, whatever it holds.  They agree where the file of the listing is called by
the name and no directory in front has a file that is, too (`definition_of_listed`); an action that is
named otherwise than its file is listed, but not found.
-/

set_option autoImplicit false

namespace Remediation

namespace Action

namespace Catalogue

variable {w : Workspace} {paths : List Path} {name : String} {d : Definition} {file : Path}

/-! ## What is listed -/

/-- The files of a directory that are read for a listing, in that order. -/
def filesOf (w : Workspace) (p : Path) : List Path :=
  match w.isDirectory p with
  | .ok true => w.entriesEnding p fileEnding
  | _ => []

/-- The definitions that files hold. -/
def definitions (w : Workspace) (files : List Path) : List Definition :=
  files.filterMap fun file => (Definition.load w file).toOption

/-- Whether a file holds a definition of a name. -/
def holds (w : Workspace) (name : String) (file : Path) : Bool :=
  (Definition.load w file).toOption.any (·.name == name)

theorem map_fst_addNew (found : List (String × Definition)) (d : Definition) :
    (addNew found d).map Prod.fst = appendNew (found.map Prod.fst) d.name := by
  unfold addNew appendNew
  cases hlookup : lookupField found d.name with
  | none => simp [lookupField_eq_none_iff.1 hlookup]
  | some known =>
    have hthere := List.mem_map_of_mem (f := Prod.fst) (mem_of_lookupField hlookup)
    rw [if_pos Option.isSome_some, if_pos hthere]

theorem mem_addNew {found : List (String × Definition)} {d : Definition}
    {e : String × Definition} (h : e ∈ addNew found d) :
    e ∈ found ∨ e = (d.name, d) ∧ d.name ∉ found.map Prod.fst := by
  unfold addNew at h
  split at h
  next => exact Or.inl h
  next hnew =>
    refine (List.mem_append.1 h).imp_right fun hlast => ⟨List.mem_singleton.1 hlast, ?_⟩
    rw [← lookupField_eq_none_iff]
    exact Option.not_isSome_iff_eq_none.1 hnew

/-- The first definition of a name is the one that counts. -/
theorem mem_foldl_addNew {defs : List Definition} {found : List (String × Definition)}
    (h : (name, d) ∈ defs.foldl addNew found) :
    (name, d) ∈ found ∨ name ∉ found.map Prod.fst ∧ defs.find? (·.name == name) = some d := by
  induction defs generalizing found with
  | nil => exact Or.inl h
  | cons first rest ih =>
    rcases ih h with hfound | ⟨hnew, hrest⟩
    · rcases mem_addNew hfound with hbefore | ⟨heq, habsent⟩
      · exact Or.inl hbefore
      · obtain ⟨rfl, rfl⟩ := Prod.mk.inj heq
        exact Or.inr ⟨habsent, List.find?_cons_of_pos (beq_self_eq_true _)⟩
    · rw [map_fst_addNew, mem_appendNew, not_or] at hnew
      refine Or.inr ⟨hnew.1, ?_⟩
      rwa [List.find?_cons_of_neg]
      rw [beq_iff_eq]
      exact fun heq => hnew.2 heq.symm

theorem found_foldlM_listFile {files : List Path} {l later : Listing}
    (h : files.foldlM (listFile w) l = .ok later) :
    later.found = (definitions w files).foldl addNew l.found := by
  induction files generalizing l with
  | nil =>
    obtain rfl := Except.ok.inj h
    rfl
  | cons file rest ih =>
    rw [List.foldlM_cons] at h
    obtain ⟨next, hnext, hrest⟩ := exists_of_bind_eq_ok h
    rw [ih hrest]
    unfold listFile at hnext
    split at hnext
    next d hload =>
      obtain rfl := Except.ok.inj hnext
      have hfirst : definitions w (file :: rest) = d :: definitions w rest :=
        List.filterMap_cons_some (by rw [hload]; rfl)
      rw [hfirst, List.foldl_cons]
    next e hload =>
      have hnone : definitions w (file :: rest) = definitions w rest :=
        List.filterMap_cons_none (by rw [hload]; rfl)
      rw [hnone]
      split at hnext
      · obtain rfl := Except.ok.inj hnext
        rfl
      · cases hnext

theorem foldlM_filesOf {p : Path} {l later : Listing} (h : listDirectory w l p = .ok later) :
    (filesOf w p).foldlM (listFile w) l = .ok later := by
  unfold listDirectory at h
  unfold filesOf
  split at h
  next => cases h
  next hother =>
    rw [hother]
    exact h
  next hdirectory =>
    rw [hdirectory]
    exact h

/-- A listing adds the definitions of all files, in their order. -/
theorem found_foldlM_listDirectory {l later : Listing}
    (h : paths.foldlM (listDirectory w) l = .ok later) :
    later.found = (definitions w (paths.flatMap (filesOf w))).foldl addNew l.found := by
  apply found_foldlM_listFile
  induction paths generalizing l with
  | nil => exact h
  | cons p rest ih =>
    rw [List.foldlM_cons] at h
    obtain ⟨next, hnext, hrest⟩ := exists_of_bind_eq_ok h
    rw [List.flatMap_cons, List.foldlM_append, foldlM_filesOf hnext]
    exact ih hrest

/-! ## Where it stands -/

/-- The first file that holds a definition of a name: none in the directories in front does, and none in
front of it in its own directory. -/
structure First (w : Workspace) (paths : List Path) (name : String) (d : Definition)
    (front : List Path) (p file : Path) : Prop where
  load : Definition.load w file = .ok d
  name_eq : d.name = name
  directories : front ++ [p] <+: paths
  no_front : ∀ q ∈ front, ∀ other ∈ filesOf w q, holds w name other = false
  files : ∃ before, before ++ [file] <+: filesOf w p ∧
    ∀ other ∈ before, holds w name other = false

theorem exists_first (h : (definitions w (paths.flatMap (filesOf w))).find? (·.name == name) = some d) :
    ∃ front p file, First w paths name d front p file := by
  rw [definitions, List.find?_filterMap, List.find?_flatMap, Option.bind_eq_some_iff] at h
  obtain ⟨file, hfind, hload⟩ := h
  obtain ⟨front, p, behind, hpaths, hfile, hfront⟩ := List.findSome?_eq_some_iff.1 hfind
  obtain ⟨hholds, before, after, hfiles, hbefore⟩ := List.find?_eq_some_iff_append.1 hfile
  rw [hload, Option.any_some, beq_iff_eq] at hholds
  have hok : Definition.load w file = .ok d := by
    cases hresult : Definition.load w file with
    | error e => simp [hresult, Except.toOption] at hload
    | ok found =>
      rw [hresult] at hload
      rw [Option.some.inj hload]
  refine ⟨front, p, file, hok, hholds, ⟨behind, by simp [hpaths]⟩, ?_, before,
    ⟨after, by simp [hfiles]⟩, fun other hother => by simpa [holds] using hbefore other hother⟩
  intro q hq other hother
  have hnone := List.find?_eq_none.1 (hfront q hq) other hother
  simpa [holds] using hnone

/-! ## What is looked up -/

/-- What a definition is read from is a file. -/
theorem isFile_of_load (h : Definition.load w file = .ok d) : w.isFile file = .ok true := by
  cases hbytes : w.readBytes file with
  | error e =>
    rw [Definition.load, Workspace.readText, hbytes] at h
    cases h
  | ok bytes =>
    unfold Workspace.readBytes at hbytes
    unfold Workspace.isFile Workspace.find?
    split at hbytes
    next => cases hbytes
    next hname =>
      rw [if_neg hname]
      split at hbytes
      next hfind =>
        rw [hfind]
        rfl
      next => cases hbytes
      next => cases hbytes

theorem file?_of_front {front behind : List Path} {p : Path}
    (hfront : ∀ q ∈ front, w.isFile (q.child (name ++ fileEnding)) = .ok false)
    (hfile : w.isFile (p.child (name ++ fileEnding)) = .ok true) :
    file? w name (front ++ p :: behind) = .ok (some (p.child (name ++ fileEnding))) := by
  induction front with
  | nil =>
    rw [List.nil_append, file?]
    simp only [hfile]
  | cons q front ih =>
    obtain ⟨hq, hrest⟩ := List.forall_mem_cons.1 hfront
    rw [List.cons_append, file?]
    simp only [hq]
    exact ih hrest

/-- Each name of a listing has the definition of the first file that holds one of it.  If that file is
called by the name, and nothing in front of its directory is, looking the name up gives that
definition. -/
theorem definition_of_listed (w : Workspace) (paths : List Path) (l : Listing)
    (hlisting : (Catalogue.mk paths []).listing w = .ok l) (name : String) (d : Definition)
    (hlisted : (name, d) ∈ l.found) :
    ∃ front p file, First w paths name d front p file ∧
      (file = p.child (name ++ fileEnding) →
        (∀ q ∈ front, w.isFile (q.child (name ++ fileEnding)) = .ok false) →
        (Catalogue.mk paths []).definition w name = .ok d) := by
  -- A listing adds the files of all directories one after the other, and keeps the first of a name.
  rw [found_foldlM_listDirectory hlisting] at hlisted
  rcases mem_foldl_addNew hlisted with hbefore | ⟨-, hfirst⟩
  · cases hbefore
  obtain ⟨front, p, file, hfirst⟩ := exists_first hfirst
  refine ⟨front, p, file, hfirst, ?_⟩
  rintro rfl hfront
  obtain ⟨behind, hpaths⟩ := hfirst.directories
  rw [List.append_assoc, List.singleton_append] at hpaths
  have hfound : file? w name (front ++ p :: behind) = .ok (some (p.child (name ++ fileEnding))) :=
    file?_of_front hfront (isFile_of_load hfirst.load)
  rw [hpaths] at hfound
  simp only [definition, lookupField, hfound, hfirst.load]

/-! ## Names that are not found -/

/-- A directory with a file that is no action, and one with two actions, of which the second is named
otherwise than its file. -/
def shelves (sketch deploy ship : List UInt8) : Workspace where
  tree := .directory [("local", .directory [("deploy.yaml", .file sketch)]),
    ("global", .directory [("deploy.yaml", .file deploy), ("publish.yaml", .file ship)])]
  current := ⟨"/", []⟩
  home := ⟨"/", []⟩

/-- The two directories, with what their files hold. -/
def shelved : Workspace :=
  shelves (asciiBytes "- deploy".toList) (asciiBytes "name: deploy".toList)
    (asciiBytes "name: ship".toList)

/-- An action of which nothing but the name is known. -/
def named (name : String) : Definition := ⟨name, "", "", [], "", [], [], [], none⟩

theorem load_named {bytes : List UInt8} {s : String} (hbytes : w.readBytes file = .ok bytes)
    (htext : Workspace.textOf bytes = .ok s)
    (hread : Yaml.read s = .ok (.map [(.text "name", .text name)])) (hname : name ≠ "") :
    Definition.load w file = .ok (named name) := by
  have hdefinition : Definition.read (.map [(.text "name", .text name)]) = .ok (named name) := rfl
  rw [Definition.load, Workspace.readText, hbytes]
  simp [htext, Except.bind, hread, Value.isSomething, hdefinition, named, hname]

theorem load_deploy :
    Definition.load shelved ⟨"", ["global", "deploy.yaml"]⟩ = .ok (named "deploy") := by
  have hbytes (sketch deploy ship : List UInt8) :
      (shelves sketch deploy ship).readBytes ⟨"", ["global", "deploy.yaml"]⟩ = .ok deploy := rfl
  have htext : Workspace.textOf (asciiBytes "name: deploy".toList) = .ok "name: deploy" :=
    textOf_asciiBytes (List.all_iff_forall_prop.1 (by cbv))
  have hread : Yaml.read "name: deploy" = .ok (.map [(.text "name", .text "deploy")]) := by cbv
  exact load_named (hbytes _ _ _) htext hread (by decide)

theorem load_ship :
    Definition.load shelved ⟨"", ["global", "publish.yaml"]⟩ = .ok (named "ship") := by
  have hbytes (sketch deploy ship : List UInt8) :
      (shelves sketch deploy ship).readBytes ⟨"", ["global", "publish.yaml"]⟩ = .ok ship :=
    rfl
  have htext : Workspace.textOf (asciiBytes "name: ship".toList) = .ok "name: ship" :=
    textOf_asciiBytes (List.all_iff_forall_prop.1 (by cbv))
  have hread : Yaml.read "name: ship" = .ok (.map [(.text "name", .text "ship")]) := by cbv
  exact load_named (hbytes _ _ _) htext hread (by decide)

theorem load_sketch : Definition.load shelved ⟨"", ["local", "deploy.yaml"]⟩ =
    .error (.actionShape "local/deploy.yaml") := by
  have hbytes (sketch deploy ship : List UInt8) :
      (shelves sketch deploy ship).readBytes ⟨"", ["local", "deploy.yaml"]⟩ = .ok sketch := rfl
  have htext : Workspace.textOf (asciiBytes "- deploy".toList) = .ok "- deploy" :=
    textOf_asciiBytes (List.all_iff_forall_prop.1 (by cbv))
  have hread : Yaml.read "- deploy" = .ok (.list [.text "deploy"]) := by cbv
  rw [Definition.load, Workspace.readText, shelved, hbytes]
  simp only [htext, Except.bind, hread]
  rfl

theorem entriesEnding_global : shelved.entriesEnding ⟨"", ["global"]⟩ fileEnding =
    [⟨"", ["global", "deploy.yaml"]⟩, ⟨"", ["global", "publish.yaml"]⟩] := by
  have hentries (sketch deploy ship : List UInt8) :
      (shelves sketch deploy ship).entriesEnding ⟨"", ["global"]⟩ fileEnding =
        [⟨"", ["global", "deploy.yaml"]⟩, ⟨"", ["global", "publish.yaml"]⟩] := by cbv
  exact hentries _ _ _

theorem isDirectory_global : shelved.isDirectory ⟨"", ["global"]⟩ = .ok true := rfl

theorem filesOf_global : filesOf shelved ⟨"", ["global"]⟩ =
    [⟨"", ["global", "deploy.yaml"]⟩, ⟨"", ["global", "publish.yaml"]⟩] := by
  rw [filesOf, isDirectory_global]
  exact entriesEnding_global

theorem listDirectory_global (l : Listing) : listDirectory shelved l ⟨"", ["global"]⟩ =
    .ok { l with found := addNew (addNew l.found (named "deploy")) (named "ship") } := by
  simp only [listDirectory, isDirectory_global, entriesEnding_global, List.foldlM_cons, listFile,
    load_deploy, load_ship]
  rfl

theorem listDirectory_local (l : Listing) : listDirectory shelved l ⟨"", ["local"]⟩ =
    .ok { l with warnings := l.warnings ++ ["Skipping invalid action config: " ++
      (Fault.actionShape "local/deploy.yaml").message] } := by
  have hentries (sketch deploy ship : List UInt8) :
      (shelves sketch deploy ship).entriesEnding ⟨"", ["local"]⟩ fileEnding =
        [⟨"", ["local", "deploy.yaml"]⟩] := by cbv
  have hdirectory : shelved.isDirectory ⟨"", ["local"]⟩ = .ok true := rfl
  have hfiles : shelved.entriesEnding ⟨"", ["local"]⟩ fileEnding =
      [⟨"", ["local", "deploy.yaml"]⟩] := hentries _ _ _
  simp only [listDirectory, hdirectory, hfiles, List.foldlM_cons, listFile, load_sketch]
  rfl

/-- An action that stands where its name says, and nothing in front. -/
theorem definition_of_listed_deploy :
    ∃ l, (Catalogue.mk [⟨"", ["global"]⟩] []).listing shelved = .ok l ∧
      ("deploy", named "deploy") ∈ l.found ∧
      (Catalogue.mk [⟨"", ["global"]⟩] []).definition shelved "deploy" = .ok (named "deploy") := by
  have hlisting : (Catalogue.mk [⟨"", ["global"]⟩] []).listing shelved =
      .ok ⟨addNew (addNew [] (named "deploy")) (named "ship"), []⟩ := by
    rw [listing, List.foldlM_cons, listDirectory_global]
    rfl
  have hlisted : ("deploy", named "deploy") ∈
      addNew (addNew [] (named "deploy")) (named "ship") := by
    refine List.mem_of_getElem? (i := 0) ?_
    cbv
  refine ⟨_, hlisting, hlisted, ?_⟩
  obtain ⟨front, p, file, hfirst, hdefinition⟩ := definition_of_listed shelved [⟨"", ["global"]⟩] _
    hlisting "deploy" (named "deploy") hlisted
  have honly : front = [] ∧ p = ⟨"", ["global"]⟩ := by
    obtain ⟨behind, hpaths⟩ := hfirst.directories
    cases front with
    | nil => exact ⟨rfl, (List.cons.inj hpaths).1⟩
    | cons q front => simp at hpaths
  obtain ⟨rfl, rfl⟩ := honly
  refine hdefinition ?_ (List.forall_mem_nil _)
  have hchild : Path.child ⟨"", ["global"]⟩ ("deploy" ++ fileEnding) =
      ⟨"", ["global", "deploy.yaml"]⟩ := by cbv
  obtain ⟨before, hbefore, -⟩ := hfirst.files
  have hmem : file ∈ filesOf shelved ⟨"", ["global"]⟩ := hbefore.subset (by simp)
  rw [filesOf_global, List.mem_pair] at hmem
  rcases hmem with rfl | rfl
  · exact hchild.symm
  · have hload := hfirst.load
    rw [load_ship] at hload
    exact absurd (congrArg Definition.name (Except.ok.inj hload)) (by decide)

/-- Both actions are listed, but the file that is no action is found for the one, and for the other
there is none. -/
theorem listed_not_found :
    ∃ l, (Catalogue.mk [⟨"", ["local"]⟩, ⟨"", ["global"]⟩] []).listing shelved = .ok l ∧
      l.found = [("deploy", named "deploy"), ("ship", named "ship")] ∧
      (Catalogue.mk [⟨"", ["local"]⟩, ⟨"", ["global"]⟩] []).definition shelved "deploy" =
        .error (.actionShape "local/deploy.yaml") ∧
      (Catalogue.mk [⟨"", ["local"]⟩, ⟨"", ["global"]⟩] []).definition shelved "ship" =
        .error (.actionUnknown "ship" "local, global") := by
  have hdeploy : Path.child ⟨"", ["local"]⟩ ("deploy" ++ fileEnding) =
      ⟨"", ["local", "deploy.yaml"]⟩ := by cbv
  have hfirst : Path.child ⟨"", ["local"]⟩ ("ship" ++ fileEnding) =
      ⟨"", ["local", "ship.yaml"]⟩ := by cbv
  have hsecond : Path.child ⟨"", ["global"]⟩ ("ship" ++ fileEnding) =
      ⟨"", ["global", "ship.yaml"]⟩ := by cbv
  have hfile : shelved.isFile ⟨"", ["local", "deploy.yaml"]⟩ = .ok true := rfl
  have hno : shelved.isFile ⟨"", ["local", "ship.yaml"]⟩ = .ok false := rfl
  have hnone : shelved.isFile ⟨"", ["global", "ship.yaml"]⟩ = .ok false := rfl
  have hlisting : (Catalogue.mk [⟨"", ["local"]⟩, ⟨"", ["global"]⟩] []).listing shelved =
      .ok ⟨addNew (addNew [] (named "deploy")) (named "ship"),
        ["Skipping invalid action config: " ++ (Fault.actionShape "local/deploy.yaml").message]⟩ := by
    simp only [listing, List.foldlM_cons, List.foldlM_nil, listDirectory_local,
      listDirectory_global]
    rfl
  have hfound : addNew (addNew [] (named "deploy")) (named "ship") =
      [("deploy", named "deploy"), ("ship", named "ship")] := by cbv
  refine ⟨_, hlisting, hfound, ?_, ?_⟩
  · simp only [definition, lookupField, file?, hdeploy, hfile, load_sketch]
  · simp only [definition, lookupField, file?, hfirst, hsecond, hno, hnone]
    cbv

end Catalogue

end Action

end Remediation
