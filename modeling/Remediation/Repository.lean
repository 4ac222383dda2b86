import Remediation.Session
import Remediation.Toml
/-!
# Repositories

What a directory that is checked out from a repository tells: where the repository is, who owns it,
and what the project is called.  Whatever cannot be found out is left out.
-/

set_option autoImplicit false

namespace Remediation

namespace Repository

/-- A list without the characters at its end that are `c`. -/
def trimEnd (c : Char) (cs : List Char) : List Char := (cs.reverse.dropWhile (· = c)).reverse

/-- A list without `ending`, if it ends in it. -/
def dropEnding (ending cs : List Char) : List Char :=
  if ending.isSuffixOf cs then cs.take (cs.length - ending.length) else cs

/-- What the names of repositories may end in. -/
def nameEnding : List Char := ['.', 'g', 'i', 't']

/-- The parts of an address: slashes and colons part them, and slashes at the end part nothing. -/
def addressParts (address : List Char) : List (List Char) :=
  Text.splitChars '/' (trimEnd '/' (address.map fun c => if c = ':' then '/' else c))

/-- The owner and the name of the repository at an address, if it has so many parts. -/
def ownerAndName? (address : List Char) : Option (List Char × List Char) :=
  match (addressParts address).reverse with
  | name :: owner :: _ => some (owner, dropEnding nameEnding name)
  | _ => none

/-- What the address of a repository tells. -/
def addressFields (address : String) : Fields :=
  ("project_repo", .text address) ::
    match ownerAndName? address.toList with
    | some (owner, name) =>
      [("organization", .text (String.ofList owner)), ("repo_name", .text (String.ofList name))]
    | none => []

/-- The command that prints where a repository is. -/
def addressCommand : List String := ["git", "config", "--get", "remote.origin.url"]

/-- Where the repository of a directory is, if that can be found out. -/
def address? (directory : Path) : Work (Option String) := do
  match ← Work.launch addressCommand (some directory.text) with
  | .failure _ => return none
  | .exit status output _ =>
    let address := Text.strip output
    return if status ≠ 0 ∨ address = "" then none else some address

/-- A name, if it is one. -/
def nameOf? : Option Value → Option String
  | some (.text s) => if s = "" then none else some s
  | _ => none

/-- The name in a package description. -/
def packageName? (w : Workspace) (p : Path) : Option String :=
  match w.readText p with
  | .error _ => none
  | .ok s =>
    match Json.read Json.lenient s with
    | .ok (.map fields) => nameOf? ((lookupField fields "name").map Json.toValue)
    | _ => none

/-- The name that the value of a project description holds. -/
def describedName? (v : Value) : Except Fault (Option String) :=
  match v with
  | .map es =>
    match entryAt? es "project" with
    | none => .ok none
    | some (.map project) => .ok (nameOf? (entryAt? project "name"))
    | some v => .error (.noMatch v.typeName "get")
  | _ => .ok none

/-- The name in a project description; one that is no document holds none. -/
def projectName? (w : Workspace) (p : Path) : Except Fault (Option String) := do
  let bytes ← w.readBytes p
  let s ← (Text.decodeUtf8 bytes).mapError .undecodable
  match Toml.read s with
  | .error .toml => return none
  | .error e => throw e
  | .ok v => describedName? v

/-- The name of the project in a directory, if there is one. -/
def name? (w : Workspace) (directory : Path) : Except Fault (Option String) := do
  let package := directory.child "package.json"
  let project := directory.child "pyproject.toml"
  if ← w.isFile package then
    if let some name := packageName? w package then return some name
  if ← w.isFile project then return ← projectName? w project
  return none

/-- What a directory tells, or the current one. -/
def explore (directory : Option Path) : Work Fields := do
  let w ← Work.workspace
  let directory := directory.getD w.current
  if !(← w.isDirectory directory) then throw (.repositoryAbsent directory.text)
  let place := match ← address? directory with
    | some address => addressFields address
    | none => []
  match ← name? w directory with
  | some name => return setField place "project_name" (.text name)
  | none => return place

end Repository

end Remediation
