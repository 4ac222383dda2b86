import Remediation.Fault
import Remediation.Workspace.Path
/-!
# The workspace

The files that the program reads and writes: a tree of directories, with a current directory and a
home directory in it.  A path is followed name by name, so a path through a directory that is not
there leads nowhere, even if it leads out of it again.
-/

set_option autoImplicit false

namespace Remediation

/-- A file, or a directory of entries of different names. -/
inductive FileTree where
  | file (bytes : List UInt8)
  | directory (entries : List (String × FileTree))
  deriving Inhabited

namespace FileTree

/-- Whether this is a directory. -/
def isDirectory : FileTree → Bool
  | .directory _ => true
  | .file _ => false

/-- The entry under the names of a list, one below the other. -/
def entry? (t : FileTree) : List String → Option FileTree
  | [] => some t
  | name :: names =>
    match t with
    | .directory entries =>
      match lookupField entries name with
      | some u => u.entry? names
      | none => none
    | .file _ => none

/-- Put a tree under the names of a list, making the directories on the way. -/
def put (t new : FileTree) : List String → FileTree
  | [] => new
  | name :: names =>
    let entries := match t with
      | .directory entries => entries
      | .file _ => []
    let under := (lookupField entries name).getD (.directory [])
    .directory (setField entries name (under.put new names))

/-- Take away what is under the names of a list. -/
def remove (t : FileTree) : List String → FileTree
  | [] => t
  | [name] =>
    match t with
    | .directory entries => .directory (entries.filter fun (k, _) => k != name)
    | t => t
  | name :: names =>
    match t with
    | .directory entries =>
      .directory (entries.map fun (k, u) => (k, if k = name then u.remove names else u))
    | t => t

mutual

/-- The files of a tree, with the names that lead to them. -/
def files : FileTree → List (List String × List UInt8)
  | .file bytes => [([], bytes)]
  | .directory entries => filesOf entries

/-- The files of the entries of a directory. -/
def filesOf : List (String × FileTree) → List (List String × List UInt8)
  | [] => []
  | (name, t) :: es => t.files.map (fun (names, bytes) => (name :: names, bytes)) ++ filesOf es

end

end FileTree

/-- The files, and where paths start. -/
structure Workspace where
  tree : FileTree
  /-- The current directory. -/
  current : Path
  home : Path
  deriving Inhabited

namespace Workspace

/-- The most bytes that a name may have. -/
def nameLimit : Nat := 255

/-- Follow names from a directory, whose names from the root are given in reverse. -/
def walk (tree : FileTree) (path : Path) (place : List String) :
    List String → Except FileFault (List String)
  | [] => .ok place
  | name :: names =>
    match tree.entry? place.reverse with
    | none => .error (.absent path.text)
    | some (.file _) => .error (.notDirectory path.text)
    | some (.directory entries) =>
      if name = ".." then walk tree path place.tail names
      else if nameLimit < name.utf8ByteSize then .error (.nameTooLong path.text)
      else
        match lookupField entries name with
        | some _ => walk tree path (name :: place) names
        | none => .error (.absent path.text)

/-- The names from the root to where a path starts, in reverse. -/
def startOf (w : Workspace) (p : Path) : List String :=
  if p.isAbsolute then [] else w.current.names.reverse

/-- The names from the root to what a path leads to. -/
def locate (w : Workspace) (p : Path) : Except FileFault (List String) :=
  (walk w.tree p (w.startOf p) p.names).map List.reverse

/-- What a path leads to. -/
def find (w : Workspace) (p : Path) : Except FileFault FileTree :=
  match w.locate p with
  | .error e => .error e
  | .ok names =>
    match w.tree.entry? names with
    | some t => .ok t
    | none => .error (.absent p.text)

/-- Whether a path can name no file at all. -/
def isNameless (p : Path) : Bool := p.names.any fun name => name.toList.contains '\x00'

/-- What a path leads to, if it leads anywhere; a name that is too long cannot be followed. -/
def find? (w : Workspace) (p : Path) : Except Fault (Option FileTree) :=
  if isNameless p then .ok none
  else
    match w.find p with
    | .ok t => .ok (some t)
    | .error (.nameTooLong path) => .error (.file (.nameTooLong path))
    | .error _ => .ok none

/-- Whether a path leads to a file. -/
def isFile (w : Workspace) (p : Path) : Except Fault Bool :=
  (w.find? p).map fun t => t.any (!·.isDirectory)

/-- Whether a path leads to a directory. -/
def isDirectory (w : Workspace) (p : Path) : Except Fault Bool :=
  (w.find? p).map fun t => t.any (·.isDirectory)

/-- The bytes of a file. -/
def readBytes (w : Workspace) (p : Path) : Except Fault (List UInt8) :=
  if isNameless p then .error .zeroByte
  else
    match w.find p with
    | .ok (.file bytes) => .ok bytes
    | .ok (.directory _) => .error (.file (.directory p.text))
    | .error e => .error (.file e)

/-- A text in which every end of a line is a line feed. -/
def unifyLines : List Char → List Char
  | '\r' :: '\n' :: cs => '\n' :: unifyLines cs
  | '\r' :: cs => '\n' :: unifyLines cs
  | c :: cs => c :: unifyLines cs
  | [] => []

/-- The text of bytes. -/
def textOf (bytes : List UInt8) : Except Fault String :=
  match Text.decodeUtf8 bytes with
  | .ok s => .ok (String.ofList (unifyLines s.toList))
  | .error e => .error (.undecodable e)

/-- The text of a file. -/
def readText (w : Workspace) (p : Path) : Except Fault String :=
  match w.readBytes p with
  | .error e => .error e
  | .ok bytes => textOf bytes

/-- Write a file, whose directory has to be there. -/
def writeText (w : Workspace) (p : Path) (s : String) : Except Fault Workspace :=
  if isNameless p then .error .zeroByte
  else
    match w.find p with
    | .ok (.directory _) => .error (.file (.directory p.text))
    | _ =>
      match walk w.tree p (w.startOf p) p.names.dropLast with
      | .error e => .error (.file e)
      | .ok place =>
        match w.tree.entry? place.reverse, p.names.getLast? with
        | some (.directory _), some name =>
          if nameLimit < name.utf8ByteSize then .error (.file (.nameTooLong p.text))
          else
            let bytes := s.toUTF8.toList
            .ok { w with tree := w.tree.put (.file bytes) (place.reverse ++ [name]) }
        | some (.file _), _ => .error (.file (.notDirectory p.text))
        | _, _ => .error (.file (.absent p.text))

/-- The paths of the entries of a directory whose names end in `ending`, in the order of their
names. -/
def entriesEnding (w : Workspace) (p : Path) (ending : String) : List Path :=
  match w.find p with
  | .ok (.directory entries) =>
    let names := (entries.map Prod.fst).filter fun name => ending.toList.isSuffixOf name.toList
    (names.mergeSort fun a b => a ≤ b).map p.child
  | _ => []

/-- A path whose first name is a tilde, started at the home directory. -/
def expand (w : Workspace) (p : Path) : Except Fault Path :=
  match Path.fromHome? w.home p with
  | some q => .ok q
  | none => .error (.raised "Could not determine home directory.")

end Workspace

end Remediation
