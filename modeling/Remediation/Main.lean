import Remediation.CommandLine
import Remediation.Plan.Graph.Picture
/-!
# The program

The command line on a real machine.  The files that a command can need are read first, the command is
carried out on them, and the files that have changed are written.  Questions are answered by the lines
of the standard input: when one finds no answer, a line is read and the command is carried out again
from the start.  Commands that a plan has are not run: each counts as one that cannot be started.
-/

set_option autoImplicit false

namespace Remediation

namespace Program

/-- How many directories lie one in another at most in what is read. -/
def depthLimit : Nat := 32

/-- How many bytes a file that is read has at most. -/
def sizeLimit : Nat := 0x1000000

/-- Why no command is run. -/
def notRun : String := "commands are not run here"

/-- What is under a path; none if it cannot be read. -/
def loadTree : Nat → String → IO (Option FileTree)
  | 0, _ => return none
  | depth + 1, path => do
    let place := (← IO.currentDir) / path
    try
      if ← place.isDir then
        let entries ← (← place.readDir).toList.filterMapM fun entry => do
          let tree ← loadTree depth (path ++ "/" ++ entry.fileName)
          return tree.map fun t => (entry.fileName, t)
        return some (.directory entries)
      else if (← place.metadata).byteSize.toNat ≤ sizeLimit then
        return some (.file (← IO.FS.readBinFile place).toList)
      else return none
    catch _ => return none

/-- Add what is at a path to a workspace, and the directory around it. -/
def addPlace (w : Workspace) (path : Path) : IO Workspace := do
  let path := w.current ++ path
  let add (w : Workspace) (p : Path) (tree : FileTree) : Workspace :=
    if (w.tree.entry? p.names).isSome then w else { w with tree := w.tree.put tree p.names }
  let w := if ← ((← IO.currentDir) / path.parent.text).isDir
    then add w path.parent (.directory []) else w
  match ← loadTree depthLimit path.text with
  | some tree => return add w path tree
  | none => return w

/-- A path without the names that lead out of directories again. -/
def direct (p : Path) : Path :=
  ⟨p.root, (p.names.foldl (fun names name => if name = ".." then names.tail else name :: names)
    []).reverse⟩

/-- The paths that a command can need. -/
def places (w : Workspace) (s : Settings) (c : Command) : List Path :=
  let named := (c.paths ++ [s.ruleDirectory, s.defaultsPath, s.workingDir]).filter (· ≠ "")
  let stored := s.actionDirectories.filterMap fun d => (w.expand (Path.parse d)).toOption
  let rules := match c with
    | .generate a => [(Path.parse a.rules).parent]
    | _ => []
  let base := s.base w
  (rules ++ named.map Path.parse ++ stored.map (base ++ ·)).map fun p => direct (w.current ++ p)

/-- The workspace for the words of a command line. -/
def workspace (environment : List (String × String)) (words : List String) : IO Workspace := do
  let current := Path.parse (← IO.currentDir).toString
  let home := Path.parse ((environment.lookup "HOME").getD "/")
  let empty : Workspace := ⟨(FileTree.directory []).put (.directory []) current.names, current, home⟩
  match CommandLine.readWords words with
  | .error _ => return empty
  | .ok (_, command) =>
    let tree := (← loadTree depthLimit current.text).getD (.directory [])
    let w := { empty with tree := empty.tree.put tree current.names }
    (places w (.ofEnvironment environment) command).foldlM addPlace w

/-- Write the files that differ between two workspaces. -/
def writeChanges (before after : Workspace) : IO Unit :=
  after.tree.files.forM fun (names, bytes) => do
    let same := match before.tree.entry? names with
      | some (.file old) => old == bytes
      | _ => false
    if !same then IO.FS.writeBinFile (Path.mk "/" names).text ⟨bytes.toArray⟩

/-- Carry out a command line with answers, and read more of them as long as a question has none: what
has been printed before is not printed again. -/
partial def converse (start : Session) (environment : List (String × String)) (words : List String)
    (shown : Nat) (answers : List Answer) : IO (CommandLine.Finish × Session) := do
  let (finish, s) := (CommandLine.run environment words).run { start with answers := answers }
  IO.print (String.ofList (s.printed.toList.drop shown))
  if !s.waiting then return (finish, s)
  (← IO.getStdout).flush
  let line ← (← IO.getStdin).getLine
  if line = "" then return (finish, s)
  let answer := if line.endsWith "\n" then String.ofList line.toList.dropLast else line
  converse start environment words s.printed.length (answers ++ [.given answer])

/-- The word for a level. -/
def levelWord : Level → String
  | .warning => "WARNING "
  | .error => "ERROR   "

/-- Run the program. -/
def run (words : List String) : IO UInt32 := do
  let environment ← ("HOME" :: Settings.variableNames).filterMapM fun name => do
    return (← IO.getEnv name).map fun value => (name, value)
  let w ← workspace environment words
  let start := { Session.start w ⟨[], []⟩ with lastEnding := .failure notRun }
  let (finish, s) ← converse start environment words 0 []
  s.reports.forM fun (level, text) => IO.eprintln (levelWord level ++ "  " ++ text)
  writeChanges w s.workspace
  s.pictures.forM fun (path, picture) => IO.FS.writeFile path picture.page
  IO.eprint finish.errors
  match finish.exit with
  | .status n => return UInt32.ofNat n
  | .fault e =>
    IO.eprintln e.message
    return 1

end Program

end Remediation

/-- The program. -/
def main (words : List String) : IO UInt32 := Remediation.Program.run words
