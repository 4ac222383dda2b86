import Remediation.Action.Catalogue
import Remediation.Plan.Graph.Picture
/-!
# Sessions

What the program does to its surroundings.  A session holds the files, the actions that are known, what
the commands that are run and the person who is asked will answer, and, in order, what has been
printed, reported, called and drawn.

Work in a session gives a result or a fault, and what was done before a fault stays done.
-/

set_option autoImplicit false

namespace Remediation

/-- How serious a report is. -/
inductive Level where
  | warning
  | error
  deriving DecidableEq, Repr, Inhabited

/-- How a command ends. -/
inductive Ending where
  | exit (status : Int) (output errors : String)
  /-- It cannot be started. -/
  | failure (reason : String)
  deriving DecidableEq, Repr, Inhabited

namespace Ending

/-- A command that says nothing. -/
def silent : Ending := .exit 0 "" ""

end Ending

/-- What a person answers. -/
inductive Answer where
  | given (s : String)
  | interrupt
  /-- There are no more answers. -/
  | closed
  deriving DecidableEq, Repr, Inhabited

/-- A call to the outside. -/
inductive Call where
  /-- A command with its arguments, run in a directory. -/
  | command (argv : List String) (directory : Option String)
  /-- An action that is no command. -/
  | action (name : String) (params : Fields)
  deriving Inhabited, BEq

/-- The surroundings of the program. -/
structure Session where
  workspace : Workspace
  catalogue : Action.Catalogue
  /-- How the next commands end. -/
  endings : List Ending
  /-- How all commands behind those end. -/
  lastEnding : Ending
  /-- What is answered to the next questions. -/
  answers : List Answer
  /-- Whether a question has found no answer. -/
  waiting : Bool
  printed : String
  reports : List (Level × String)
  calls : List Call
  /-- The pictures that were drawn, with the paths of their files. -/
  pictures : List (String × Picture)
  deriving Inhabited

/-- Work in a session. -/
abbrev Work (α : Type) := ExceptT Fault (StateM Session) α

namespace Session

/-- A session in which nothing has been done. -/
def start (w : Workspace) (c : Action.Catalogue) : Session :=
  ⟨w, c, [], .silent, [], false, "", [], [], []⟩

/-- Print a text. -/
def print (s : Session) (text : String) : Session := { s with printed := s.printed ++ text }

/-- Print a line. -/
def printLine (s : Session) (line : String) : Session := s.print (line ++ "\n")

/-- Report something. -/
def report (s : Session) (level : Level) (text : String) : Session :=
  { s with reports := s.reports ++ [(level, text)] }

/-- Record a call. -/
def record (s : Session) (c : Call) : Session := { s with calls := s.calls ++ [c] }

/-- Draw a picture into a file. -/
def draw (s : Session) (path : String) (p : Picture) : Session :=
  { s with pictures := s.pictures ++ [(path, p)] }

/-- Run a command. -/
def launch (s : Session) (argv : List String) (directory : Option String) : Ending × Session :=
  let s := s.record (.command argv directory)
  match s.endings with
  | [] => (s.lastEnding, s)
  | e :: rest => (e, { s with endings := rest })

/-- The definition of an action, which is known afterwards. -/
def definition (s : Session) (name : String) : Except Fault Action.Definition × Session :=
  let (d, c) := s.catalogue.learn s.workspace name
  (d, { s with catalogue := c })

/-- Ask a question. -/
def ask (s : Session) (question : String) : Answer × Session :=
  let s := s.print question
  match s.answers with
  | [] => (.closed, { s with waiting := true })
  | a :: rest => (a, { s with answers := rest })

end Session

namespace Work

/-- The files. -/
def workspace : Work Workspace := do return (← get).workspace

/-- Print a line. -/
def printLine (line : String) : Work Unit := modify (·.printLine line)

/-- Warn of something. -/
def warn (text : String) : Work Unit := modify (·.report .warning text)

/-- Run a command. -/
def launch (argv : List String) (directory : Option String) : Work Ending :=
  modifyGet (·.launch argv directory)

/-- The definition of an action. -/
def definition (name : String) : Work Action.Definition := do
  match ← modifyGet (·.definition name) with
  | .ok d => return d
  | .error e => throw e

/-- Ask a question. -/
def ask (question : String) : Work Answer := modifyGet (·.ask question)

end Work

end Remediation
