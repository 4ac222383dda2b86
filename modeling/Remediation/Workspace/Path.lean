import Remediation.Text.Split
/-!
# Paths

A path is a list of names below a root, or below the current directory if it has none.  Reading a
path leaves out empty names and the name of the directory itself, and keeps the name of the directory
above: what that is, only the directories can say.
-/

set_option autoImplicit false

namespace Remediation

/-- A path. -/
structure Path where
  /-- What the path starts with; empty if it starts at the current directory. -/
  root : String
  names : List String
  deriving DecidableEq, Repr, Inhabited

namespace Path

/-- The root of a text: two slashes stay two, any other number counts as one. -/
def rootOf (cs : List Char) : String :=
  match cs with
  | '/' :: '/' :: '/' :: _ => "/"
  | '/' :: '/' :: _ => "//"
  | '/' :: _ => "/"
  | _ => ""

/-- Whether a name leads anywhere else. -/
def isStep (name : String) : Bool := name != "" && name != "."

/-- The path of a text. -/
def parse (s : String) : Path :=
  ⟨rootOf s.toList, (Text.split '/' s).filter isStep⟩

/-- The text of a path. -/
def text (p : Path) : String :=
  if p.root = "" ∧ p.names = [] then "." else p.root ++ Text.join "/" p.names

/-- Whether the path starts at a root. -/
def isAbsolute (p : Path) : Bool := p.root != ""

/-- A path below another one; a path that starts at a root stays as it is. -/
def append (p q : Path) : Path := if q.isAbsolute then q else ⟨p.root, p.names ++ q.names⟩

instance : HAppend Path Path Path := ⟨append⟩

/-- A name below a path. -/
def child (p : Path) (name : String) : Path := p ++ parse name

/-- The path without its last name. -/
def parent (p : Path) : Path := ⟨p.root, p.names.dropLast⟩

/-- The last name. -/
def name (p : Path) : String := p.names.getLast?.getD ""

/-- A name cut before its last point, if there is something on both sides of it. -/
def cutSuffix (name : String) : String × String :=
  let cs := name.toList
  let behind := (cs.reverse.takeWhile (· ≠ '.')).reverse
  let before := cs.take (cs.length - behind.length - 1)
  if behind.isEmpty || before.isEmpty || behind.length == cs.length then (name, "")
  else (String.ofList before, String.ofList ('.' :: behind))

/-- The last name without what is behind its last point. -/
def stem (p : Path) : String := (cutSuffix p.name).1

/-- The last point of the last name and what is behind it. -/
def suffix (p : Path) : String := (cutSuffix p.name).2

/-- A path whose first name is a tilde starts at the home directory; the homes of others are not
known. -/
def fromHome? (home p : Path) : Option Path :=
  match p.isAbsolute, p.names with
  | false, first :: rest =>
    if first = "~" then some ⟨home.root, home.names ++ rest⟩
    else if first.toList.head? = some '~' then none
    else some p
  | _, _ => some p

theorem append_absolute (p : Path) {q : Path} (h : q.isAbsolute = true) : p ++ q = q := by
  show append p q = q
  simp [append, h]

/-- Reading a text gives names that all lead somewhere. -/
theorem isStep_of_mem_parse {s name : String} (h : name ∈ (parse s).names) : isStep name = true :=
  (List.mem_filter.1 h).2

end Path

end Remediation
