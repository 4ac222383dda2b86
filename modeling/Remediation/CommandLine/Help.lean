import Remediation.CommandLine.Grammar
/-!
# Explanations of a grammar

A grammar can be explained in short, by a line that shows how a command line is written, and in full,
with what each switch and argument is for.  Names stand on the left of a full explanation and what they
are for on the right, in columns whose place depends on the longest name.
-/

set_option autoImplicit false

namespace Remediation

namespace CommandLine

/-- The length of a full line. -/
def lineWidth : Nat := 78

/-- Where the right column starts at the latest. -/
def columnLimit : Nat := 24

/-- Blanks. -/
def blanks (n : Nat) : String := String.ofList (List.replicate n ' ')

/-- Distribute pieces over lines of a length: a piece starts a new line if it does not fit on the line
that is being filled, of which a part is used already.  Lines behind the first one are indented. -/
def fill (width indent : Nat) : Nat → List String → List String → List (List String)
  | _, [], [] => []
  | _, line, [] => [line]
  | used, [], piece :: pieces => fill width indent (used + piece.length) [piece] pieces
  | used, line, piece :: pieces =>
    if used + 1 + piece.length ≤ width then
      fill width indent (used + 1 + piece.length) (line ++ [piece]) pieces
    else line :: fill width indent (indent + piece.length) [piece] pieces

/-- No piece is lost or moved. -/
theorem flatten_fill (width indent : Nat) (pieces : List String) :
    ∀ (used : Nat) (line : List String),
      (fill width indent used line pieces).flatten = line ++ pieces := by
  induction pieces with
  | nil => intro used line; cases line <;> simp [fill]
  | cons piece pieces ih =>
    intro used line
    cases line with
    | nil => simp [fill, ih]
    | cons first line =>
      simp only [fill]
      split <;> simp [ih]

/-- The lines of a text, broken at blanks. -/
def wrap (width : Nat) (s : String) : List String :=
  (fill width 0 0 [] ((Text.split ' ' s).filter (· != ""))).map (Text.join " ")

namespace Positional

/-- What is written for a positional argument, in pieces. -/
def pieces (p : Positional) : List String :=
  match p.form with
  | .one => [p.name]
  | .optional => ["[" ++ p.name ++ "]"]
  | .command choices =>
    ["\x7b" ++ Text.join "," (choices.map Prod.fst) ++ "\x7d", "..."]

/-- The name of a positional argument in the left column. -/
def heading (p : Positional) : String :=
  match p.form with
  | .command _ => p.pieces.headD ""
  | _ => p.name

end Positional

namespace Switch

/-- A name of a switch with what stands for its value. -/
def spelled (s : Switch) (name : String) : String :=
  if s.takesValue then name ++ " " ++ s.sample else name

/-- What is written for a switch, in pieces. -/
def pieces (s : Switch) : List String :=
  if s.required then Text.split ' ' (s.spelled s.key) else ["[" ++ s.spelled s.key ++ "]"]

/-- The names of a switch in the left column. -/
def heading (s : Switch) : String := Text.join ", " (s.names.map s.spelled)

end Switch

/-- A row of an explanation. -/
structure HelpRow where
  indent : Nat
  heading : String
  about : String
  deriving DecidableEq, Repr, Inhabited

namespace HelpRow

/-- The lines of a row whose right column starts at a place.  A heading that is too long for the left
column stands alone. -/
def lines (column : Nat) (r : HelpRow) : List String :=
  let front := blanks r.indent ++ r.heading
  let right := wrap (lineWidth - column) r.about
  match right with
  | [] => [front]
  | first :: rest =>
    let below := rest.map (blanks column ++ ·)
    if front.length + 2 ≤ column then
      (front ++ blanks (column - front.length) ++ first) :: below
    else front :: (blanks column ++ first) :: below

end HelpRow

namespace Grammar

/-- The usage of a grammar, on one line if it fits there. -/
def usage (g : Grammar) : String :=
  let front := "usage: "
  let switches := g.switches.flatMap Switch.pieces
  let arguments := g.positional.toList.flatMap Positional.pieces
  let line := front ++ Text.join " " (g.program :: switches ++ arguments)
  if line.length ≤ lineWidth then line ++ "\n"
  else
    let indent := front.length + g.program.length + 1
    let above := (fill lineWidth indent front.length [] (g.program :: switches)).map (Text.join " ")
    let below := (fill lineWidth indent indent [] arguments).map (Text.join " ")
    front ++ Text.join ("\n" ++ blanks indent) (above ++ below) ++ "\n"

/-- The rows for the positional argument. -/
def argumentRows (g : Grammar) : List HelpRow :=
  g.positional.toList.flatMap fun p =>
    ⟨2, p.heading, p.about⟩ ::
      match p.form with
      | .command choices => choices.map fun (name, about) => ⟨4, name, about⟩
      | _ => []

/-- The rows for the switches. -/
def switchRows (g : Grammar) : List HelpRow :=
  g.switches.map fun s => ⟨2, s.heading, s.about⟩

/-- Where the right column starts. -/
def column (g : Grammar) : Nat :=
  let widest := ((g.argumentRows ++ g.switchRows).map fun r => r.heading.length).foldl max 0
  min (widest + 4) columnLimit

/-- A part of an explanation; none if it has no rows. -/
def helpSection (g : Grammar) (title : String) : List HelpRow → List String
  | [] => []
  | rows => [Text.join "\n" ((title ++ ":") :: rows.flatMap (HelpRow.lines g.column)) ++ "\n"]

/-- The full explanation of a grammar. -/
def help (g : Grammar) : String :=
  Text.join "\n" (g.usage ::
    (if g.about = "" then [] else [Text.join "\n" (wrap lineWidth g.about) ++ "\n"]) ++
      g.helpSection "positional arguments" g.argumentRows ++
      g.helpSection "options" g.switchRows)

end Grammar

end CommandLine

end Remediation
