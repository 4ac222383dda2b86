/-!
# Runs of codes

A set of characters may be given by its runs of codes, which are spelled in hexadecimal, the first and
the last code of a run with a hyphen between them.
-/

set_option autoImplicit false

namespace Remediation.Text

/-- Runs of codes from the first to the last one. -/
abbrev Runs := List (Nat × Nat)

/-- The value of a hexadecimal digit in lower case. -/
def runDigit (c : Char) : Nat := if c.isDigit then c.toNat - '0'.toNat else c.toNat - 'a'.toNat + 10

/-- The runs that are spelled behind one that is read: the code so far, and the code before the hyphen
if that has been read. -/
def readRunsAux (code : Nat) (first : Option Nat) : List Char → Runs
  | [] => [(first.getD code, code)]
  | '-' :: cs => readRunsAux 0 (some code) cs
  | ' ' :: cs => (first.getD code, code) :: readRunsAux 0 none cs
  | c :: cs => readRunsAux (code * 16 + runDigit c) first cs

/-- The runs that a text spells. -/
def readRuns (s : String) : Runs := readRunsAux 0 none s.toList

/-- Whether a code is in one of the runs. -/
def inRuns (runs : Runs) (n : Nat) : Bool := runs.any fun (first, last) => first ≤ n && n ≤ last

end Remediation.Text
