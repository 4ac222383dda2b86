import Remediation.Json
import Remediation.Decimal.Notation
import Remediation.Text.Quoted
import Remediation.Text.Split
/-!
# Writing JSON

JSON values are written in a `Style`: with which separators, on one line or with one item a line,
and with all characters or with ASCII alone.
-/

set_option autoImplicit false

namespace Remediation

namespace Json

/-- How JSON is laid out. -/
structure Style where
  /-- Between two items on one line. -/
  itemGap : String
  /-- Between a key and its value. -/
  keyGap : String
  /-- The number of blanks that a level of nesting is moved in, with one item a line. -/
  indent : Option Nat
  /-- Whether characters outside ASCII are escaped. -/
  asciiOnly : Bool
  deriving DecidableEq, Repr, Inhabited

/-- The escape of a code of sixteen bits. -/
def escapeUnit (n : Nat) : List Char := '\\' :: 'u' :: Text.hexDigits 4 n

/-- The escape of a character by its code; a character beyond sixteen bits takes two. -/
def escapeCode (c : Char) : List Char :=
  if c.toNat < 0x10000 then escapeUnit c.toNat
  else
    let n := c.toNat - 0x10000
    escapeUnit (0xd800 + n / 0x400) ++ escapeUnit (0xdc00 + n % 0x400)

/-- How a character is written in a text. -/
def escapeChar (asciiOnly : Bool) (c : Char) : List Char :=
  if c = '"' ∨ c = '\\' then ['\\', c]
  else if c = '\n' then ['\\', 'n']
  else if c = '\r' then ['\\', 'r']
  else if c = '\t' then ['\\', 't']
  else if c = '\x08' then ['\\', 'b']
  else if c = '\x0c' then ['\\', 'f']
  else if c.toNat < 0x20 then escapeCode c
  else if asciiOnly && 0x7f ≤ c.toNat then escapeCode c
  else [c]

/-- A text between double quotes. -/
def writeText (asciiOnly : Bool) (s : String) : List Char :=
  '"' :: s.toList.flatMap (escapeChar asciiOnly) ++ ['"']

namespace Style

/-- What parts the items at a depth of nesting. -/
def itemBreak (style : Style) (depth : Nat) : List Char :=
  match style.indent with
  | none => style.itemGap.toList
  | some width => ',' :: '\n' :: List.replicate (width * depth) ' '

/-- What stands behind the opening bracket of items at a depth of nesting. -/
def openBreak (style : Style) (depth : Nat) : List Char :=
  match style.indent with
  | none => []
  | some width => '\n' :: List.replicate (width * depth) ' '

end Style

mutual

/-- A JSON value at a depth of nesting. -/
def write (style : Style) (depth : Nat) : Json → List Char
  | .null => "null".toList
  | .bool true => "true".toList
  | .bool false => "false".toList
  | .int n => Decimal.intDigits n
  | .float x => (Decimal.documentFloat.write x).toList
  | .text s => writeText style.asciiOnly s
  | .list [] => ['[', ']']
  | .list (v :: vs) =>
    '[' :: style.openBreak (depth + 1) ++ write style (depth + 1) v ++
      writeItems style (depth + 1) vs ++ style.openBreak depth ++ [']']
  | .map [] => ['\x7b', '\x7d']
  | .map ((k, v) :: fs) =>
    '\x7b' :: style.openBreak (depth + 1) ++ writeText style.asciiOnly k ++ style.keyGap.toList ++
      write style (depth + 1) v ++ writeFields style (depth + 1) fs ++ style.openBreak depth ++
      ['\x7d']

/-- The further items of a list. -/
def writeItems (style : Style) (depth : Nat) : List Json → List Char
  | [] => []
  | v :: vs => style.itemBreak depth ++ write style depth v ++ writeItems style depth vs

/-- The further fields of a map. -/
def writeFields (style : Style) (depth : Nat) : List (String × Json) → List Char
  | [] => []
  | (k, v) :: fs =>
    style.itemBreak depth ++ writeText style.asciiOnly k ++ style.keyGap.toList ++
      write style depth v ++ writeFields style depth fs

end

section

variable (style : Style) (depth : Nat)

theorem write_int (n : Int) : (Json.int n).write style depth = Decimal.intDigits n := rfl

theorem write_text (s : String) :
    (Json.text s).write style depth = writeText style.asciiOnly s := rfl

theorem write_noItems : (Json.list []).write style depth = ['[', ']'] := rfl

theorem write_items (v : Json) (vs : List Json) :
    (Json.list (v :: vs)).write style depth =
      '[' :: style.openBreak (depth + 1) ++ v.write style (depth + 1) ++
        writeItems style (depth + 1) vs ++ style.openBreak depth ++ [']'] := rfl

theorem write_noFields : (Json.map []).write style depth = ['\x7b', '\x7d'] := rfl

theorem write_fields (e : String × Json) (fs : List (String × Json)) :
    (Json.map (e :: fs)).write style depth =
      '\x7b' :: style.openBreak (depth + 1) ++ writeText style.asciiOnly e.1 ++
        style.keyGap.toList ++ e.2.write style (depth + 1) ++ writeFields style (depth + 1) fs ++
        style.openBreak depth ++ ['\x7d'] := rfl

theorem writeItems_nil : writeItems style depth [] = [] := rfl

theorem writeItems_cons (v : Json) (vs : List Json) :
    writeItems style depth (v :: vs) =
      style.itemBreak depth ++ v.write style depth ++ writeItems style depth vs := rfl

theorem writeFields_nil : writeFields style depth [] = [] := rfl

theorem writeFields_cons (e : String × Json) (fs : List (String × Json)) :
    writeFields style depth (e :: fs) =
      style.itemBreak depth ++ writeText style.asciiOnly e.1 ++ style.keyGap.toList ++
        e.2.write style depth ++ writeFields style depth fs := rfl

end

/-- A JSON value as text. -/
def render (style : Style) (j : Json) : String := String.ofList (j.write style 0)

/-- On one line, in ASCII, with a blank behind commas and colons. -/
def lineStyle : Style := ⟨", ", ": ", none, true⟩

/-- One item a line, moved in by two blanks a level, in ASCII. -/
def blockStyle : Style := ⟨", ", ": ", some 2, true⟩

end Json

end Remediation
