import Remediation.Toml.Scalar
import Remediation.Toml.Table
/-!
# Reading TOML

A document is a list of lines: headers, which declare tables, and pairs of key and value, which belong
to the table of the last header.  `Toml.read` gives the map of the document.
-/

set_option autoImplicit false

namespace Remediation.Toml

/-- What is behind a remark, if one is here: the end of its line. -/
def skipRemark (cs : List Char) : Except Fault (List Char) :=
  match cs with
  | '#' :: rest =>
    if (rest.takeWhile (· ≠ '\n')).any isIllegal then .error .toml
    else .ok (rest.dropWhile (· ≠ '\n'))
  | _ => .ok cs

/-- Skip blanks, ends of lines and remarks. -/
def skipWide : Nat → List Char → Except Fault (List Char)
  | 0, cs => .ok cs
  | fuel + 1, cs =>
    match cs.dropWhile isWideGap with
    | '#' :: rest => (skipRemark ('#' :: rest)).bind (skipWide fuel)
    | rest => .ok rest

/-- A word for a truth value, if one is here. -/
def readTruth? (cs : List Char) : Option (Value × List Char) :=
  match Text.dropLead? ['t', 'r', 'u', 'e'] cs with
  | some rest => some (.bool true, rest)
  | none => (Text.dropLead? ['f', 'a', 'l', 's', 'e'] cs).map fun rest => (.bool false, rest)

/-- A value without parts. -/
def readPlain (cs : List Char) : Reading Value :=
  match readText? cs with
  | some r => r.map fun (s, rest) => (.text (String.ofList s), rest)
  | none =>
    match readTruth? cs with
    | some found => .ok found
    | none =>
      match readMoment? cs with
      | some r => r.map fun (m, rest) => (.scalar (.moment m), rest)
      | none => (readNumber? cs).getD (.error .toml)

mutual

/-- A value. -/
def readValue (fuel : Nat) (cs : List Char) : Reading Value :=
  match fuel with
  | 0 => .error .toml
  | fuel + 1 =>
    match cs with
    | '[' :: rest =>
      match skipWide rest.length rest with
      | .error e => .error e
      | .ok rest => (readItems fuel rest).map fun (items, rest) => (.list items, rest)
    | '\x7b' :: rest =>
      match skipGap rest with
      | '\x7d' :: rest => .ok (.map [], rest)
      | rest => (readPairs fuel [] rest).map fun (es, rest) => (.map (toEntries es), rest)
    | cs => readPlain cs

/-- The items of a list, up to and with its closing bracket. -/
def readItems (fuel : Nat) (cs : List Char) : Reading (List Value) :=
  match fuel with
  | 0 => .error .toml
  | fuel + 1 =>
    match cs with
    | ']' :: rest => .ok ([], rest)
    | cs =>
      match readValue fuel cs with
      | .error e => .error e
      | .ok (v, rest) =>
        match skipWide rest.length rest with
        | .error e => .error e
        | .ok (']' :: rest) => .ok ([v], rest)
        | .ok (',' :: rest) =>
          match skipWide rest.length rest with
          | .error e => .error e
          | .ok rest => (readItems fuel rest).map fun (vs, rest) => (v :: vs, rest)
        | .ok _ => .error .toml

/-- A key and its value. -/
def readPair (fuel : Nat) (cs : List Char) : Reading (Key × Value) :=
  match fuel with
  | 0 => .error .toml
  | fuel + 1 =>
    match readKey cs.length cs with
    | .error e => .error e
    | .ok (key, '=' :: rest) =>
      (readValue fuel (skipGap rest)).map fun (v, rest) => ((key, v), rest)
    | .ok _ => .error .toml

/-- The pairs of a table on a line, up to and with its closing brace. -/
def readPairs (fuel : Nat) (es : Entries) (cs : List Char) : Reading Entries :=
  match fuel with
  | 0 => .error .toml
  | fuel + 1 =>
    match readPair fuel cs with
    | .error e => .error e
    | .ok ((key, v), rest) =>
      match es.put v key with
      | none => .error .toml
      | some es =>
        match skipGap rest with
        | '\x7d' :: rest => .ok (es, rest)
        | ',' :: rest => readPairs fuel es (skipGap rest)
        | _ => .error .toml

end

/-- A document that is being read. -/
structure Draft where
  entries : Entries
  /-- The table of the last header. -/
  header : Key
  /-- The tables that lines have made since. -/
  made : List Key
  deriving Inhabited

namespace Draft

/-- Nothing has been read. -/
def empty : Draft := ⟨[], [], []⟩

/-- The paths of keys to the tables around the last of them. -/
def around (header key : Key) : List Key :=
  (List.range (key.length - 1)).map fun n => header ++ key.take (n + 1)

/-- Take a pair. -/
def pair (d : Draft) (key : Key) (v : Value) : Option Draft :=
  (d.entries.change (Entries.put v key) d.header).map fun es =>
    { d with entries := es, made := d.made ++ around d.header key }

/-- Declare the tables that lines have made. -/
def settle (d : Draft) : Option Draft :=
  (d.made.foldlM (fun es key => Entries.atLast Entries.settle key es) d.entries).map fun es =>
    { d with entries := es, made := [] }

/-- Take a header. -/
def open? (d : Draft) (f : String → Entries → Option Entries) (key : Key) : Option Draft :=
  d.settle.bind fun d =>
    (Entries.atLast f key d.entries).map fun es => { d with entries := es, header := key }

end Draft

/-- A header with its closing brackets, behind its opening ones. -/
def readHeader (d : Draft) (f : String → Entries → Option Entries) (closing cs : List Char) :
    Reading Draft :=
  match readKey cs.length (skipGap cs) with
  | .error e => .error e
  | .ok (key, rest) =>
    match d.open? f key, Text.dropLead? closing rest with
    | some d, some rest => .ok (d, rest)
    | _, _ => .error .toml

/-- What a line says, which starts with something other than a blank. -/
def readLine (d : Draft) (cs : List Char) : Reading Draft :=
  match cs with
  | [] => .ok (d, [])
  | '\n' :: _ | '#' :: _ => .ok (d, cs)
  | '[' :: '[' :: rest => readHeader d Entries.extend [']', ']'] rest
  | '[' :: rest => readHeader d Entries.declare [']'] rest
  | cs =>
    match readPair (2 * cs.length + 2) cs with
    | .error e => .error e
    | .ok ((key, v), rest) =>
      match d.pair key v with
      | some d => .ok (d, rest)
      | none => .error .toml

/-- The lines of a document. -/
def readLines : Nat → Draft → List Char → Except Fault Draft
  | 0, d, _ => .ok d
  | fuel + 1, d, cs =>
    match readLine d (skipGap cs) with
    | .error e => .error e
    | .ok (d, rest) =>
      match skipRemark (skipGap rest) with
      | .error e => .error e
      | .ok [] => .ok d
      | .ok ('\n' :: rest) => readLines fuel d rest
      | .ok _ => .error .toml

/-- A text in which a carriage return before a line feed is left out. -/
def unifyEnds : List Char → List Char
  | '\r' :: '\n' :: cs => '\n' :: unifyEnds cs
  | c :: cs => c :: unifyEnds cs
  | [] => []

/-- The map of a document. -/
def read (s : String) : Except Fault Value :=
  let cs := unifyEnds s.toList
  (readLines (cs.length + 1) .empty cs).map fun d => .map (toEntries d.entries)

end Remediation.Toml
