import Remediation.Yaml.Kind
import Remediation.Yaml.Layout
/-!
# Nodes of YAML

The tree that a document is.  Nodes are read from tokens: a node has a tag and an anchor, or is an
alias of a node with an anchor, which it then equals.  Where nothing stands, a node is null.
-/

set_option autoImplicit false

namespace Remediation.Yaml

/-- A node. -/
inductive Node where
  | scalar (kind : Kind) (text : String)
  | sequence (kind : Kind) (items : List Node)
  | mapping (kind : Kind) (entries : List (Node × Node))
  deriving Inhabited

namespace Node

/-- The node where nothing stands. -/
def nothing : Node := .scalar .null ""

/-- What is read from, and what is known by then. -/
structure Reading where
  tokens : List Token
  /-- The nodes with anchors. -/
  anchors : List (String × Node)
  /-- What the handles of tags stand for. -/
  handles : List (String × String)
  deriving Inhabited

/-- A reader of tokens. -/
abbrev Reader (α : Type) := StateT Reading (Except Refusal) α

/-- The token at the front. -/
def peek : Reader (Option Token) := do return (← get).tokens.head?

/-- Take the token at the front. -/
def skip : Reader Unit := modify fun r => { r with tokens := r.tokens.tail }

/-- Take the token at the front if it is the given one. -/
def take? (t : Token) : Reader Bool := do
  if (← peek) = some t then
    skip
    return true
  else return false

/-- Take the token at the front, which has to be the given one. -/
def expect (t : Token) : Reader Unit := do
  if !(← take? t) then throw .malformed

/-- Take an anchor, if there is one. -/
def takeAnchor? : Reader (Option String) := do
  match ← peek with
  | some (.anchor name) =>
    skip
    return some name
  | _ => return none

/-- Take a tag, if there is one. -/
def takeTag? : Reader (Option TagName) := do
  match ← peek with
  | some (.tag name) =>
    skip
    return some name
  | _ => return none

/-- The properties of a node: an anchor and a tag, in either order. -/
def properties : Reader (Option String × Option TagName) := do
  match ← takeAnchor? with
  | some name => return (some name, ← takeTag?)
  | none =>
    match ← takeTag? with
    | some tag => return (← takeAnchor?, some tag)
    | none => return (none, none)

/-- A tag with its handle written out. -/
def fullTag (name : TagName) : Reader String := do
  match name.handle with
  | none => return name.suffix
  | some handle =>
    match (← get).handles.lookup handle with
    | some start => return start ++ name.suffix
    | none => throw .malformed

/-- The kind of a node whose tag says none. -/
def kindOf (tag : Option String) (absent : Kind) : Kind :=
  match tag with
  | none | some "!" => absent
  | some tag => .ofTag tag

/-- A scalar: its form counts if it is plain and has no tag, or if its tag is a mere mark. -/
def ofScalar (tag : Option String) (isPlain : Bool) (s : String) : Node :=
  match tag with
  | none => .scalar (if isPlain then .ofPlain s else .text) s
  | some "!" => .scalar (.ofPlain s) s
  | some tag => .scalar (.ofTag tag) s

/-- Keep a node under its anchor, which no other node may have. -/
def keep (anchor : Option String) (n : Node) : Reader Node := do
  match anchor with
  | none => return n
  | some name =>
    if ((← get).anchors.lookup name).isSome then throw .malformed
    modify fun r => { r with anchors := (name, n) :: r.anchors }
    return n

/-- The node that an alias stands for. -/
def aliased (name : String) : Reader Node := do
  match (← get).anchors.lookup name with
  | some n => return n
  | none => throw .malformed

/-- Where a node may stand. -/
inductive Context where
  | block
  /-- As a key or value of a block, where items may stand without being moved in. -/
  | entry
  | flow
  deriving DecidableEq, Repr, Inhabited

/-- Whether the token at the front is one of some. -/
def isNext (ts : List Token) : Reader Bool := do
  match ← peek with
  | some t => return ts.contains t
  | none => return false

mutual

/-- A node. -/
def read (c : Context) : Nat → Reader Node
  | 0 => throw .malformed
  | fuel + 1 => do
    match ← peek with
    | some (.alias name) =>
      skip
      aliased name
    | _ =>
      let (anchor, name) ← properties
      let tag ← name.mapM fullTag
      let n ← body c tag (anchor.isSome || tag.isSome) fuel
      keep anchor n

/-- A node behind its properties. -/
def body (c : Context) (tag : Option String) (hasProperties : Bool) : Nat → Reader Node
  | 0 => throw .malformed
  | fuel + 1 => do
    match ← peek with
    | some (.scalar isPlain s) =>
      skip
      return ofScalar tag isPlain s
    | some .flowSequence =>
      skip
      return .sequence (kindOf tag .list) (← flowItems true fuel)
    | some .flowMapping =>
      skip
      return .mapping (kindOf tag .map) (← flowEntries true fuel)
    | some .item =>
      if c = .entry then return .sequence (kindOf tag .list) (← bareItems fuel)
      else if hasProperties then return ofScalar tag true "" else throw .malformed
    | some .blockSequence =>
      if c ≠ .flow then
        skip
        return .sequence (kindOf tag .list) (← blockItems fuel)
      else if hasProperties then return ofScalar tag true "" else throw .malformed
    | some .blockMapping =>
      if c ≠ .flow then
        skip
        return .mapping (kindOf tag .map) (← blockEntries fuel)
      else if hasProperties then return ofScalar tag true "" else throw .malformed
    | _ => if hasProperties then return ofScalar tag true "" else throw .malformed

/-- A node, unless one of some tokens follows. -/
def orNothing (c : Context) (ends : List Token) : Nat → Reader Node
  | 0 => throw .malformed
  | fuel + 1 => do
    match ← peek with
    | none => read c fuel
    | some t => if ends.contains t then return nothing else read c fuel

/-- The items of a block, up to and with its end. -/
def blockItems : Nat → Reader (List Node)
  | 0 => throw .malformed
  | fuel + 1 => do
    if ← take? .item then
      let n ← orNothing .block [.item, .blockEnd] fuel
      return n :: (← blockItems fuel)
    else
      expect .blockEnd
      return []

/-- Items that stand at the column of the keys around them. -/
def bareItems : Nat → Reader (List Node)
  | 0 => throw .malformed
  | fuel + 1 => do
    if ← take? .item then
      let n ← orNothing .block [.item, .key, .value, .blockEnd] fuel
      return n :: (← bareItems fuel)
    else return []

/-- A value behind its colon, if there is one. -/
def valueOf (c : Context) (ends : List Token) : Nat → Reader Node
  | 0 => throw .malformed
  | fuel + 1 => do
    if ← take? .value then orNothing c ends fuel else return nothing

/-- The entries of a block, up to and with its end. -/
def blockEntries : Nat → Reader (List (Node × Node))
  | 0 => throw .malformed
  | fuel + 1 => do
    let ends : List Token := [.key, .value, .blockEnd]
    if ← take? .key then
      let k ← orNothing .entry ends fuel
      let v ← valueOf .entry ends fuel
      return (k, v) :: (← blockEntries fuel)
    else
      expect .blockEnd
      return []

/-- The items in brackets, up to and with the closing one; an item may be a single entry. -/
def flowItems (first : Bool) : Nat → Reader (List Node)
  | 0 => throw .malformed
  | fuel + 1 => do
    if ← take? .flowSequenceEnd then return []
    if !first then expect .comma
    if ← take? .key then
      let k ← orNothing .flow [.value, .comma, .flowSequenceEnd] fuel
      let v ← valueOf .flow [.comma, .flowSequenceEnd] fuel
      return .mapping .map [(k, v)] :: (← flowItems false fuel)
    else if ← take? .flowSequenceEnd then return []
    else
      let n ← read .flow fuel
      return n :: (← flowItems false fuel)

/-- The entries in braces, up to and with the closing one. -/
def flowEntries (first : Bool) : Nat → Reader (List (Node × Node))
  | 0 => throw .malformed
  | fuel + 1 => do
    if ← take? .flowMappingEnd then return []
    if !first then expect .comma
    if ← take? .key then
      let k ← orNothing .flow [.value, .comma, .flowMappingEnd] fuel
      let v ← valueOf .flow [.comma, .flowMappingEnd] fuel
      return (k, v) :: (← flowEntries false fuel)
    else if ← take? .flowMappingEnd then return []
    else
      let k ← read .flow fuel
      return (k, nothing) :: (← flowEntries false fuel)

end

/-- The handles of tags that need no instruction. -/
def defaultHandles : List (String × String) := [("!", "!"), ("!!", Kind.tagStart)]

/-- The instructions in front of a document. -/
def directives (hasVersion : Bool) : Nat → Reader Unit
  | 0 => throw .malformed
  | fuel + 1 => do
    match ← peek with
    | some (.directive d) =>
      skip
      match d with
      | .version major =>
        if hasVersion || major ≠ 1 then throw .malformed
        directives true fuel
      | .tag handle start =>
        if ((← get).handles.lookup handle).isSome then throw .malformed
        modify fun r => { r with handles := (handle, start) :: r.handles }
        directives hasVersion fuel
      | .other => directives hasVersion fuel
    | _ => return

/-- Behind marks of the end of a document. -/
def skipEnds : Nat → Reader Unit
  | 0 => return
  | fuel + 1 => do if ← take? .documentEnd then skipEnds fuel

/-- The only document of a text, if there is one. -/
def document (fuel : Nat) : Reader (Option Node) := do
  let n ←
    match ← peek with
    | none => pure none
    | some (.directive _) | some .documentStart =>
      directives false fuel
      modify fun r => { r with handles := r.handles ++ defaultHandles }
      expect .documentStart
      match ← peek with
      | none | some (.directive _) | some .documentStart | some .documentEnd => pure (some nothing)
      | _ => pure (some (← read .block fuel))
    | _ =>
      modify fun r => { r with handles := defaultHandles }
      pure (some (← read .block fuel))
  if n.isSome then skipEnds fuel
  match ← peek with
  | none => return n
  | some _ => throw .malformed

/-- The node that tokens spell, if they spell any. -/
def ofTokens (ts : List Token) : Except Refusal (Option Node) :=
  ((document (4 * ts.length + 8)).run ⟨ts, [], []⟩).map Prod.fst

end Node

end Remediation.Yaml
