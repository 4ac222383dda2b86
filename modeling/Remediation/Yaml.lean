import Remediation.Fault
import Remediation.Yaml.Node
/-!
# Reading YAML

A document of YAML as a data value.  Scalars are read by their kinds.  In maps, the entries of merged
maps come first, and an entry of the same key replaces the value of one before it; keys have to be
scalars.

A text that is no document is refused as such (`Fault.yaml`), while a scalar that is not what it is
declared to be is a fault of its own.  Of several faults, that of the node that stands least deep
comes first.

Bytes are spelled in base 64.  Four characters spell three bytes; characters outside the alphabet are
passed over, and the last characters are filled up to four with equal signs, which end the text.
-/

set_option autoImplicit false

namespace Remediation

namespace Yaml

/-! ## Bytes -/

/-- The value of a character of the alphabet. -/
def sextet? (c : Char) : Option Nat :=
  if 'A' ≤ c ∧ c ≤ 'Z' then some (c.toNat - 0x41)
  else if 'a' ≤ c ∧ c ≤ 'z' then some (c.toNat - 0x61 + 26)
  else if '0' ≤ c ∧ c ≤ '9' then some (c.toNat - 0x30 + 52)
  else if c = '+' then some 62
  else if c = '/' then some 63
  else none

/-- The bytes behind `count` characters of four whose last left the bits `left`; `pads` are the equal
signs in a row. -/
def readSextets? (count left pads : Nat) : List Char → Option (List UInt8)
  | [] => if count = 0 then some [] else none
  | c :: cs =>
    if c = '=' then
      if 2 ≤ count ∧ 4 ≤ count + pads + 1 then some []
      else readSextets? count left (if 2 ≤ count then pads + 1 else pads) cs
    else
      match sextet? c with
      | none => readSextets? count left pads cs
      | some n =>
        match count with
        | 0 => readSextets? 1 n 0 cs
        | 1 => (readSextets? 2 (n % 16) 0 cs).map (UInt8.ofNat (left * 4 + n / 16) :: ·)
        | 2 => (readSextets? 3 (n % 4) 0 cs).map (UInt8.ofNat (left * 16 + n / 4) :: ·)
        | _ => (readSextets? 0 0 0 cs).map (UInt8.ofNat (left * 64 + n) :: ·)

/-- The bytes that a text spells in base 64; the text has to be ASCII. -/
def readBase64? (s : String) : Option (List UInt8) :=
  let cs := s.toList
  if cs.all fun c => c.toNat < 0x80 then readSextets? 0 0 0 cs else none

/-! ## What nodes give -/

/-- What a node gives, or a fault and how deep it stands. -/
abbrev Built (α : Type) := Except (Nat × Fault) α

namespace Built

variable {α β : Type}

/-- Put two parts together, or give the fault that stands less deep. -/
def apply (f : Built (α → β)) (a : Built α) : Built β :=
  match f, a with
  | .ok f, .ok a => .ok (f a)
  | .ok _, .error e => .error e
  | .error e, .ok _ => .error e
  | .error (m, e), .error (n, d) => if n < m then .error (n, d) else .error (m, e)

/-- Say that what was built stands one step deeper. -/
def deeper (b : Built α) : Built α := b.mapError fun (n, e) => (n + 1, e)

end Built

/-- A whole number in a base: an optional sign, an optional mark of the base and digits. -/
def readWhole (base : Nat) (s : String) : Except Fault Int :=
  let (negative, body) := Decimal.readSign (Text.stripChars s.toList)
  let digits :=
    match body with
    | '0' :: x :: rest =>
      if base = 16 ∧ (x = 'x' ∨ x = 'X') ∨ base = 8 ∧ (x = 'o' ∨ x = 'O') ∨
        base = 2 ∧ (x = 'b' ∨ x = 'B') then rest else body
    | _ => body
  let value? (c : Char) : Option Nat :=
    match Json.hexValue? (Decimal.asciiDigit c) with
    | some n => if n < base then some n else none
    | none => none
  match digits.foldlM (fun n c => (value? c).map (n * base + ·)) 0 with
  | some n =>
    if digits.isEmpty then .error (.badNumber s!"invalid literal for int() with base {base}" s)
    else if base = 10 ∧ Decimal.digitLimit < digits.length then .error (.longDigits digits.length)
    else .ok (if negative then -(n : Int) else n)
  | none => .error (.badNumber s!"invalid literal for int() with base {base}" s)

/-- A floating-point number. -/
def readFloat (s : String) : Except Fault Float :=
  match Decimal.readFloat? s with
  | some x => .ok x
  | none => .error (.badNumber "could not convert string to float" s)

/-- The sign of a number without underscores, and what is behind it; there has to be something. -/
def readSigned (s : String) : Except Fault (Bool × List Char) :=
  match s.toList.filter (· ≠ '_') with
  | [] => .error .noNumber
  | '-' :: cs => .ok (true, cs)
  | '+' :: cs => .ok (false, cs)
  | cs => .ok (false, cs)

/-- An integer, whose form says its base. -/
def intOf (s : String) : Except Fault Int := do
  let (negative, cs) ← readSigned s
  let n ←
    match cs with
    | [] => throw .noNumber
    | ['0'] => pure 0
    | '0' :: 'b' :: digits => readWhole 2 (String.ofList digits)
    | '0' :: 'x' :: digits => readWhole 16 (String.ofList digits)
    | '0' :: _ => readWhole 8 (String.ofList cs)
    | _ =>
      if cs.contains ':' then
        let parts ← (Text.split ':' (String.ofList cs)).mapM (readWhole 10)
        pure (parts.foldl (fun n part => n * 60 + part) 0)
      else readWhole 10 (String.ofList cs)
  return if negative then -n else n

/-- The sum of parts in base sixty, the last of which counts once. -/
def sumSixties (scale : Float) (sum : Float) : List Float → Float
  | [] => sum
  | x :: xs => sumSixties (scale * 60.0) (sum + x * scale) xs

/-- A floating-point number, also in base sixty. -/
def floatOf (s : String) : Except Fault Float := do
  let (negative, cs) ← readSigned s
  let body := String.ofList (cs.map Char.toLower)
  let sign : Float := if negative then -1.0 else 1.0
  if body = ".inf" then return sign * (1.0 / 0.0)
  else if body = ".nan" then return 0.0 / 0.0
  else if cs.contains ':' then
    let parts ← (Text.split ':' body).mapM readFloat
    return sign * sumSixties 1.0 0.0 parts.reverse
  else return sign * (← readFloat body)

/-- The truth value of a word in any case. -/
def truthOf (s : String) : Except Fault Bool :=
  let word := s.map Char.toLower
  if word ∈ ["yes", "true", "on"] then .ok true
  else if word ∈ ["no", "false", "off"] then .ok false
  else .error (.unknownWord word)

/-- The scalar of a kind that a text spells. -/
def scalarOf (kind : Kind) (s : String) : Except Fault Scalar :=
  match kind with
  | .null => .ok .null
  | .bool => (truthOf s).map .bool
  | .int => (intOf s).map .int
  | .float => (floatOf s).map .float
  | .text => .ok (.text s)
  | .moment =>
    match Stamp.read? s.toList with
    | some stamp => (stamp.moment.mapError .moment).map .moment
    | none => .error (.noMatch "NoneType" "groupdict")
  | .bytes =>
    match readBase64? s with
    | some bytes => .ok (.bytes bytes)
    | none => .error .yaml
  | _ => .error .yaml

/-- Whether the nodes of a kind are scalars. -/
def Kind.isScalar : Kind → Bool
  | .null | .bool | .int | .float | .text | .moment | .bytes => true
  | _ => false

namespace Node

/-- Whether a node as a key stands for a map whose entries are taken over. -/
def isMerge : Node → Bool
  | .scalar .merge _ => true
  | _ => false

/-- A node as a key; the mark of a default is a text there. -/
def asKey : Node → Node
  | .scalar .default s => .scalar .text s
  | n => n

mutual

/-- The text of a node where a scalar is wanted: a map stands for its default. -/
def scalarText? : Node → Option String
  | .scalar _ s => some s
  | .sequence _ _ => none
  | .mapping _ entries => defaultText? entries

/-- The text of the default among entries. -/
def defaultText? : List (Node × Node) → Option String
  | [] => none
  | (.scalar .default _, v) :: _ => scalarText? v
  | _ :: es => defaultText? es

end

/-- The scalar of a node as a key: lists and maps are no keys. -/
def key (n : Node) : Built Scalar :=
  let s? : Option (Kind × String) :=
    match n.asKey with
    | .scalar kind s => some (kind, s)
    | .sequence _ _ => none
    | .mapping kind entries =>
      if kind.isScalar then (defaultText? entries).map fun s => (kind, s) else none
  match s? with
  | some (kind, s) => (scalarOf kind s).mapError fun e => (0, e)
  | none => .error (0, .yaml)

/-- The entries of a map: keys with what their values give. -/
abbrev Entries := List (Node × Built Value)

/-- A map of entries. -/
def mapOf (entries : Entries) : Built (List (Scalar × Value)) :=
  entries.foldl
    (fun es (k, v) => .apply (.apply (es.map fun es k v => upsertEntry es k v) (key k)) v)
    (.ok [])

/-- What entries of a kind give; `none` where maps to take over are none. -/
def ofEntries (kind : Kind) (entries : Option Entries) : Built Value :=
  match entries.elim (.error (0, .yaml)) mapOf with
  | .error e => Built.deeper (.error e)
  | .ok es =>
    match kind with
    | .map => .ok (.map es)
    | .set => .ok (.set (es.map Prod.fst))
    | _ => .error (1, .yaml)

mutual

/-- What a node gives. -/
def build : Node → Built Value
  | .scalar kind s => ((scalarOf kind s).map .scalar).mapError fun e => (0, e)
  | .sequence kind items =>
    match kind with
    | .list => Built.deeper ((buildItems items).map Value.list)
    | .entries => Built.deeper ((buildSingles items).map Value.list)
    | _ => .error (if kind.isScalar then 0 else 1, .yaml)
  | .mapping kind entries =>
    if kind.isScalar then
      match defaultText? entries with
      | some s => ((scalarOf kind s).map .scalar).mapError fun e => (0, e)
      | none => .error (0, .yaml)
    else
      match takenOver entries with
      | some taken => ofEntries kind (some (taken ++ ownEntries entries))
      | none => ofEntries kind none

/-- What the items of a list give. -/
def buildItems : List Node → Built (List Value)
  | [] => .ok []
  | n :: ns => .apply ((build n).map List.cons) (buildItems ns)

/-- What single entries give, each as a list of its key and its value. -/
def buildSingles : List Node → Built (List Value)
  | [] => .ok []
  | n :: ns =>
    let single : Built Value :=
      match n with
      | .mapping _ [(k, v)] => .apply ((build k).map fun k v => .list [k, v]) (build v)
      | _ => .error (0, .yaml)
    .apply (single.map List.cons) (buildSingles ns)

/-- The entries of a mapping behind those that it takes over. -/
def entriesOf : Node → Option Entries
  | .mapping _ entries => (takenOver entries).map (· ++ ownEntries entries)
  | _ => none

/-- The entries that stand in a mapping itself. -/
def ownEntries : List (Node × Node) → Entries
  | [] => []
  | (k, v) :: es => if k.isMerge then ownEntries es else (k, build v) :: ownEntries es

/-- The entries that a mapping takes over. -/
def takenOver : List (Node × Node) → Option Entries
  | [] => some []
  | (k, v) :: es =>
    if k.isMerge then
      match sourceEntries v, takenOver es with
      | some taken, some more => some (taken ++ more)
      | _, _ => none
    else takenOver es

/-- The entries of a mapping, or of mappings of which the last comes first. -/
def sourceEntries : Node → Option Entries
  | .scalar _ _ => none
  | .sequence _ items => sourceItems items
  | .mapping _ entries => (takenOver entries).map (· ++ ownEntries entries)

/-- The entries of mappings, of which the last comes first. -/
def sourceItems : List Node → Option Entries
  | [] => some []
  | n :: ns =>
    match entriesOf n, sourceItems ns with
    | some entries, some more => some (more ++ entries)
    | _, _ => none

end

end Node

/-- The wording of a text that cannot be read. -/
def Refusal.fault : Refusal → Fault
  | .malformed => .yaml
  | .code n => .codePoint n

/-- The value of the only document of a text; null if there is none. -/
def read (s : String) : Except Fault Value :=
  match tokens s with
  | .error e => .error e.fault
  | .ok ts =>
    match Node.ofTokens ts with
    | .error e => .error e.fault
    | .ok none => .ok .null
    | .ok (some n) => n.build.mapError Prod.snd

end Yaml

end Remediation
