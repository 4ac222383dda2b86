import Remediation.Text.Digit
import Remediation.Text.Quoted
import Remediation.Text.Split
/-!
# Command lines

A grammar says which switches and which positional argument a command line may have.  A switch has a
long name and possibly a short one, and may take a value, which follows it or is joined to it.  A long
name may be cut short as long as it is clear which one is meant, and short names of switches that take
no value may be written together.

Reading a command line gives what it says, or the first reason to stop.  Words that nothing in the
grammar takes are kept: whether they are a fault is for the caller to say.
-/

set_option autoImplicit false

namespace Remediation

namespace CommandLine

/-- What a switch takes. -/
inductive ValueForm where
  /-- Nothing. -/
  | flag
  | text
  /-- A key and a value with an equals sign between them. -/
  | pair
  deriving DecidableEq, Repr, Inhabited

/-- A switch. -/
structure Switch where
  /-- Its names with their dashes, the first of which stands for it. -/
  names : List String
  form : ValueForm
  required : Bool
  /-- What stands for its value in an explanation. -/
  sample : String
  about : String
  deriving DecidableEq, Repr, Inhabited

namespace Switch

/-- The name that stands for a switch. -/
def key (s : Switch) : String := s.names.headD ""

/-- All names of a switch, as messages have them. -/
def label (s : Switch) : String := Text.join "/" s.names

/-- Whether a switch takes a value. -/
def takesValue (s : Switch) : Bool := s.form != .flag

/-- The switch that asks for help. -/
def help : Switch := ⟨["-h", "--help"], .flag, false, "", "show this help message and exit"⟩

end Switch

/-- What stands for a positional argument. -/
inductive PositionalForm where
  | one
  | optional
  /-- One of some words, which have explanations, and all that is behind it. -/
  | command (choices : List (String × String))
  deriving DecidableEq, Repr, Inhabited

/-- A positional argument. -/
structure Positional where
  name : String
  form : PositionalForm
  about : String
  deriving DecidableEq, Repr, Inhabited

/-- What a command line may have. -/
structure Grammar where
  /-- The words in front of it. -/
  program : String
  about : String
  switches : List Switch
  positional : Option Positional
  deriving DecidableEq, Repr, Inhabited

/-- Why a command line is refused. -/
inductive UsageFault where
  /-- A cut name could be one of several. -/
  | ambiguous (spelled : String) (candidates : List String)
  /-- A switch has no value. -/
  | valueMissing (label : String)
  /-- A switch that takes no value has one. -/
  | valueIgnored (label value : String)
  | notPair (label value : String)
  | notAmong (name value : String) (choices : List String)
  | required (names : List String)
  | unrecognized (words : List String)
  deriving DecidableEq, Repr, Inhabited

namespace UsageFault

/-- The wording of a fault. -/
def message : UsageFault → String
  | ambiguous spelled candidates =>
    s!"ambiguous option: {spelled} could match " ++ Text.join ", " candidates
  | valueMissing label => s!"argument {label}: expected one argument"
  | valueIgnored label value =>
    s!"argument {label}: ignored explicit argument {Text.quote value}"
  | notPair label value => s!"argument {label}: expected key=value, got {Text.quote value}"
  | notAmong name value choices =>
    s!"argument {name}: invalid choice: {Text.quote value} (choose from " ++
      Text.join ", " (choices.map Text.quote) ++ ")"
  | required names => "the following arguments are required: " ++ Text.join ", " names
  | unrecognized words => "unrecognized arguments: " ++ Text.join " " words

end UsageFault

/-- Why the reading of a command line stops. -/
inductive Stop where
  /-- It asks for help. -/
  | help (g : Grammar)
  | fault (g : Grammar) (f : UsageFault)
  deriving DecidableEq, Repr, Inhabited

/-- A word of a command line, sorted by what it looks like. -/
inductive Token where
  | word (s : String)
  /-- Two dashes, behind which all words are arguments. -/
  | separator
  /-- A switch, under the name that is meant, with the value in the same word if there is one, and
  whether an equals sign joins the two. -/
  | switch (s : String) (meant : Switch) (name : String) (joined : Bool) (value : Option String)
  /-- A word that looks like a switch. -/
  | unknown (s : String)
  deriving DecidableEq, Repr, Inhabited

namespace Token

/-- The word itself. -/
def text : Token → String
  | word s => s
  | separator => "--"
  | switch s .. => s
  | unknown s => s

/-- Whether the word looks like a switch. -/
def isSwitch : Token → Bool
  | switch .. | unknown _ => true
  | _ => false

end Token

namespace Grammar

/-- The names of all switches, in order. -/
def names (g : Grammar) : List (String × Switch) :=
  g.switches.flatMap fun s => s.names.map fun name => (name, s)

/-- The switch of a name. -/
def switch? (g : Grammar) (name : String) : Option Switch := g.names.lookup name

/-- Whether a word is a negative number. -/
def isNegative (s : String) : Bool :=
  match s.toList with
  | '-' :: cs =>
    let cs := if cs.getLast? = some '\n' then cs.dropLast else cs
    let whole := cs.takeWhile Text.isDigit
    match cs.dropWhile Text.isDigit with
    | [] => !whole.isEmpty
    | '.' :: behind => !behind.isEmpty && behind.all Text.isDigit
    | _ => false
  | _ => false

/-- The switches that a word could mean by a cut long name, or by a short name with a value. -/
def candidates (g : Grammar) (s : String) : List (String × Token) :=
  if "--".isPrefixOf s then
    let (name, value) := Text.cut '=' s
    (g.names.filter fun (n, _) => name.isPrefixOf n).map fun (n, sw) =>
      (n, .switch s sw n value.isSome value)
  else
    let short := String.ofList (s.toList.take 2)
    g.names.filterMap fun (n, sw) =>
      if n = short then some (n, .switch s sw n false (some (String.ofList (s.toList.drop 2))))
      else if s.isPrefixOf n then some (n, .switch s sw n false none)
      else none

/-- The switch that a word means with an equals sign behind its full name. -/
def joined? (g : Grammar) (s : String) : Option Token :=
  match Text.cut '=' s with
  | (name, some value) => (g.switch? name).map fun sw => .switch s sw name true (some value)
  | (_, none) => none

/-- Sort a word that starts with a dash and has more. -/
def classifyDashed (g : Grammar) (s : String) : Except UsageFault Token :=
  match g.joined? s with
  | some t => .ok t
  | none =>
    match g.candidates s with
    | [(_, t)] => .ok t
    | [] =>
      if isNegative s || s.toList.contains ' ' then .ok (.word s) else .ok (.unknown s)
    | several => .error (.ambiguous s (several.map Prod.fst))

/-- Sort a word. -/
def classify (g : Grammar) (s : String) : Except UsageFault Token :=
  if !"-".isPrefixOf s then .ok (.word s)
  else
    match g.switch? s with
    | some sw => .ok (.switch s sw s false none)
    | none => if s = "-" then .ok (.word s) else g.classifyDashed s

/-- Sort words. -/
def tokens (g : Grammar) : List String → Except UsageFault (List Token)
  | [] => .ok []
  | s :: rest =>
    if s = "--" then .ok (.separator :: rest.map .word)
    else
      match g.classify s with
      | .error e => .error e
      | .ok t => (g.tokens rest).map (t :: ·)

end Grammar

/-- What a command line says. -/
structure Reading where
  /-- The values of the switches, under the names that stand for them. -/
  given : List (String × String)
  /-- What stands for the positional argument. -/
  positional : List String
  /-- The words that nothing has taken. -/
  left : List String
  deriving DecidableEq, Repr, Inhabited

namespace Reading

/-- Nothing has been read. -/
def start : Reading := ⟨[], [], []⟩

/-- Whether a switch is given. -/
def has (r : Reading) (key : String) : Bool := r.given.any (·.1 == key)

/-- The values of a switch. -/
def all (r : Reading) (key : String) : List String :=
  (r.given.filter (·.1 == key)).map Prod.snd

/-- The last value of a switch; empty if it is not given. -/
def last (r : Reading) (key : String) : String := (r.all key).getLast?.getD ""

/-- The positional argument; empty if it is not given. -/
def argument (r : Reading) : String := r.positional.headD ""

end Reading

/-- What one word says. -/
structure Cluster where
  /-- The switches with their values; a switch without value has an empty one. -/
  uses : List (Switch × String)
  /-- A switch whose value is the next word. -/
  waiting : Option Switch
  /-- What is no switch. -/
  left : List String
  deriving DecidableEq, Repr, Inhabited

namespace Cluster

/-- A cluster behind another switch. -/
def after (s : Switch) (c : Cluster) : Cluster := { c with uses := (s, "") :: c.uses }

end Cluster

namespace Grammar

/-- The text behind the name of a switch: whether it is joined, and the value. -/
def behindName : List Char → Bool × Option String
  | [] => (false, none)
  | '=' :: cs => (true, some (String.ofList cs))
  | cs => (false, some (String.ofList cs))

/-- What a word says that means a switch; the number bounds how many are written together. -/
def cluster (g : Grammar) : Nat → Switch → String → Bool → Option String →
    Except UsageFault Cluster
  | _, s, _, _, none =>
    .ok (if s.takesValue then ⟨[], some s, []⟩ else ⟨[(s, "")], none, []⟩)
  | 0, s, _, _, some value => .error (.valueIgnored s.label value)
  | fuel + 1, s, name, joined, some value =>
    if s.takesValue then .ok ⟨[(s, value)], none, []⟩
    else
      match value.toList with
      | c :: cs =>
        if "--".isPrefixOf name || joined || c == '-' then .error (.valueIgnored s.label value)
        else
          let next := String.ofList ['-', c]
          match g.switch? next with
          | none => .ok ⟨[(s, "")], none, ["-" ++ value]⟩
          | some t =>
            let (joined, value) := behindName cs
            (g.cluster fuel t next joined value).map (Cluster.after s)
      | [] => .error (.valueIgnored s.label value)

/-- Refuse a command line. -/
def refuse {α : Type} (g : Grammar) (f : UsageFault) : Except Stop α :=
  .error (.fault g f)

/-- Whether a text has a key in front of an equals sign. -/
def isPair (s : String) : Bool :=
  match Text.cut '=' s with
  | (key, some _) => key != ""
  | (_, none) => false

/-- Take a switch with its value. -/
def take (g : Grammar) (r : Reading) (s : Switch) (value : String) : Except Stop Reading :=
  if s = Switch.help then .error (.help g)
  else if s.form = .pair ∧ !isPair value then g.refuse (.notPair s.label value)
  else .ok { r with given := r.given ++ [(s.key, value)] }

/-- Take switches with their values. -/
def takeAll (g : Grammar) (r : Reading) (uses : List (Switch × String)) : Except Stop Reading :=
  uses.foldlM (fun r (s, value) => g.take r s value) r

/-- Take what a word says, with the words behind it: what is left of those. -/
def takeCluster (g : Grammar) (r : Reading) (c : Cluster) (rest : List Token) :
    Except Stop (Reading × List Token) :=
  match c.waiting with
  | none =>
    (g.takeAll { r with left := r.left ++ c.left } c.uses).map fun r => (r, rest)
  | some s =>
    match rest with
    | .word value :: rest => (g.takeAll r (c.uses ++ [(s, value)])).map fun r => (r, rest)
    | _ => g.refuse (.valueMissing s.label)

/-- Words without the separators in front. -/
def skipSeparators (tokens : List Token) : List Token := tokens.dropWhile (· == .separator)

/-- What a positional argument takes of words, and what is left of them. -/
def match? (form : PositionalForm) (tokens : List Token) : Option (List String × List Token) :=
  match form, skipSeparators tokens with
  | .one, .word s :: rest => some ([s], skipSeparators rest)
  | .one, _ => none
  | .optional, .word s :: rest => some ([s], skipSeparators rest)
  | .optional, rest => some ([], rest)
  | .command _, .word _ :: _ => some (tokens.map Token.text, [])
  | .command _, _ => none

/-- Refuse a word that is none of the choices. -/
def checkChoice (g : Grammar) (p : Positional) (values : List String) : Except Stop Unit :=
  match p.form, values with
  | .command choices, value :: _ =>
    let words := choices.map Prod.fst
    if value ∈ words then .ok () else g.refuse (.notAmong p.name value words)
  | _, _ => .ok ()

/-- Take the positional argument, if it is open and the words have it: what is left of them. -/
def takePositional (g : Grammar) (opened : Option Positional) (r : Reading) (tokens : List Token) :
    Except Stop (Option Positional × Reading × List Token) :=
  match opened with
  | none => .ok (none, r, tokens)
  | some p =>
    match match? p.form tokens with
    | none => .ok (some p, r, tokens)
    | some (values, rest) =>
      (g.checkChoice p values).map fun _ => (none, { r with positional := values }, rest)

/-- Words that nothing takes. -/
def leave (r : Reading) (tokens : List Token) : Reading :=
  { r with left := r.left ++ tokens.map Token.text }

/-- Read words: what they say, and the positional argument if it is still open.  The number bounds
how many words there are. -/
def readTokens (g : Grammar) : Nat → Option Positional → Reading → List Token →
    Except Stop (Reading × Option Positional)
  | 0, opened, r, tokens => .ok (leave r tokens, opened)
  | fuel + 1, opened, r, tokens =>
    if !tokens.any Token.isSwitch then do
      let (opened, r, rest) ← g.takePositional opened r tokens
      return (leave r rest, opened)
    else
      match tokens with
      | .unknown s :: rest => g.readTokens fuel opened (leave r [.unknown s]) rest
      | .switch _ s name joined value :: rest =>
        match g.cluster ((value.getD "").length + 1) s name joined value with
        | .error f => g.refuse f
        | .ok c => do
          let (r, rest) ← g.takeCluster r c rest
          g.readTokens fuel opened r rest
      | tokens => do
        let (opened, r, rest) ← g.takePositional opened r tokens
        if rest.length < tokens.length then g.readTokens fuel opened r rest
        else
          g.readTokens fuel opened (leave r (tokens.takeWhile (!·.isSwitch)))
            (tokens.dropWhile (!·.isSwitch))

/-- The names of what is missing. -/
def missing (g : Grammar) (opened : Option Positional) (r : Reading) : List String :=
  opened.toList.map (·.name) ++
    (g.switches.filter fun s => s.required && !r.has s.key).map Switch.label

/-- Read a command line. -/
def read (g : Grammar) (words : List String) : Except Stop Reading :=
  match g.tokens words with
  | .error f => g.refuse f
  | .ok tokens =>
    match g.readTokens (tokens.length + 1) g.positional .start tokens with
    | .error s => .error s
    | .ok (r, opened) =>
      match g.missing opened r with
      | [] => .ok r
      | names => g.refuse (.required names)

end Grammar

end CommandLine

end Remediation
