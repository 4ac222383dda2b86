import Remediation.Pattern
import Remediation.Pattern.Fault
import Remediation.Json.Reader
/-!
# Reading patterns

The text of a pattern is read from the left, an alternative at a time.  What is wrong with it is said
together with the place of the character that shows it.
-/

set_option autoImplicit false

namespace Remediation

namespace Pattern

/-- The flags that hold at a place of a pattern. -/
structure Mode where
  fold : Bool
  lines : Bool
  lineEnds : Bool
  spaced : Bool
  ascii : Bool
  deriving DecidableEq, Repr, Inhabited

/-- Which characters are told apart by case alone. -/
def Mode.folding (mode : Mode) : Folding :=
  if mode.fold then (if mode.ascii then .ascii else .all) else .exact

/-- How far a pattern has been read, and what is known of its groups. -/
structure Draft where
  /-- The next character, with the one behind it if it is a backslash. -/
  next : List Char
  rest : List Char
  /-- The number of characters up to and with the next ones. -/
  index : Nat
  /-- The number that the next group gets. -/
  nextGroup : Nat
  names : List (String × Nat)
  /-- The closed groups, with how many characters they match. -/
  widths : List (Nat × Nat × Option Nat)
  /-- The number that the first group inside of the outermost look behind gets. -/
  behindFrom : Option Nat
  /-- The groups that conditions ask for, with where they do. -/
  asked : List (Nat × Nat)
  deriving Inhabited

/-- Reading with a draft. -/
abbrev Reading := StateT Draft (Except PatternFault)

namespace Reading

/-- Where the next characters start. -/
def tell : Reading Nat := do
  let d ← get
  return d.index - d.next.length

/-- Refuse the pattern at a position. -/
def failAt {α : Type} (position : Nat) (problem : PatternProblem) : Reading α :=
  throw ⟨problem, some position⟩

/-- Refuse the pattern some characters before the next ones. -/
def fail {α : Type} (problem : PatternProblem) (offset : Nat) : Reading α := do
  failAt ((← tell) - offset) problem

/-- Go on to the next characters. -/
def advance : Reading Unit := do
  let d ← get
  match d.rest with
  | [] => set { d with next := [] }
  | ['\\'] => failAt d.index .loneBackslash
  | '\\' :: c :: rest => set { d with next := ['\\', c], rest := rest, index := d.index + 2 }
  | c :: rest => set { d with next := [c], rest := rest, index := d.index + 1 }

/-- Take the next characters; nothing at the end. -/
def take : Reading (List Char) := do
  let this := (← get).next
  advance
  return this

/-- Take the next character if it is this one. -/
def takeIf (c : Char) : Reading Bool := do
  if (← get).next == [c] then
    advance
    return true
  return false

/-- Take characters of a class, at most `n`. -/
def takeWhile (p : Char → Bool) : Nat → Reading (List Char)
  | 0 => return []
  | n + 1 => do
    match (← get).next with
    | [c] =>
      if p c then
        advance
        return c :: (← takeWhile p n)
      else return []
    | _ => return []

/-- Take the characters up to a closing one. -/
def takeUntil (close : Char) (what : String) (taken : List Char) : Nat → Reading (List Char)
  | 0 => return taken
  | fuel + 1 => do
    let c ← take
    if c.isEmpty then
      if taken.isEmpty then fail (.missing what) 0 else fail (.openName close) taken.length
    else if c == [close] then
      if taken.isEmpty then fail (.missing what) 1 else return taken
    else takeUntil close what (taken ++ c) fuel

end Reading

open Reading

/-- The number of hexadecimal or octal digits. -/
def numberOfDigits (base : Nat) (digits : List Char) : Nat :=
  digits.foldl (fun n c => n * base + (Json.hexValue? c).getD 0) 0

/-- Whether a character is an octal digit. -/
def isOctal (c : Char) : Bool := '0' ≤ c && c ≤ '7'

/-- Whether a character is a hexadecimal digit. -/
def isHex (c : Char) : Bool := (Json.hexValue? c).isSome

/-- The text of characters. -/
def spell (cs : List Char) : String := String.ofList cs

/-- The control characters and the backslash, by the letters that escape them. -/
def controlEscape? : Char → Option Char
  | 'a' => some '\x07'
  | 'f' => some '\x0c'
  | 'n' => some '\n'
  | 'r' => some '\r'
  | 't' => some '\t'
  | 'v' => some '\x0b'
  | '\\' => some '\\'
  | _ => none

/-- The classes, by the letters that escape them. -/
def classEscape? (ascii : Bool) : Char → Option SetItem
  | 'd' => some (.ofClass .digit ascii false)
  | 'D' => some (.ofClass .digit ascii true)
  | 's' => some (.ofClass .blank ascii false)
  | 'S' => some (.ofClass .blank ascii true)
  | 'w' => some (.ofClass .word ascii false)
  | 'W' => some (.ofClass .word ascii true)
  | _ => none

/-- The character of an escape by a code of a fixed number of digits, behind its letter. -/
def codeEscape (letter : Char) (count : Nat) : Reading Char := do
  let digits ← takeWhile isHex count
  let spelling := '\\' :: letter :: digits
  if digits.length ≠ count then
    fail (.incompleteEscape (spell spelling)) spelling.length
  else
    let n := numberOfDigits 16 digits
    if 0x110000 ≤ n then fail (.badEscape (spell spelling)) spelling.length
    else return Char.ofNat n

/-- The character of an escape by name, which no character has here. -/
def nameEscape : Reading Char := do
  if !(← takeIf '\x7b') then fail (.missing "\x7b") 0
  else
    let name ← takeUntil '\x7d' "character name" [] ((← get).rest.length + 2)
    fail (.unknownCharacter (spell name)) (name.length + 4)

/-- The character of an octal escape of these digits. -/
def octalEscape (digits : List Char) : Reading Char := do
  let n := numberOfDigits 8 digits
  let spelling := '\\' :: digits
  if 0o377 < n then fail (.largeOctal (spell spelling)) spelling.length
  else return Char.ofNat n

/-- The character of an escape that is the same inside and outside of sets, behind the letter `c`. -/
def plainEscape (c : Char) : Reading Char := do
  match controlEscape? c with
  | some control => return control
  | none =>
    if c = 'x' then codeEscape 'x' 2
    else if c = 'u' then codeEscape 'u' 4
    else if c = 'U' then codeEscape 'U' 8
    else if c = 'N' then nameEscape
    else if c.isAlphanum then fail (.badEscape (spell ['\\', c])) 2
    else return c

/-- The item of an escape inside of a set, behind the letter `c`. -/
def setEscape (mode : Mode) (c : Char) : Reading SetItem := do
  if c = 'b' then return .one '\x08'
  else
    match classEscape? mode.ascii c with
    | some item => return item
    | none =>
      if isOctal c then return .one (← octalEscape (c :: (← takeWhile isOctal 2)))
      else return .one (← plainEscape c)

/-- The items of a set behind its opening bracket and its negation. -/
def readSet (mode : Mode) (here : Nat) (items : List SetItem) : Nat → Reading (List SetItem)
  | 0 => fail .openSet 0
  | fuel + 1 => do
    let this ← take
    match this with
    | [] => failAt here .openSet
    | c :: escaped =>
      if c = ']' ∧ !items.isEmpty then return items
      else
        let item ←
          match escaped with
          | e :: _ => setEscape mode e
          | [] => pure (.one c)
        if ← takeIf '-' then
          let that ← take
          match that with
          | [] => failAt here .openSet
          | d :: escaped =>
            if d = ']' ∧ escaped.isEmpty then return items ++ [item, .one '-']
            else
              let last ←
                match escaped with
                | e :: _ => setEscape mode e
                | [] => pure (.one d)
              match item, last with
              | .one a, .one b =>
                if b < a then
                  fail (.badRange (spell this) (spell that)) (this.length + 1 + that.length)
                else readSet mode here (items ++ [.range a b]) fuel
              | _, _ => fail (.badRange (spell this) (spell that)) (this.length + 1 + that.length)
        else readSet mode here (items ++ [item]) fuel

/-- A reference to a group, which has to be closed. -/
def reference (mode : Mode) (n : Nat) (offset : Nat) : Reading Pattern := do
  let d ← get
  if !d.widths.any (·.1 == n) then fail .groupOpen offset
  else
    match d.behindFrom with
    | some from_ => if from_ ≤ n then fail .groupInside 0 else return .again mode.folding n
    | none => return .again mode.folding n

/-- The pattern of a character. -/
def literal (mode : Mode) (c : Char) : Pattern := .one mode.folding c

/-- The pattern of an escape by digits, the first of which is not zero: three octal digits stand for a
character, all else for a group. -/
def digitEscape (mode : Mode) (c : Char) : Reading Pattern := do
  let next := (← get).next
  let digits ←
    match next with
    | [e] =>
      if e.isDigit then do
        advance
        pure [c, e]
      else pure [c]
    | _ => pure [c]
  match digits, (← get).next with
  | [a, b], [e] =>
    if isOctal a && isOctal b && isOctal e then
      advance
      return literal mode (← octalEscape [a, b, e])
  | _, _ => pure ()
  let n := numberOfDigits 10 digits
  if n < (← get).nextGroup then reference mode n (digits.length + 1)
  else fail (.noGroup n) digits.length

/-- A pattern with whether it may be repeated. -/
inductive Item where
  | plain (p : Pattern)
  | edge (p : Pattern)
  | repeated (p : Pattern)
  deriving Inhabited

/-- The pattern of an item. -/
def Item.pattern : Item → Pattern
  | .plain p => p
  | .edge p => p
  | .repeated p => p

/-- Where no word starts or ends; an empty text has no such place. -/
def insideWord (ascii : Bool) : Pattern :=
  .seq (.ahead true (.seq (.edge .first) (.edge .last))) (.edge (.inner ascii))

/-- The item of an escape outside of sets, behind the letter `c`. -/
def escape (mode : Mode) (c : Char) : Reading Item := do
  match classEscape? mode.ascii c with
  | some item => return .plain (.among mode.folding false [item])
  | none =>
    if c = 'A' then return .edge (.edge .first)
    else if c = 'b' then return .edge (.edge (.word mode.ascii))
    else if c = 'B' then return .edge (insideWord mode.ascii)
    else if c = 'Z' then return .edge (.edge .last)
    else if c = '0' then
      return .plain (literal mode (← octalEscape (c :: (← takeWhile isOctal 2))))
    else if c.isDigit then return .plain (← digitEscape mode c)
    else return .plain (literal mode (← plainEscape c))

/-- Whether a text is a name of letters, digits and underscores that does not start with a digit. -/
def isName (name : List Char) : Bool :=
  match name with
  | [] => false
  | c :: cs => Text.isWord c && !Text.isDigit c && cs.all Text.isWord

/-- The name of a group up to a closing character. -/
def groupName (close : Char) : Reading String := do
  let name ← takeUntil close "group name" [] ((← get).rest.length + 2)
  if isName name then return spell name
  else fail (.badName (spell name)) (name.length + 1)

/-- Open a group and give it its number. -/
def openGroup (name : Option String) : Reading Nat := do
  let d ← get
  let n := d.nextGroup
  match name with
  | none =>
    set { d with nextGroup := n + 1 }
    return n
  | some name =>
    match lookupField d.names name with
    | some before => fail (.nameTwice name n before) (name.length + 1)
    | none =>
      set { d with nextGroup := n + 1, names := d.names ++ [(name, n)] }
      return n

/-- Close a group. -/
def closeGroup (n : Nat) (p : Pattern) : Reading Unit :=
  modify fun d => { d with widths := (n, p.width d.widths) :: d.widths }

/-- A mode with a flag on or off, if the flag says how patterns match. -/
def setFlag? (mode : Mode) (on : Bool) (c : Char) : Option Mode :=
  match c with
  | 'i' => some { mode with fold := on }
  | 'm' => some { mode with lines := on }
  | 's' => some { mode with lineEnds := on }
  | 'x' => some { mode with spaced := on }
  | 'a' => some { mode with ascii := true }
  | 'u' => some { mode with ascii := false }
  | _ => none

/-- Whether a character is a flag. -/
def isFlag (c : Char) : Bool := "iLmsxatu".toList.contains c

/-- Whether a flag names a set of characters. -/
def isTypeFlag (c : Char) : Bool := c == 'a' || c == 'u' || c == 'L'

/-- Refuse a character that is no flag. -/
def noFlag {α : Type} (c : List Char) (what : String) : Reading α :=
  match c with
  | [d] =>
    if Text.isAlphanumeric d && !Text.isDigit d then fail .unknownFlag 1
    else fail (.missing what) 1
  | _ => fail (.missing what) c.length

/-- Flags that are switched off, behind the hyphen. -/
def flagsOff (mode : Mode) (on : List Char) (off : List Char) : Nat → Reading Mode
  | 0 => fail .endTooEarly 0
  | fuel + 1 => do
    let c ← take
    let what := if off.isEmpty then "flag" else ":"
    match c with
    | [] => fail (.missing what) 0
    | [c] =>
      if c = ':' ∧ !off.isEmpty then
        if off.contains 't' then fail .templateFlag 1
        else if on.any off.contains then fail .flagTwiceUsed 1
        else return mode
      else if isFlag c then
        if isTypeFlag c then fail .keptFlag 0
        else flagsOff ((setFlag? mode false c).getD mode) on (c :: off) fuel
      else noFlag [c] what
    | c => noFlag c what

/-- Flags, the first of which is `c`: the mode, and whether they are for a group of their own. -/
def flags (mode : Mode) (c : Char) (on : List Char) : Nat → Reading (Mode × Bool)
  | 0 => fail .endTooEarly 0
  | fuel + 1 => do
    if c = 'L' then fail .localeFlag 0
    else if isTypeFlag c && on.any (fun d => isTypeFlag d && d != c) then fail .mixedFlags 0
    else
      let mode := (setFlag? mode true c).getD mode
      let on := c :: on
      let next ← take
      match next with
      | [] => fail (.missing "-, : or )") 0
      | [d] =>
        if d = ')' then return (mode, false)
        else if d = ':' then
          if on.contains 't' then fail .templateFlag 1 else return (mode, true)
        else if d = '-' then
          if on.contains 't' then fail .templateFlag 1
          else return (← flagsOff mode on [] ((← get).rest.length + 3), true)
        else if isFlag d then flags mode d on fuel
        else noFlag [d] "-, : or )"
      | d => noFlag d "-, : or )"

/-- How often a repetition repeats, behind its opening brace; nothing if it is no repetition. -/
def readCounts : Reading (Option (Nat × Option Nat)) := do
  let d ← get
  let here ← tell
  if d.next == ['\x7d'] then return none
  else
    let low ← takeWhile Char.isDigit (d.rest.length + 1)
    let comma ← takeIf ','
    let high ← if comma then takeWhile Char.isDigit (d.rest.length + 1) else pure low
    let closed ← takeIf '\x7d'
    if !closed then
      set d
      return none
    else
      let least := numberOfDigits 10 low
      let most := if high.isEmpty then none else some (numberOfDigits 10 high)
      let limit := 4294967295
      if limit ≤ least ∨ limit ≤ most.getD 0 then throw ⟨.repeatSize, none⟩
      else
        match most with
        | some n => if n < least then failAt here .repeatOrder else return some (least, most)
        | none => return some (least, none)

/-- How a repetition tries, by what stands behind it. -/
def readGreed : Reading Greed := do
  if ← takeIf '?' then return .lazy
  else return if ← takeIf '+' then .possessive else .greedy

/-- Repeat the last item. -/
def repeatLast (items : List Item) (position : Nat) (counts : Nat × Option Nat) :
    Reading (List Item) := do
  match items.getLast? with
  | none | some (.edge _) => failAt position .nothingToRepeat
  | some (.repeated _) => failAt position .repeatedTwice
  | some (.plain p) =>
    let greed ← readGreed
    return items.dropLast ++ [.repeated (.many p counts.1 counts.2 greed)]

/-- The pattern of items one behind the other. -/
def sequence (items : List Item) : Pattern :=
  items.foldr (fun item p =>
    match p with
    | .empty => item.pattern
    | p => .seq item.pattern p) .empty

/-- Skip the rest of a line. -/
def skipLine : Nat → Reading Unit
  | 0 => return
  | fuel + 1 => do
    let c ← take
    if c.isEmpty || c == ['\n'] then return else skipLine fuel

/-- Skip a comment behind its opening. -/
def skipComment (start : Nat) : Nat → Reading Unit
  | 0 => return
  | fuel + 1 => do
    if (← get).next.isEmpty then failAt start .openComment
    else
      let c ← take
      if c == [')'] then return else skipComment start fuel

/-- The number of the group that a condition asks for. -/
def askedGroup : Reading Nat := do
  let name ← takeUntil ')' "group name" [] ((← get).rest.length + 2)
  if isName name then
    match lookupField (← get).names (spell name) with
    | some n => return n
    | none => fail (.unknownName (spell name)) (name.length + 1)
  else if name.all Char.isDigit then
    let n := numberOfDigits 10 name
    if n = 0 then fail .groupZero (name.length + 1)
    else
      let position := (← tell) - name.length - 1
      modify fun d =>
        if d.asked.any (·.1 == n) then d else { d with asked := d.asked ++ [(n, position)] }
      return n
  else fail (.badName (spell name)) (name.length + 1)

/-- Refuse a group that is not closed. -/
def close (start : Nat) : Reading Unit := do
  if !(← takeIf ')') then failAt start .openGroup

mutual

/-- Alternatives up to the end of their group, and the flags that hold behind them. -/
def readAlternatives (fuel : Nat) (mode : Mode) (outermost : Bool) : Reading (Pattern × Mode) := do
  match fuel with
  | 0 => fail .endTooEarly 0
  | fuel + 1 =>
    let (items, mode) ← readItems fuel mode outermost []
    if ← takeIf '|' then
      let (p, mode) ← readAlternatives fuel mode false
      return (.alt (sequence items) p, mode)
    else return (sequence items, mode)

/-- Items up to the end of their alternative; global flags may come `first`. -/
def readItems (fuel : Nat) (mode : Mode) (first : Bool) (items : List Item) :
    Reading (List Item × Mode) := do
  match fuel with
  | 0 => fail .endTooEarly 0
  | fuel + 1 =>
    match (← get).next with
    | [] => return (items, mode)
    | c :: escaped =>
      if c = '|' ∨ c = ')' then return (items, mode)
      else
        advance
        if mode.spaced ∧ escaped.isEmpty ∧ (c = ' ' ∨ (9 ≤ c.toNat ∧ c.toNat ≤ 13)) then
          readItems fuel mode first items
        else if mode.spaced ∧ c = '#' then
          skipLine ((← get).rest.length + 2)
          readItems fuel mode first items
        else
          let (items, mode) ← readItem fuel mode first items c escaped
          readItems fuel mode first items

/-- One item behind its first character, or two of them for an escape. -/
def readItem (fuel : Nat) (mode : Mode) (first : Bool) (items : List Item) (c : Char)
    (escaped : List Char) : Reading (List Item × Mode) := do
  match fuel with
  | 0 => fail .endTooEarly 0
  | fuel + 1 =>
    match escaped with
    | e :: _ => return (items ++ [← escape mode e], mode)
    | [] =>
      let here ← tell
      if c = '[' then
        let negated ← takeIf '^'
        let set ← readSet mode (here - 1) [] ((← get).rest.length + 2)
        return (items ++ [.plain (.among mode.folding negated set)], mode)
      else if c = '*' then return (← repeatLast items (here - 1) (0, none), mode)
      else if c = '+' then return (← repeatLast items (here - 1) (1, none), mode)
      else if c = '?' then return (← repeatLast items (here - 1) (0, some 1), mode)
      else if c = '\x7b' then
        match ← readCounts with
        | some counts => return (← repeatLast items (here - 1) counts, mode)
        | none => return (items ++ [.plain (literal mode c)], mode)
      else if c = '.' then return (items ++ [.plain (.any mode.lineEnds)], mode)
      else if c = '^' then
        return (items ++ [.edge (.edge (if mode.lines then .lineFirst else .first))], mode)
      else if c = '$' then
        return (items ++ [.edge (.edge (if mode.lines then .lineLast else .lastLine))], mode)
      else if c = '(' then readGroup fuel mode first items (here - 1)
      else return (items ++ [.plain (literal mode c)], mode)

/-- What a parenthesis opens that stands at `start`. -/
def readGroup (fuel : Nat) (mode : Mode) (first : Bool) (items : List Item) (start : Nat) :
    Reading (List Item × Mode) := do
  match fuel with
  | 0 => fail .endTooEarly 0
  | fuel + 1 =>
    if !(← takeIf '?') then
      let n ← openGroup none
      let (p, _) ← readAlternatives fuel mode false
      close start
      closeGroup n p
      return (items ++ [.plain (.group n p)], mode)
    else
      let kind ← take
      match kind with
      | [] => fail .endTooEarly 0
      | ['P'] =>
        if ← takeIf '<' then
          readNamed fuel mode items start
        else if ← takeIf '=' then
          let name ← groupName ')'
          match lookupField (← get).names name with
          | none => fail (.unknownName name) (name.length + 1)
          | some n => return (items ++ [.plain (← reference mode n (name.length + 1))], mode)
        else
          let c ← take
          if c.isEmpty then fail .endTooEarly 0
          else fail (.unknownExtension (spell ('P' :: c))) (c.length + 2)
      | [':'] =>
        let (p, _) ← readAlternatives fuel mode false
        close start
        return (items ++ [.plain p], mode)
      | ['#'] =>
        skipComment start ((← get).rest.length + 2)
        return (items, mode)
      | ['='] => readLook fuel mode items start true false
      | ['!'] => readLook fuel mode items start true true
      | ['<'] =>
        let c ← take
        match c with
        | [] => fail .endTooEarly 0
        | ['='] => readLook fuel mode items start false false
        | ['!'] => readLook fuel mode items start false true
        | c => fail (.unknownExtension (spell ('<' :: c))) (c.length + 2)
      | ['('] =>
        let n ← askedGroup
        match (← get).behindFrom with
        | some from_ =>
          if !(← get).widths.any (·.1 == n) then fail .groupOpen 0
          else if from_ ≤ n then fail .groupInside 0
        | none => pure ()
        let (yes, _) ← readItems fuel mode false []
        let no ←
          if ← takeIf '|' then
            let (no, _) ← readItems fuel mode false []
            if (← get).next == ['|'] then fail .branches 0
            pure (sequence no)
          else pure .empty
        close start
        return (items ++ [.plain (.ifGroup n (sequence yes) no)], mode)
      | ['>'] =>
        let (p, _) ← readAlternatives fuel mode false
        close start
        return (items ++ [.plain (.atomic p)], mode)
      | [c] =>
        if c = '-' ∨ isFlag c then
          let (inner, own) ←
            if c = '-' then do pure (← flagsOff mode [] [] ((← get).rest.length + 3), true)
            else flags mode c [] ((← get).rest.length + 3)
          if !own then
            if !first || !items.isEmpty then failAt start .lateFlags
            else return (items, inner)
          else
            let (p, _) ← readAlternatives fuel inner false
            close start
            return (items ++ [.plain p], mode)
        else fail (.unknownExtension (spell [c])) 2
      | c => fail (.unknownExtension (spell c)) (c.length + 1)

/-- A group with a name. -/
def readNamed (fuel : Nat) (mode : Mode) (items : List Item) (start : Nat) :
    Reading (List Item × Mode) := do
  match fuel with
  | 0 => fail .endTooEarly 0
  | fuel + 1 =>
    let name ← groupName '>'
    let n ← openGroup (some name)
    let (p, _) ← readAlternatives fuel mode false
    close start
    closeGroup n p
    return (items ++ [.plain (.group n p)], mode)

/-- What has to stand around. -/
def readLook (fuel : Nat) (mode : Mode) (items : List Item) (start : Nat) (ahead negated : Bool) :
    Reading (List Item × Mode) := do
  match fuel with
  | 0 => fail .endTooEarly 0
  | fuel + 1 =>
    let outer := (← get).behindFrom
    if !ahead && outer.isNone then
      modify fun d => { d with behindFrom := some d.nextGroup }
    let (p, _) ← readAlternatives fuel mode false
    if !ahead then modify fun d => { d with behindFrom := outer }
    close start
    if ahead then return (items ++ [.plain (.ahead negated p)], mode)
    else return (items ++ [.plain (.behind negated 0 p)], mode)

end

/-- Give each look behind the number of characters it goes back. -/
def settle (widths : List (Nat × Nat × Option Nat)) : Pattern → Except PatternFault Pattern
  | .seq a b => do return .seq (← settle widths a) (← settle widths b)
  | .alt a b => do return .alt (← settle widths a) (← settle widths b)
  | .group n p => do return .group n (← settle widths p)
  | .many p least most greed => do return .many (← settle widths p) least most greed
  | .atomic p => do return .atomic (← settle widths p)
  | .ahead negated p => do return .ahead negated (← settle widths p)
  | .behind negated _ p => do
    let q ← settle widths p
    match p.width widths with
    | (least, some most) =>
      if least = most then return .behind negated least q else throw ⟨.varyingWidth, none⟩
    | (_, none) => throw ⟨.varyingWidth, none⟩
  | .ifGroup n yes no => do return .ifGroup n (← settle widths yes) (← settle widths no)
  | p => .ok p

/-- The pattern that a text spells. -/
def read (text : String) : Except PatternFault Pattern := do
  let cs := text.toList
  let start : Draft := ⟨[], cs, 0, 1, [], [], none, []⟩
  let mode : Mode := ⟨false, false, false, false, false⟩
  let reading : Reading Pattern := do
    advance
    let (p, _) ← readAlternatives (6 * cs.length + 8) mode true
    if !(← get).next.isEmpty then fail .unbalanced 0
    let d ← get
    match d.asked.find? fun (n, _) => d.nextGroup ≤ n with
    | some (n, position) => failAt position (.noGroup n)
    | none => return p
  let (p, draft) ← reading.run start
  settle draft.widths p

end Pattern

end Remediation
