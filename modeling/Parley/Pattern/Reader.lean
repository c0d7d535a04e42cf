import Parley.Pattern.Node
import Parley.Unicode.Identifier
import Parley.Unicode.Names
import Parley.Value.Integer

/-!
# Parley.Pattern.Reader — patterns from text

The reader follows the usual grammar of text patterns: alternatives, repetitions with three
appetites, character sets, numbered and named groups, references, conditions, looks ahead and
behind, modes in force from a place on or within a group, comments.  It refuses text outside the
grammar; a repetition count beyond the limit is refused for a reason of its own, and so are groups
that are too deep in one another.
-/

namespace Parley.Pattern

/-- Why a text is no pattern. -/
inductive Refusal
  | grammar
  | repetitionTooLarge
  | incompatibleModes
  | tooDeep
  deriving DecidableEq, Repr

/-- The reader's place and what it has learnt so far. -/
structure Scan where
  rest : List Char
  /-- Modes that hold for the whole pattern. -/
  modes : Mode
  /-- Widths of the groups by number, none while a group is open. -/
  widths : List (Option (Nat × Nat))
  names : List (String × Nat)
  /-- The number of groups at the outermost look behind that is open. -/
  behind : Option Nat
  /-- Group numbers that conditions ask for. -/
  asked : List Nat
  /-- How many calls may still be inside those for the groups that are open. -/
  calls : Nat

abbrev Read (α : Type) := StateT Scan (Except Refusal) α

def refuse {α : Type} : Read α := throw .grammar

def peek : Read (Option Char) := do return (← get).rest.head?

def skip (n : Nat) : Read Unit := modify fun s => { s with rest := s.rest.drop n }

/-- The next character, if there is one. -/
def next? : Read (Option Char) := do
  let c ← peek
  skip 1
  return c

def next : Read Char := do
  match ← next? with
  | some c => return c
  | none => refuse

def accept (c : Char) : Read Bool := do
  if (← peek) = some c then
    skip 1
    return true
  else return false

/-- As many characters of a class as there are, up to a limit. -/
def takeClass (p : Char → Bool) (limit : Nat) : Read (List Char) := do
  let run := ((← get).rest.take limit).takeWhile p
  skip run.length
  return run

/-- The text up to a closing character, which is taken too; it must not be empty. -/
def takeUntil (closing : Char) : Read (List Char) := do
  let rest := (← get).rest
  let run := rest.takeWhile (· ≠ closing)
  if run.isEmpty || run.length = rest.length then refuse
  else
    skip (run.length + 1)
    return run

/-- A backslash at the very end is refused as soon as it is next. -/
def checkEnd : Read Unit := do
  if (← get).rest = ['\x5c'] then refuse else return ()

/-- Takes some calls for what is inside a group. -/
def takeCalls (count : Nat) : Read Unit := do
  checkEnd
  if (← get).calls < count then throw .tooDeep
  else modify fun s => { s with calls := s.calls - count }

def giveBack (count : Nat) : Read Unit := modify fun s => { s with calls := s.calls + count }

def isOctal (c : Char) : Bool := '0' ≤ c && c ≤ '7'
def isDigit (c : Char) : Bool := '0' ≤ c && c ≤ '9'
def isAsciiLetter (c : Char) : Bool := ('a' ≤ c && c ≤ 'z') || ('A' ≤ c && c ≤ 'Z')

def hexValue (c : Char) : Nat :=
  if isDigit c then c.toNat - 48 else if 'a' ≤ c then c.toNat - 87 else c.toNat - 55

def isHex (c : Char) : Bool :=
  isDigit c || ('a' ≤ c && c ≤ 'f') || ('A' ≤ c && c ≤ 'F')

def valueIn (base : Nat) (cs : List Char) : Nat := cs.foldl (fun n c => n * base + hexValue c) 0

/-- Exactly `count` hexadecimal digits. -/
def hexCode (count : Nat) : Read Nat := do
  let run ← takeClass isHex count
  if run.length = count && valueIn 16 run ≤ 0x10FFFF then return valueIn 16 run else refuse

/-- Characters with a fixed escape. -/
def controlCode? : Char → Option Nat
  | 'a' => some 7
  | 'b' => some 8
  | 'f' => some 12
  | 'n' => some 10
  | 'r' => some 13
  | 't' => some 9
  | 'v' => some 11
  | '\x5c' => some 92
  | _ => none

def category? : Char → Option (Category × Bool)
  | 'd' => some (.decimal, false)
  | 'D' => some (.decimal, true)
  | 's' => some (.blank, false)
  | 'S' => some (.blank, true)
  | 'w' => some (.word, false)
  | 'W' => some (.word, true)
  | _ => none

/-- A code point given by the name of its character, in braces. -/
def namedCode : Read Nat := do
  if ← accept '\x7b' then
    match Unicode.named? (← takeUntil '\x7d') with
    | some n => return n
    | none => refuse
  else refuse

/-- A code point given by digits or a name behind an escape, if the letter announces one. -/
def codeEscape (c : Char) : Read (Option Nat) :=
  match c with
  | 'x' => some <$> hexCode 2
  | 'u' => some <$> hexCode 4
  | 'U' => some <$> hexCode 8
  | 'N' => some <$> namedCode
  | _ => return none

/-- An escape inside a set, behind its backslash. -/
def setEscape : Read SetItem := do
  let c ← next
  match controlCode? c with
  | some n => return .code n
  | none =>
    match category? c with
    | some (k, negated) => return .category k negated
    | none =>
      match ← codeEscape c with
      | some n => return .code n
      | none =>
        if isOctal c then
          let n := valueIn 8 (c :: (← takeClass isOctal 2))
          if n ≤ 0o377 then return .code n else refuse
        else if isDigit c || isAsciiLetter c then refuse
        else return .code c.toNat

/-- The number of groups opened so far, and the whole pattern. -/
def Scan.groups (s : Scan) : Nat := s.widths.length

def Scan.closedWidth? (s : Scan) (index : Nat) : Option (Nat × Nat) := (s.widths[index]?).join

/-- Inside a look behind only groups that were closed before it can be referred to. -/
def checkBehind (index : Nat) : Read Unit := do
  let s ← get
  match s.behind with
  | none => return ()
  | some count =>
    if (s.closedWidth? index).isSome && index < count then return () else refuse

/-- A reference to a closed group. -/
def referenceTo (mode : Mode) (index : Nat) : Read Node := do
  match (← get).closedWidth? index with
  | none => refuse
  | some (low, high) =>
    checkBehind index
    return .reference mode index low high

def boundaryEscape? : Char → Option Anchor
  | 'A' => some .textStart
  | 'Z' => some .textEnd
  | 'b' => some .boundary
  | 'B' => some .noBoundary
  | _ => none

/-- An octal code or a group reference, behind a backslash and a first digit that is not zero. -/
def digitEscape (mode : Mode) (first : Char) : Read Node := do
  let second ← peek
  match second.filter isDigit with
  | none => referenceTo mode (valueIn 10 [first])
  | some second =>
    skip 1
    let third ← peek
    match third.filter isOctal with
    | some third =>
      if isOctal first && isOctal second then
        skip 1
        let n := valueIn 8 [first, second, third]
        if n ≤ 0o377 then return .char mode false n else refuse
      else referenceTo mode (valueIn 10 [first, second])
    | none => referenceTo mode (valueIn 10 [first, second])

/-- An escape outside sets, behind its backslash. -/
def escape (mode : Mode) : Read Node := do
  let c ← next
  match boundaryEscape? c with
  | some place => return .anchor mode place
  | none =>
    match category? c with
    | some (k, negated) => return .set mode false [.category k negated]
    | none =>
      match controlCode? c with
      | some n => return .char mode false n
      | none =>
        match ← codeEscape c with
        | some n => return .char mode false n
        | none =>
          if c = '0' then return .char mode false (valueIn 8 (← takeClass isOctal 2))
          else if isDigit c then digitEscape mode c
          else if isAsciiLetter c then refuse
          else return .char mode false c.toNat

/-- One end of a range, or a single member. -/
def setMember (c : Char) : Read SetItem :=
  if c = '\x5c' then setEscape else return .code c.toNat

/-- The members of a set up to its closing bracket. -/
def setItems : Nat → List SetItem → Read (List SetItem)
  | 0, _ => refuse
  | fuel + 1, done => do
    let c ← next
    if c = ']' && !done.isEmpty then return done.reverse
    else
      let item ← setMember c
      if ← accept '-' then
        let d ← next
        if d = ']' then return (.code 45 :: item :: done).reverse
        else
          match item, ← setMember d with
          | .code low, .code high =>
            if high < low then refuse else setItems fuel (.range low high :: done)
          | _, _ => refuse
      else setItems fuel (item :: done)

/-- A set behind its opening bracket. -/
def setNode (mode : Mode) : Read Node := do
  let negated ← accept '^'
  let items ← setItems ((← get).rest.length + 1) []
  match items with
  | [.code n] => return .char mode negated n
  | items => return .set mode negated items

/-- Repetition counts must stay below this one. -/
def countLimit : Nat := 4294967295

def checkCount (digits : List Char) : Read Unit :=
  if countLimit ≤ valueIn 10 digits then throw .repetitionTooLarge else return ()

/-- Counts in braces behind the opening brace; none if the text there is no such thing. -/
def counts : Read (Option (Nat × Option Nat)) := do
  let start := (← get).rest
  if start.head? = some '}' then return none
  else
    let low ← takeClass isDigit start.length
    let high ← if ← accept ',' then takeClass isDigit start.length else pure low
    if !(← accept '}') then
      modify fun s => { s with rest := start }
      return none
    else
      checkEnd
      checkCount low
      checkCount high
      let least := valueIn 10 low
      if high.isEmpty then return some (least, none)
      else
        let most := valueIn 10 high
        if most < least then refuse else return some (least, some most)

def appetite : Read Appetite := do
  if ← accept '?' then return .lazy
  else if ← accept '+' then return .possessive
  else return .greedy

/-- The last node written so far, repeated.  Places and repetitions cannot be repeated. -/
def repeatLast (done : List Node) (least : Nat) (most : Option Nat) : Read (List Node) :=
  match done with
  | [] | .anchor .. :: _ | .repeated .. :: _ => refuse
  | last :: before => do
    let appetite ← appetite
    return .repeated least most appetite last :: before

/-- A mode letter switched on; letters for the character repertoire exclude each other. -/
def switchOn (c : Char) (m : Mode) : Option Mode :=
  match c with
  | 'i' => some { m with ignoreCase := true }
  | 'm' => some { m with multiline := true }
  | 's' => some { m with dotAll := true }
  | 'x' => some { m with verbose := true }
  | 'a' => if m.unicode then none else some { m with ascii := true }
  | 'u' => if m.ascii then none else some { m with unicode := true }
  | 't' => some m
  | _ => none

/-- A mode letter switched off; letters for the character repertoire cannot be. -/
def switchOff (c : Char) (m : Mode) : Option Mode :=
  match c with
  | 'i' => some { m with ignoreCase := true }
  | 'm' => some { m with multiline := true }
  | 's' => some { m with dotAll := true }
  | 'x' => some { m with verbose := true }
  | _ => none

/-- Modes with others added and taken away; naming a repertoire replaces the one in force. -/
def Mode.combine (m on off : Mode) : Mode :=
  let repertoire := on.ascii || on.unicode
  { ignoreCase := (m.ignoreCase || on.ignoreCase) && !off.ignoreCase
    multiline := (m.multiline || on.multiline) && !off.multiline
    dotAll := (m.dotAll || on.dotAll) && !off.dotAll
    verbose := (m.verbose || on.verbose) && !off.verbose
    ascii := if repertoire then on.ascii else m.ascii
    unicode := if repertoire then on.unicode else m.unicode }

def Mode.meets (a b : Mode) : Bool :=
  (a.ignoreCase && b.ignoreCase) || (a.multiline && b.multiline) || (a.dotAll && b.dotAll)
    || (a.verbose && b.verbose)

/-- Letters to switch off, up to the colon. -/
def lettersOff : Nat → Mode → Char → Read Mode
  | 0, _, _ => refuse
  | fuel + 1, m, c =>
    match switchOff c m with
    | none => refuse
    | some m => do
      let d ← next
      if d = ':' then return m else lettersOff fuel m d

/-- Letters to switch on, up to the character behind them. -/
def lettersOn : Nat → Mode → Char → Read (Mode × Char)
  | 0, _, _ => refuse
  | fuel + 1, m, c =>
    match switchOn c m with
    | none => refuse
    | some m => do
      let d ← next
      if d = ')' || d = '-' || d = ':' then return (m, d) else lettersOn fuel m d

/-- What a list of mode letters says. -/
inductive ModeChange
  | whole (on : Mode)
  | within (on off : Mode)

/-- Mode letters from their first character on. -/
def modeChange (c : Char) : Read ModeChange := do
  let fuel := (← get).rest.length + 2
  let (on, closing) ← if c = '-' then pure (({} : Mode), '-') else lettersOn fuel {} c
  if closing = ')' then return .whole on
  else if closing = ':' then return .within on {}
  else
    let d ← next
    let off ← lettersOff fuel {} d
    if on.meets off then refuse else return .within on off

def groupName : Read (List Char) := do
  let name ← takeUntil '>'
  if Unicode.isIdentifier name then return name else refuse

/-- A reference to a group by its name. -/
def namedReference (mode : Mode) : Read Node := do
  let name ← takeUntil ')'
  if !Unicode.isIdentifier name then refuse
  else
    match (← get).names.lookup (String.ofList name) with
    | none => refuse
    | some index => referenceTo mode index

/-- Opens a group and gives its number. -/
def openGroup (name : Option (List Char)) : Read Nat := do
  let s ← get
  let index := s.groups
  match name with
  | none => set { s with widths := s.widths ++ [none] }
  | some name =>
    let name := String.ofList name
    if (s.names.lookup name).isSome then refuse
    else set { s with widths := s.widths ++ [none], names := (name, index) :: s.names }
  return index

def closeGroup (index : Nat) (inner : Node) : Read Unit :=
  modify fun s => { s with widths := s.widths.set index (some inner.width) }

/-- The number of the group that a condition asks for. -/
def conditionGroup : Read Nat := do
  let name ← takeUntil ')'
  let index ←
    if Unicode.isIdentifier name then
      match (← get).names.lookup (String.ofList name) with
      | some index => pure index
      | none => refuse
    else
      match Value.readInteger (String.ofList name) with
      | .error _ => refuse
      | .ok n =>
        if n ≤ 0 || 1073741823 ≤ n then refuse
        else
          modify fun s => { s with asked := n.toNat :: s.asked }
          pure n.toNat
  checkBehind index
  return index

def close : Read Unit := do
  if ← accept ')' then return () else refuse

def sequence (done : List Node) : Node :=
  match done with
  | [] => .empty
  | last :: before => before.foldl (fun node earlier => .seq earlier node) last

/-- Skips a comment up to the end of its line. -/
def skipLine : Read Unit := do
  let rest := (← get).rest
  skip ((rest.takeWhile (· ≠ '\n')).length + 1)

def isVerboseBlank (c : Char) : Bool := c = ' ' || (9 ≤ c.toNat && c.toNat ≤ 13)

mutual

/-- Alternatives up to a closing parenthesis or the end. -/
def alternatives : Nat → (top : Bool) → Mode → Read Node
  | 0, _, _ => refuse
  | fuel + 1, top, mode => do
    takeCalls 2
    let first ← branch fuel top top mode []
    let node ← moreAlternatives fuel top mode first
    giveBack 2
    return node

def moreAlternatives : Nat → (top : Bool) → Mode → Node → Read Node
  | 0, _, _, _ => refuse
  | fuel + 1, top, mode, first => do
    if ← accept '|' then
      let modes := (← get).modes
      let mode := if top then modes else mode
      let second ← branch fuel top false mode []
      let others ← moreAlternatives fuel top mode second
      return .alt first others
    else return first

/-- One alternative.  `start` tells whether modes for the whole pattern may still be set. -/
def branch : Nat → (top start : Bool) → Mode → List Node → Read Node
  | 0, _, _, _, _ => refuse
  | fuel + 1, top, start, mode, done => do
    match ← peek with
    | none | some '|' | some ')' => return sequence done
    | some c =>
      skip 1
      let counted (least : Nat) (most : Option Nat) : Read Node := do
        branch fuel top start mode (← repeatLast done least most)
      if mode.verbose && isVerboseBlank c then branch fuel top start mode done
      else if mode.verbose && c = '#' then
        skipLine
        branch fuel top start mode done
      else
        match c with
        | '\x5c' => branch fuel top start mode ((← escape mode) :: done)
        | '[' => branch fuel top start mode ((← setNode mode) :: done)
        | '?' => counted 0 (some 1)
        | '*' => counted 0 none
        | '+' => counted 1 none
        | '{' =>
          match ← counts with
          | some (least, most) => counted least most
          | none => branch fuel top start mode (.char mode false c.toNat :: done)
        | '.' => branch fuel top start mode (.any mode.dotAll :: done)
        | '^' =>
          let place := if mode.multiline then Anchor.lineStart else .textStart
          branch fuel top start mode (.anchor mode place :: done)
        | '$' =>
          let place := if mode.multiline then Anchor.lineEnd else .lastLineEnd
          branch fuel top start mode (.anchor mode place :: done)
        | '(' => parenthesis fuel top start mode done
        | c => branch fuel top start mode (.char mode false c.toNat :: done)

/-- What stands behind an opening parenthesis, and the rest of the alternative. -/
def parenthesis : Nat → (top start : Bool) → Mode → List Node → Read Node
  | 0, _, _, _, _ => refuse
  | fuel + 1, top, start, mode, done => do
    let continueWith (node : Node) : Read Node := branch fuel top start mode (node :: done)
    let captured (name : Option (List Char)) : Read Node := do
      let index ← openGroup name
      let inner ← alternatives fuel false mode
      close
      closeGroup index inner
      continueWith (.group index inner)
    let look (isBehind negated : Bool) : Read Node := do
      let outer := (← get).behind
      if isBehind && outer.isNone then modify fun s => { s with behind := some s.groups }
      let inner ← alternatives fuel false mode
      if isBehind then modify fun s => { s with behind := outer }
      close
      continueWith (if isBehind then .behind negated inner else .ahead negated inner)
    if !(← accept '?') then captured none
    else
      let c ← next
      match c with
      | 'P' =>
        if ← accept '<' then captured (some (← groupName))
        else if ← accept '=' then continueWith (← namedReference mode)
        else refuse
      | ':' =>
        let inner ← alternatives fuel false mode
        close
        continueWith (.plain inner)
      | '#' =>
        let rest := (← get).rest
        let comment := rest.takeWhile (· ≠ ')')
        if comment.length = rest.length then refuse
        else
          skip (comment.length + 1)
          branch fuel top start mode done
      | '=' => look false false
      | '!' => look false true
      | '<' =>
        let d ← next
        if d = '=' then look true false else if d = '!' then look true true else refuse
      | '(' =>
        let index ← conditionGroup
        takeCalls 1
        let yes ← branch fuel false false mode []
        let no ← if ← accept '|' then branch fuel false false mode [] else pure .empty
        giveBack 1
        if (← peek) = some '|' then refuse
        else
          close
          continueWith (.conditional index yes no)
      | '>' =>
        let inner ← alternatives fuel false mode
        close
        continueWith (.atomic inner)
      | c =>
        match ← modeChange c with
        | .whole on =>
          if start && done.isEmpty then
            modify fun s => { s with modes :=
              { ignoreCase := s.modes.ignoreCase || on.ignoreCase
                multiline := s.modes.multiline || on.multiline
                dotAll := s.modes.dotAll || on.dotAll
                verbose := s.modes.verbose || on.verbose
                ascii := s.modes.ascii || on.ascii
                unicode := s.modes.unicode || on.unicode } }
            branch fuel top start (← get).modes done
          else refuse
        | .within on off =>
          let inner ← alternatives fuel false (mode.combine on off)
          close
          continueWith (.plain inner)

end

/-- A whole pattern. -/
def read (ignoreCase : Bool) (text : String) : Except Refusal Node := do
  let cs := text.toList
  let modes : Mode := { ignoreCase := ignoreCase }
  let start : Scan := ⟨cs, modes, [none], [], none, [], Limits.calls⟩
  let (node, s) ← (alternatives (4 * cs.length + 8) true modes).run start
  if s.modes.ascii && s.modes.unicode then .error .incompatibleModes
  else if !s.rest.isEmpty then .error .grammar
  else if s.asked.any fun index => s.groups ≤ index then .error .grammar
  else if node.fixedBehind then .ok node
  else .error .grammar

end Parley.Pattern
