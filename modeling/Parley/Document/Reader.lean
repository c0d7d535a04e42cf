import Parley.Value.Limits

/-!
# Parley.Document.Reader — values from document text

The reader follows the grammar of JSON text, admits `NaN` and the infinities, and says where the
text departs from the grammar.  Positions count characters from the start of the text.  Numbers with
too many digits and lists and objects too deep in one another are not read.  A text has no halves of
surrogate pairs; where an escape stands for one, the reader puts the replacement character.
-/

namespace Parley.Document

/-- What is left of the text, and how much came before it. -/
structure Cursor where
  rest : List Char
  position : Nat

/-- Why a text cannot be read. -/
inductive Complaint
  /-- A departure from the grammar and where it is. -/
  | departure (wording : String) (position : Nat)
  | limit (cause : Fault)

def expected (wording : String) (position : Nat) {α : Type} : Except Complaint α :=
  .error (.departure wording position)

def isSpace (c : Char) : Bool := c = ' ' || c = '\t' || c = '\n' || c = '\r'

def Cursor.skip (c : Cursor) : Cursor :=
  let blanks := (c.rest.takeWhile isSpace).length
  ⟨c.rest.drop blanks, c.position + blanks⟩

def Cursor.advance (c : Cursor) (n : Nat) : Cursor := ⟨c.rest.drop n, c.position + n⟩

def hexValue? (c : Char) : Option Nat :=
  if '0' ≤ c && c ≤ '9' then some (c.toNat - '0'.toNat)
  else if 'a' ≤ c && c ≤ 'f' then some (c.toNat - 'a'.toNat + 10)
  else if 'A' ≤ c && c ≤ 'F' then some (c.toNat - 'A'.toNat + 10)
  else none

/-- The value of four hexadecimal digits. -/
def unit? : List Char → Option Nat
  | [a, b, c, d] => do
    some ((((← hexValue? a) * 16 + (← hexValue? b)) * 16 + (← hexValue? c)) * 16 + (← hexValue? d))
  | _ => none

def simpleEscape? (c : Char) : Option Char :=
  if c = Quoting.doubleQuote || c = Quoting.backslash || c = '/' then some c
  else if c = 'b' then some (Char.ofNat 8)
  else if c = 'f' then some (Char.ofNat 12)
  else if c = 'n' then some '\n'
  else if c = 'r' then some '\r'
  else if c = 't' then some '\t'
  else none

/-- A character from one unit, or from a pair of surrogate units with the second one ahead and more
text behind it. -/
def fromUnits (first : Nat) (ahead : List Char) : Char × Nat :=
  let lone : Char × Nat :=
    (if first < 0xD800 || 0xDFFF < first then Char.ofNat first else Char.ofNat 0xFFFD, 0)
  if 0xD800 ≤ first && first ≤ 0xDBFF then
    match ahead with
    | '\x5c' :: 'u' :: more =>
      match unit? (more.take 4) with
      | some second =>
        if 0xDC00 ≤ second && second ≤ 0xDFFF && 4 < more.length then
          (Char.ofNat (0x10000 + (first - 0xD800) * 0x400 + (second - 0xDC00)), 6)
        else lone
      | none => lone
    | _ => lone
  else lone

/-- Quoted text behind its opening mark, which stands at `opening`. -/
def readText : Nat → Nat → List Char → Cursor → Except Complaint (String × Cursor)
  | 0, opening, _, _ => expected "Unterminated string starting at" opening
  | fuel + 1, opening, done, c =>
    match c.rest with
    | [] => expected "Unterminated string starting at" opening
    | h :: rest =>
      if h = Quoting.doubleQuote then .ok (String.ofList done.reverse, c.advance 1)
      else if h = Quoting.backslash then
        match rest with
        | [] => expected "Unterminated string starting at" opening
        | 'u' :: digits =>
          match unit? (digits.take 4) with
          | none => expected "Invalid \\uXXXX escape" (c.position + 1)
          | some n =>
            if digits.length ≤ 4 then expected "Invalid \\uXXXX escape" (c.position + 1)
            else
              let (char, extra) := fromUnits n (digits.drop 4)
              readText fuel opening (char :: done) (c.advance (6 + extra))
        | e :: _ =>
          match simpleEscape? e with
          | some char => readText fuel opening (char :: done) (c.advance 2)
          | none => expected "Invalid \\escape" c.position
      else if h.toNat < 32 then expected "Invalid control character at" c.position
      else readText fuel opening (h :: done) (c.advance 1)

def isDigit (c : Char) : Bool := '0' ≤ c && c ≤ '9'

def digitsValue (ds : List Char) : Nat := ds.foldl (fun n d => n * 10 + (d.toNat - '0'.toNat)) 0

/-- The digits of an exponent with its mark and sign: how many characters, and the value. -/
def exponentPart (cs : List Char) : Nat × Int :=
  match cs with
  | 'e' :: more | 'E' :: more =>
    let (sign, digits) : (Option Bool) × List Char :=
      match more with
      | '+' :: ds => (some false, ds)
      | '-' :: ds => (some true, ds)
      | ds => (none, ds)
    let run := digits.takeWhile isDigit
    if run.isEmpty then (0, 0)
    else
      let value : Int := digitsValue run
      (1 + (if sign.isSome then 1 else 0) + run.length, if sign = some true then -value else value)
  | _ => (0, 0)

/-- The double nearest to `digits · 10 ^ exponent`; exponents far out of range give zero or an
infinity without any arithmetic. -/
def scaledFloat (negative : Bool) (digits : Nat) (exponent : Int) : Float :=
  let size : Int := (toString digits).length
  if digits = 0 || exponent + size < -400 then Decimal.nearestFloat negative 0 1
  else if 400 < exponent + size then Decimal.nearestFloat negative (Nat.pow 2 1025) 1
  else
    let scale := Decimal.tenPower exponent
    Decimal.nearestFloat negative (digits * scale.1) scale.2

/-- The digits before the point: a zero alone, or all there are. -/
def wholeDigits : List Char → List Char
  | '0' :: _ => ['0']
  | ds => ds.takeWhile isDigit

/-- The digits behind a point. -/
def fractionDigits : List Char → List Char
  | '.' :: ds => ds.takeWhile isDigit
  | _ => []

/-- A number at the front of the text, and how many characters it takes.  A point or an exponent
makes it a double. -/
def number? (cs : List Char) : Option (Value × Nat) :=
  let negative := cs.head? = some '-'
  let digitsAt := if negative then cs.drop 1 else cs
  let signWidth := if negative then 1 else 0
  let whole := wholeDigits digitsAt
  if whole.isEmpty then none
  else
    let behind := digitsAt.drop whole.length
    let fraction := fractionDigits behind
    let fractionWidth := if fraction.isEmpty then 0 else fraction.length + 1
    let (exponentWidth, exponent) := exponentPart (behind.drop fractionWidth)
    let width := signWidth + whole.length + fractionWidth + exponentWidth
    if fractionWidth = 0 && exponentWidth = 0 then
      let n : Int := digitsValue whole
      some (.int (if negative then -n else n), width)
    else
      some (.real (scaledFloat negative (digitsValue (whole ++ fraction))
        (exponent - fraction.length)), width)

def infinite (negative : Bool) : Value := .real (Decimal.nearestFloat negative (Nat.pow 2 1025) 1)

/-- The words that stand for a value. -/
def words : List (List Char × Value) :=
  [("null".toList, .null), ("true".toList, .bool true), ("false".toList, .bool false),
   ("NaN".toList, .real (0.0 / 0.0)), ("Infinity".toList, infinite false),
   ("-Infinity".toList, infinite true)]

def readScalar (c : Cursor) : Except Complaint (Value × Cursor) :=
  match words.find? fun word => word.1.isPrefixOf c.rest with
  | some (word, value) => .ok (value, c.advance word.length)
  | none =>
    match number? c.rest with
    | some (value, width) => .ok (value, c.advance width)
    | none => expected "Expecting value" c.position

/-- A number is taken if it is not too long. -/
def limited : Value × Cursor → Except Complaint (Value × Cursor)
  | (.int i, next) =>
    if Limits.digitCount i ≤ Limits.digits then .ok (.int i, next)
    else .error (.limit (.tooLong (some (Limits.digitCount i))))
  | r => .ok r

/-- Goes on inside a list or an object if there is room for it. -/
def inside {α : Type} (doing : String) (room : Nat) (go : Nat → Except Complaint α) :
    Except Complaint α :=
  match room with
  | 0 => .error (.limit (.tooDeep doing))
  | room + 1 => go room

def readingList : String := " while decoding a JSON array from a unicode string"
def readingObject : String := " while decoding a JSON object from a unicode string"

mutual

/-- One value at the cursor, with room for so many lists and objects in one another. -/
def readValue : Nat → Nat → Cursor → Except Complaint (Value × Cursor)
  | 0, _, c => expected "Expecting value" c.position
  | fuel + 1, room, c =>
    match c.rest with
    | '\x22' :: rest => do
      let (s, next) ← readText (rest.length + 1) c.position [] (c.advance 1)
      .ok (.text s, next)
    | '\x7b' :: _ => inside readingObject room fun room =>
      let inner := (c.advance 1).skip
      if inner.rest.head? = some '\x7d' then .ok (.object [], inner.advance 1)
      else readFields fuel room [] inner
    | '[' :: _ => inside readingList room fun room =>
      let inner := (c.advance 1).skip
      if inner.rest.head? = some ']' then .ok (.list [], inner.advance 1)
      else readItems fuel room [] inner
    | _ => (readScalar c).bind limited

/-- The items of a list up to its closing bracket. -/
def readItems : Nat → Nat → List Value → Cursor → Except Complaint (Value × Cursor)
  | 0, _, _, c => expected "Expecting value" c.position
  | fuel + 1, room, done, c => do
    let (item, next) ← readValue fuel room c
    let next := next.skip
    match next.rest with
    | ']' :: _ => .ok (.list (item :: done).reverse, next.advance 1)
    | ',' :: _ => readItems fuel room (item :: done) (next.advance 1).skip
    | _ => expected "Expecting ',' delimiter" next.position

/-- The fields of an object up to its closing brace; of equal names the last field wins. -/
def readFields : Nat → Nat → Fields Value → Cursor → Except Complaint (Value × Cursor)
  | 0, _, _, c => expected "Expecting value" c.position
  | fuel + 1, room, done, c =>
    match c.rest with
    | '\x22' :: rest => do
      let (name, next) ← readText (rest.length + 1) c.position [] (c.advance 1)
      let next := next.skip
      match next.rest with
      | ':' :: _ =>
        let (value, next) ← readValue fuel room (next.advance 1).skip
        let next := next.skip
        match next.rest with
        | '\x7d' :: _ => .ok (.object (done.put name value), next.advance 1)
        | ',' :: _ => readFields fuel room (done.put name value) (next.advance 1).skip
        | _ => expected "Expecting ',' delimiter" next.position
      | _ => expected "Expecting ':' delimiter" next.position
    | _ => expected "Expecting property name enclosed in double quotes" c.position

end

/-- A whole text that is one value with blanks around it. -/
def readAll (cs : List Char) : Except Complaint Value := do
  if cs.head? = some (Char.ofNat 0xFEFF) then
    expected "Unexpected UTF-8 BOM (decode using utf-8-sig)" 0
  let (value, next) ← readValue (2 * cs.length + 2) Limits.room (Cursor.mk cs 0).skip
  let next := next.skip
  if next.rest.isEmpty then .ok value else expected "Extra data" next.position

/-- Line and column of a position, both counted from one. -/
def lineColumn (cs : List Char) (position : Nat) : Nat × Nat :=
  let before := cs.take position
  (before.count '\n' + 1, (before.reverse.takeWhile (· ≠ '\n')).length + 1)

/-- The value that a text denotes. -/
def read (s : String) : Except Fault Value :=
  let cs := s.toList
  match readAll cs with
  | .ok value => .ok value
  | .error (.departure wording position) =>
    let (line, column) := lineColumn cs position
    .error (.badDocument wording line column position)
  | .error (.limit cause) => .error cause

end Parley.Document
