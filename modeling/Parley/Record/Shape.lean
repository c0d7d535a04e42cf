import Parley.Document.Reader
import Parley.Record.Checked
import Parley.Value.RealText

/-!
# Parley.Record.Shape — the shapes in which people give values

Whoever configures the service may write a number or a flag as text, and a whole number as a real
without a fraction.  A shape says which values are accepted for what, and how the result is written.
-/

namespace Parley.Record

/-- How a value of type `α` is written and read. -/
structure Shape (α : Type) where
  write : α → Value
  read : Value → Checked α

namespace Shape

def text : Shape String where
  write := .text
  read v := .ofOption .notText v.text?

def textOrNone : Shape (Option String) where
  write := .ofOption
  read
    | .null => .sound none
    | .text s => .sound (some s)
    | _ => .wrong .notText

/-! ### Numbers -/

/-- Whole numbers in plain digits; noughts behind a point do not count. -/
def integerText? (s : String) : Option Int :=
  let cs := (Unicode.stripIf Numeral.isMargin s).toList
  let whole := cs.takeWhile (· ≠ '.')
  if whole.all (·.toNat < 128) && (cs.drop (whole.length + 1)).all (· = '0') then
    Numeral.whole? whole
  else none

def wholeReal (x : Float) : Checked Int :=
  match Decimal.truncInt? x with
  | none => .wrong .notFinite
  | some i => if (Number.int i).same (.real x) then .sound i else .wrong .brokenInteger

def integer : Shape Int where
  write := .int
  read
    | .int i => .sound i
    | .bool b => .sound (if b then 1 else 0)
    | .real x => wholeReal x
    | .text s => .ofOption .noIntegerText (integerText? s)
    | _ => .wrong .notInteger

/-- The value of a name that is no decimal number. -/
def specialReal? (name : String) : Option Value :=
  if name = "nan" then some (.real (0.0 / 0.0))
  else if Numeral.specialNames.contains name then some (Document.infinite false) else none

/-- The number of decimal text without a sign.  A point may stand at either end. -/
def unsignedReal? (cs : List Char) : Option Number :=
  if Numeral.isDecimalText cs then
    let whole := cs.takeWhile Numeral.isDigit
    let rest := cs.drop whole.length
    let part := match rest with
      | '.' :: more => more.takeWhile Numeral.isDigit
      | _ => []
    let power := match rest with
      | '.' :: more => more.drop part.length
      | more => more
    some (.real (Document.scaledFloat false (Document.digitsValue (whole ++ part))
      ((Document.exponentPart power).2 - part.length)))
  else (specialReal? (String.ofList (cs.map Char.toLower))).bind Value.number?

def negated : Number → Number
  | .int i => .int (-i)
  | .real x => .real (-x)

/-- The number of text that has a sign or none. -/
def signedReal? (cs : List Char) : Option Number :=
  match cs with
  | '-' :: rest => (unsignedReal? rest).map negated
  | '+' :: rest => unsignedReal? rest
  | rest => unsignedReal? rest

/-- Whether underscores stand one by one inside a text. -/
def hasInnerUnderscores (cs : List Char) : Bool :=
  cs.contains '_' && cs.head? ≠ some '_' && cs.getLast? ≠ some '_'
    && !(Unicode.occursIn ['_', '_'] cs)

def numberText? (s : String) : Option Number :=
  match signedReal? (Unicode.stripIf Numeral.isMargin s).toList with
  | some n => some n
  | none =>
    if hasInnerUnderscores s.toList then signedReal? (s.toList.filter (· ≠ '_')) else none

/-- Numbers; all of them become reals. -/
def number : Shape Number where
  write := .ofNumber
  read
    | .int i => .sound (.real (Decimal.floatOfInt i))
    | .bool b => .sound (.real (if b then 1 else 0))
    | .real x => .sound (.real x)
    | .text s => .ofOption .noNumberText (numberText? s)
    | _ => .wrong .notNumber

/-! ### Flags -/

def yesTexts : List String := ["1", "true", "on", "yes", "t", "y"]
def noTexts : List String := ["0", "false", "off", "no", "f", "n"]

def flagText? (s : String) : Option Bool :=
  let s := String.ofList (s.toList.map Char.toLower)
  if yesTexts.contains s then some true else if noTexts.contains s then some false else none

def flagOfInt (i : Int) : Checked Bool :=
  .ofOption .noFlagText (if i = 1 then some true else if i = 0 then some false else none)

def flag : Shape Bool where
  write := .bool
  read
    | .bool b => .sound b
    | .int i => flagOfInt i
    | .real x =>
      match wholeReal x with
      | .sound i => flagOfInt i
      | .flawed _ => .wrong .notFlag
    | .text s => .ofOption .noFlagText (flagText? s)
    | _ => .wrong .notFlag

/-! ### Lists and tables -/

def listOf {α : Type} (item : Shape α) : Shape (List α) where
  write items := .list (items.map item.write)
  read
    | .list items => Checked.items item.read 0 items
    | _ => .wrong .notList

def table : Shape (Fields Value) where
  write := .object
  read v := .ofOption .notTable v.object?

/-- A member of an enumeration by its name. -/
def memberOf {α : Type} (name : α → String) (ofName? : String → Option α) : Shape α where
  write a := .text (name a)
  read v := .ofOption .noMember (v.text?.bind ofName?)

end Shape

end Parley.Record
