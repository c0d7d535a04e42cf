import Parley.Value.Integer

/-!
# Parley.Value.RealText — which texts are real numbers

A real number is written with digits of any script, a decimal point, an exponent, and single
underscores between digits; infinity and the value that is no number have names.
-/

namespace Parley.Numeral

/-- A digit of any script as an ASCII digit; anything else as it is. -/
def plainDigit (c : Char) : Char :=
  match Unicode.digitValue? c with
  | some d => Char.ofNat ('0'.toNat + d)
  | none => c

def isDigit (c : Char) : Bool := '0' ≤ c && c ≤ '9'

/-- Without underscores, each of which has a digit before and after it. -/
def dropUnderscores? : (before : Option Char) → List Char → Option (List Char)
  | before, [] => if before = some '_' then none else some []
  | before, c :: cs =>
    if c = '_' then
      if before.any isDigit then dropUnderscores? (some c) cs else none
    else if before = some '_' && !isDigit c then none
    else (dropUnderscores? (some c) cs).map (c :: ·)

/-- An exponent, or nothing. -/
def isExponent (cs : List Char) : Bool :=
  match cs with
  | [] => true
  | e :: rest =>
    let digits := match rest with
      | '+' :: ds | '-' :: ds => ds
      | ds => ds
    (e = 'e' || e = 'E') && !digits.isEmpty && digits.all isDigit

/-- Digits with at most one point among or beside them, and an optional exponent. -/
def isDecimalText (cs : List Char) : Bool :=
  let whole := cs.takeWhile isDigit
  match cs.drop whole.length with
  | '.' :: rest =>
    let part := rest.takeWhile isDigit
    (!whole.isEmpty || !part.isEmpty) && isExponent (rest.drop part.length)
  | rest => !whole.isEmpty && isExponent rest

def specialNames : List String := ["inf", "infinity", "nan"]

/-- Whether a text is a real number, blanks around it aside. -/
def isRealText (s : String) : Bool :=
  let cs := (Unicode.stripIf isMargin s).toList.map plainDigit
  let unsigned (cs : List Char) : List Char := match cs with
    | '+' :: rest | '-' :: rest => rest
    | rest => rest
  match dropUnderscores? none cs with
  | none => false
  | some cs =>
    isDecimalText (unsigned cs)
      || specialNames.contains (String.ofList ((unsigned cs).map Char.toLower))

end Parley.Numeral
