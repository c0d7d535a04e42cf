import Parley.Value.Arithmetic
import Parley.Value.Limits
import Parley.Unicode.Numeric
import Parley.Unicode.Words

/-!
# Parley.Value.Integer — whole numbers behind values

A whole number may be given as a number, whose fraction is cut off, or as text in digits of any
script, with single underscores between digits.  A text with too many digits at its front is not read
any further.
-/

namespace Parley

namespace Numeral

/-- A blank that may stand around a number: separators of files and records may not. -/
def isMargin (c : Char) : Bool := Unicode.isBlank c && !(28 ≤ c.toNat && c.toNat ≤ 31)

/-- The value of digits with single underscores between them; `after` tells whether a digit comes
right before. -/
def digits? : Nat → Bool → List Char → Option Nat
  | n, after, [] => if after then some n else none
  | n, after, c :: cs =>
    match Unicode.digitValue? c with
    | some d => digits? (n * 10 + d) true cs
    | none => if c = '_' && after then digits? n false cs else none

/-- How many digits there are at the front, behind an optional sign, if that is more than are read. -/
def excess? (cs : List Char) : Option Nat :=
  let unsigned := match cs with
    | '-' :: rest | '+' :: rest => rest
    | _ => cs
  let run := unsigned.takeWhile fun c => c = '_' || (Unicode.digitValue? c).isSome
  let count := run.countP (· ≠ '_')
  if Limits.digits < count && (digits? 0 false run).isSome then some count else none

/-- An optional sign and digits. -/
def whole? (cs : List Char) : Option Int :=
  match cs with
  | '-' :: rest => (digits? 0 false rest).map fun n => -(n : Int)
  | '+' :: rest => (digits? 0 false rest).map fun n => (n : Int)
  | _ => (digits? 0 false cs).map fun n => (n : Int)

end Numeral

namespace Value

/-- How much of a text is quoted when it denotes no number. -/
def shownLength : Nat := 200

/-- The whole number that a text denotes, blanks around it aside. -/
def readInteger (s : String) : Except Fault Int :=
  let cs := (Unicode.stripIf Numeral.isMargin s).toList
  match Numeral.excess? cs with
  | some count => .error (.tooLong (some count))
  | none =>
    match Numeral.whole? cs with
    | some i => .ok i
    | none => .error (.badInteger (String.ofList ((Quoting.quote s).toList.take shownLength)))

/-- The whole number behind a double. -/
def wholePart (x : Float) : Except Fault Int :=
  match Decimal.truncInt? x with
  | some i => .ok i
  | none =>
    if x == x then .error (.tooLarge "cannot convert float infinity to integer")
    else .error (.badValue "cannot convert float NaN to integer")

/-- The whole number behind a value. -/
def integer (v : Value) : Except Fault Int :=
  match v with
  | text s => readInteger s
  | v =>
    match v.number? with
    | some (.int i) => .ok i
    | some (.real x) => wholePart x
    | none =>
      .error (.wrongArgument ("int() argument must be a string, a bytes-like object or a real "
        ++ "number, not '" ++ v.kind.name ++ "'"))

end Value

end Parley
