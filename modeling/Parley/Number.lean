import Parley.Decimal.Layout

/-!
# Parley.Number — integers and doubles side by side

A number is an unbounded integer or a double, and stays what it is: sums and products of integers
are exact, anything with a double in it is a double.  Comparison is by exact value across the two
kinds.
-/

namespace Parley

open Decimal

/-- An unbounded integer or a double. -/
inductive Number
  | int (value : Int)
  | real (value : Float)
  deriving DecidableEq, Repr, Inhabited

namespace Number

/-- The nearest double; integers beyond the last double become infinite. -/
def toFloat : Number → Float
  | int i => floatOfInt i
  | real x => x

instance (n : Nat) : OfNat Number n := ⟨int n⟩

def lift (onInt : Int → Int → Int) (onReal : Float → Float → Float) : Number → Number → Number
  | int a, int b => int (onInt a b)
  | a, b => real (onReal a.toFloat b.toFloat)

instance : Add Number := ⟨lift (· + ·) (· + ·)⟩
instance : Sub Number := ⟨lift (· - ·) (· - ·)⟩
instance : Mul Number := ⟨lift (· * ·) (· * ·)⟩

@[simp] theorem int_add (a b : Int) : (int a + int b : Number) = int (a + b) := rfl
@[simp] theorem int_sub (a b : Int) : (int a - int b : Number) = int (a - b) := rfl
@[simp] theorem int_mul (a b : Int) : (int a * int b : Number) = int (a * b) := rfl

/-- The quotient as a double; a quotient of integers is rounded once. -/
def quotient : Number → Number → Float
  | int a, int b =>
    if b = 0 then floatOfInt a / 0 else nearestFloat ((a < 0) != (b < 0)) a.natAbs b.natAbs
  | a, b => a.toFloat / b.toFloat

instance : Div Number := ⟨fun a b => real (quotient a b)⟩

/-- The exact order of an integer and a finite double. -/
def compareDyadic (i : Int) (b : Binary64) : Ordering :=
  let magnitude : Int := b.ratio.1
  let signed := if b.negative then -magnitude else magnitude
  compare (i * b.ratio.2) signed

/-- The exact order of two numbers; `none` if one is not a number. -/
def order : Number → Number → Option Ordering
  | int a, int b => some (compare a b)
  | real a, real b => if a < b then some .lt else if a == b then some .eq
      else if b < a then some .gt else none
  | int a, real b => against a b
  | real a, int b => (against b a).map Ordering.swap
where
  against (i : Int) (x : Float) : Option Ordering :=
    match Float64.ofFloat x with
    | .finite b => some (compareDyadic i b)
    | .infinite negative => some (if negative then .gt else .lt)
    | .notANumber => none

def less (a b : Number) : Bool := order a b == some .lt
def same (a b : Number) : Bool := order a b == some .eq
def atMost (a b : Number) : Bool := less a b || same a b

instance : LT Number := ⟨fun a b => less a b = true⟩
instance : LE Number := ⟨fun a b => atMost a b = true⟩
instance (a b : Number) : Decidable (a < b) := inferInstanceAs (Decidable (_ = true))
instance (a b : Number) : Decidable (a ≤ b) := inferInstanceAs (Decidable (_ = true))

/-- The first of the two greatest: the second wins only if it is greater. -/
def largest (a b : Number) : Number := if a < b then b else a
/-- The first of the two least: the second wins only if it is less. -/
def smallest (a b : Number) : Number := if b < a then b else a

def isZero : Number → Bool
  | int i => i == 0
  | real x => x == 0

/-- Rounded to a number of places; integers stay as they are. -/
def roundTo (places : Nat) : Number → Number
  | int i => int i
  | real x => real (roundPlaces places x)

/-- A number with a fixed number of places. -/
def fixed (places : Nat) (n : Number) : String := Decimal.fixed places n.toFloat

/-- A rate as a percentage with a fixed number of places. -/
def percent (places : Nat) (n : Number) : String :=
  Decimal.fixed places (n.toFloat * 100) ++ "%"

/-- The plain written form. -/
def display : Number → String
  | int i => toString i
  | real x => Layout.plain.render x

end Number

end Parley
