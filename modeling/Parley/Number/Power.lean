import Parley.Fault

/-!
# Parley.Number.Power — products and powers that can be too large

Unlike sums, products and powers of unlike sizes may leave the range of doubles, which is a fault.
-/

namespace Parley.Number

def tooLargeToConvert : Fault := .tooLarge "int too large to convert to float"

def resultTooLarge : Fault := .tooLarge "(34, 'Numerical result out of range')"

/-- A number as a double, if an integer is not too large for one. -/
def asReal : Number → Except Fault Float
  | int i => if Decimal.intFitsFloat i then .ok (Decimal.floatOfInt i) else .error tooLargeToConvert
  | real x => .ok x

/-- The product; an integer times a double has to be within the range of doubles. -/
def times (a b : Number) : Except Fault Number :=
  match a, b with
  | int i, int j => .ok (int (i * j))
  | a, b => do .ok (real ((← asReal a) * (← asReal b)))

/-- The quotient of integers as a double nearest to it. -/
def inverse (i : Int) : Float := Decimal.nearestFloat (i < 0) 1 i.natAbs

def isFinite (x : Float) : Bool :=
  match Decimal.Float64.ofFloat x with
  | .finite _ => true
  | _ => false

/-- A double to a natural power, rounded once. -/
def realPower (x : Float) (n : Nat) : Except Fault Float :=
  match Decimal.Float64.ofFloat x with
  | .finite b =>
    let (num, den) := b.ratio
    let power := Decimal.nearestFloat (b.negative && n % 2 = 1) (Nat.pow num n) (Nat.pow den n)
    if isFinite power then .ok power else .error resultTooLarge
  | _ => if n = 0 then .ok 1 else .ok x

/-- A number to a whole power. -/
def power (base : Number) (exponent : Int) : Except Fault Number :=
  match base with
  | int i =>
    if 0 ≤ exponent then .ok (int (Int.pow i exponent.toNat))
    else if i = 0 then
      .error (.divisionByZero "0.0 cannot be raised to a negative power")
    else .ok (real (inverse (Int.pow i (-exponent).toNat)))
  | real x =>
    if 0 ≤ exponent then (realPower x exponent.toNat).map real
    else if x == 0 then
      .error (.divisionByZero "0.0 cannot be raised to a negative power")
    else (realPower x (-exponent).toNat).map fun p => real (1 / p)

end Parley.Number
