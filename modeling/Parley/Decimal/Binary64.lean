import Parley.Decimal.Rounding

/-!
# Parley.Decimal.Binary64 — doubles as exact dyadic numbers

A finite double is `± significand · 2 ^ exponent`.  `Binary64.ofFloat` takes a double apart and
`nearestFloat` gives the double nearest to a ratio of natural numbers, so that printing and reading
of decimals is exact arithmetic on natural numbers.
-/

namespace Parley.Decimal

/-- The dyadic number `± significand · 2 ^ exponent` of a finite double. -/
structure Binary64 where
  negative : Bool
  significand : Nat
  exponent : Int
  deriving DecidableEq, Repr

/-- What a double stands for. -/
inductive Float64
  | finite (value : Binary64)
  | infinite (negative : Bool)
  | notANumber
  deriving DecidableEq, Repr

/-- The fields of the 64-bit form: one sign bit, eleven exponent bits, fifty-two fraction bits. -/
def Float64.ofBits (bits : Nat) : Float64 :=
  let negative : Bool := bits / Nat.pow 2 63 % 2 = 1
  let biased : Nat := bits / Nat.pow 2 52 % Nat.pow 2 11
  let fraction : Nat := bits % Nat.pow 2 52
  if biased = 2047 then
    if fraction = 0 then .infinite negative else .notANumber
  else if biased = 0 then .finite ⟨negative, fraction, -1074⟩
  else .finite ⟨negative, Nat.pow 2 52 + fraction, (biased : Int) - 1075⟩

def Float64.ofFloat (x : Float) : Float64 := ofBits x.toBits.toNat

/-- The exact value of a finite double as a ratio of natural numbers, without its sign. -/
def Binary64.ratio (b : Binary64) : Nat × Nat :=
  (b.significand * (twoPower b.exponent).1, (twoPower b.exponent).2)

/-- The double with these fields; an exponent beyond the last one gives an infinity. -/
def packed (negative : Bool) (significand : Nat) (exponent : Int) : Float :=
  let sign := if negative then Nat.pow 2 63 else 0
  let magnitude :=
    if significand < Nat.pow 2 52 then significand
    else
      let biased := exponent + 1075
      if 2047 ≤ biased then 2047 * Nat.pow 2 52
      else biased.toNat * Nat.pow 2 52 + (significand - Nat.pow 2 52)
  Float.ofBits (UInt64.ofNat (sign + magnitude))

/-- The double nearest to `num / den`; a tie goes to the even significand. -/
def nearestFloat (negative : Bool) (num den : Nat) : Float :=
  if num = 0 then packed negative 0 (-1074)
  else
    let guess : Int := (num.log2 : Int) - den.log2 - 53
    let scaled (e : Int) : Nat × Nat := (num * (twoPower (-e)).1, den * (twoPower (-e)).2)
    let wide := scaled guess
    let exponent := max (if Nat.pow 2 53 ≤ wide.1 / wide.2 then guess + 1 else guess) (-1074)
    let exact := scaled exponent
    let significand := roundDiv exact.1 exact.2
    if significand = Nat.pow 2 53 then packed negative (Nat.pow 2 52) (exponent + 1)
    else packed negative significand exponent

/-- The double nearest to an integer. -/
def floatOfInt (i : Int) : Float := nearestFloat (i < 0) i.natAbs 1

/-- Integers at or above this bound in size have no double near them. -/
def floatIntBound : Nat := Nat.pow 2 1024 - Nat.pow 2 970

/-- Whether an integer rounds to a finite double. -/
def intFitsFloat (i : Int) : Bool := i.natAbs < floatIntBound

end Parley.Decimal
