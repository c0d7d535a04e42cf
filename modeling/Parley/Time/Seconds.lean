import Parley.Number

/-!
# Parley.Time.Seconds — readings of a clock and spans between them

Seconds are doubles, held exactly as multiples of the smallest one, so that order is that of
integers.  Sums and differences are rounded to the nearest double.  The double that would come after
the last finite one stands for infinity.
-/

namespace Parley.Time

open Decimal

/-- The size of a multiple of the smallest double, rounded to fifty-three binary digits. -/
def roundMagnitude (n : Nat) : Nat :=
  if n < Nat.pow 2 53 then n
  else
    let unit := Nat.pow 2 (n.log2 - 52)
    roundDiv n unit * unit

/-- The nearest multiple of the smallest double that is a double. -/
def roundUnits (i : Int) : Int :=
  if i < 0 then -(roundMagnitude i.natAbs : Int) else roundMagnitude i.natAbs

/-- How many of the smallest doubles make one second. -/
def unitsPerSecond : Nat := Nat.pow 2 1074

/-- Seconds as a multiple of the smallest double. -/
structure Seconds where
  units : Int
  deriving DecidableEq, Repr, Inhabited

namespace Seconds

instance : LT Seconds := ⟨fun a b => a.units < b.units⟩
instance : LE Seconds := ⟨fun a b => a.units ≤ b.units⟩
instance (a b : Seconds) : Decidable (a < b) := inferInstanceAs (Decidable (a.units < b.units))
instance (a b : Seconds) : Decidable (a ≤ b) := inferInstanceAs (Decidable (a.units ≤ b.units))

instance : Add Seconds := ⟨fun a b => ⟨roundUnits (a.units + b.units)⟩⟩
instance : Sub Seconds := ⟨fun a b => ⟨roundUnits (a.units - b.units)⟩⟩

theorem lt_iff {a b : Seconds} : a < b ↔ a.units < b.units := Iff.rfl
theorem le_iff {a b : Seconds} : a ≤ b ↔ a.units ≤ b.units := Iff.rfl

def zero : Seconds := ⟨0⟩

instance : OfNat Seconds 0 := ⟨zero⟩

/-- The double behind a reading, seen as a number. -/
def toNumber (s : Seconds) : Number :=
  .real (nearestFloat (s.units < 0) s.units.natAbs unitsPerSecond)

/-- More seconds than any finite double. -/
def forever : Seconds := ⟨Nat.pow 2 1024 * unitsPerSecond⟩

/-- The seconds that a number stands for, if it is one. -/
def ofNumber? (n : Number) : Option Seconds :=
  match n with
  | .int i => some ⟨roundUnits (i * unitsPerSecond)⟩
  | .real x =>
    match Float64.ofFloat x with
    | .finite b =>
      let size : Int := b.significand * Nat.pow 2 (b.exponent + 1074).toNat
      some ⟨if b.negative then -size else size⟩
    | .infinite negative => some (if negative then ⟨-forever.units⟩ else forever)
    | .notANumber => none

/-- The seconds that a number stands for; what is not a number counts as zero. -/
def ofNumber (n : Number) : Seconds := (ofNumber? n).getD 0

end Seconds

end Parley.Time
