import Parley.Time.Calendar
import Parley.Fault

/-!
# Parley.Time.Moment — points in time

A moment is a civil time in microseconds, with or without an offset from universal time.  Two
moments with an offset are ordered by universal time, two without by civil time; a moment with an
offset cannot be compared with one without.
-/

namespace Parley.Time

/-- Civil microseconds since the start of year one, and the offset in microseconds if known. -/
structure Moment where
  civil : Int
  offset : Option Int
  deriving DecidableEq, Repr, Inhabited

def secondMicros : Int := 1000000
def dayMicros : Int := 86400 * secondMicros

/-- The moment after the last one that has a date. -/
def endOfTime : Int := (daysBeforeYear 10000 : Int) * dayMicros

/-- An offset below a day that text tells from none: zero, or a second and more. -/
structure ProperOffset (offset : Int) : Prop where
  near : offset.natAbs < 86400000000
  whole : offset ≠ 0 → 1000000 ≤ offset.natAbs

instance (offset : Int) : Decidable (ProperOffset offset) :=
  decidable_of_decidable_of_iff
    (show (offset.natAbs < 86400000000 ∧ (offset ≠ 0 → 1000000 ≤ offset.natAbs)) ↔
        ProperOffset offset from
      ⟨fun h => ⟨h.1, h.2⟩, fun h => ⟨h.near, h.whole⟩⟩)

namespace Moment

/-- A moment at universal time. -/
def universal (micros : Int) : Moment := ⟨micros, some 0⟩

def isNaive (m : Moment) : Bool := m.offset.isNone

/-- Microseconds that order moments of one kind. -/
def instant (m : Moment) : Int := m.civil - m.offset.getD 0

/-- The moment has a date, and an offset that text tells from none. -/
structure Proper (m : Moment) : Prop where
  dated : 0 ≤ m.civil ∧ m.civil < endOfTime
  offset : ∀ o ∈ m.offset, ProperOffset o

instance (m : Moment) : Decidable m.Proper :=
  decidable_of_decidable_of_iff
    (show ((0 ≤ m.civil ∧ m.civil < endOfTime) ∧ ∀ o ∈ m.offset, ProperOffset o) ↔ m.Proper from
      ⟨fun h => ⟨h.1, h.2⟩, fun h => ⟨h.dated, h.offset⟩⟩)

/-- The order of two moments, if both or neither have an offset. -/
def order (a b : Moment) : Except Fault Ordering :=
  if a.isNaive = b.isNaive then .ok (compare a.instant b.instant) else .error .mixedClocks

def before (a b : Moment) : Except Fault Bool := (order a b).map (· == .lt)

def dateOverflow : Fault := .tooLarge "date value out of range"

/-- The moment shifted by microseconds, if it still has a date. -/
def shift (m : Moment) (micros : Int) : Except Fault Moment :=
  let civil := m.civil + micros
  if 0 ≤ civil && civil < endOfTime then .ok { m with civil := civil } else .error dateOverflow

def two (n : Nat) : String := Decimal.padded 2 n

/-- Hours, minutes and seconds, with six places of a fraction if there is one. -/
def clockText (micros : Nat) (always : Bool) : String :=
  let seconds := micros / 1000000
  let fraction := micros % 1000000
  let hm := two (seconds / 3600) ++ ":" ++ two (seconds / 60 % 60)
  let s := ":" ++ two (seconds % 60)
  let f := "." ++ Decimal.padded 6 fraction
  if fraction ≠ 0 then hm ++ s ++ f
  else if always || seconds % 60 ≠ 0 then hm ++ s
  else hm

def offsetText (offset : Int) : String :=
  (if offset < 0 then "-" else "+") ++ clockText offset.natAbs false

/-- Date, time and offset in the international form. -/
def iso (m : Moment) : String :=
  let date := Date.ofDays (m.civil / dayMicros).toNat
  let time := (m.civil % dayMicros).toNat
  Decimal.padded 4 date.year ++ "-" ++ two date.month ++ "-" ++ two date.day ++ "T"
    ++ clockText time true ++ (m.offset.map offsetText).getD ""

end Moment

/-- A span of seconds in whole microseconds, ties to even. -/
def spanMicros (seconds : Number) : Except Fault Int :=
  let limit : Int := 86400 * 1000000000 * secondMicros
  let bounded (n : Int) : Except Fault Int :=
    if -limit < n && n < limit then .ok n
    else .error (.tooLarge "days outside the range of a span")
  match seconds with
  | .int i => bounded (i * secondMicros)
  | .real x =>
    match Decimal.truncInt? x with
    | none =>
      if x == x then .error (.tooLarge "cannot convert float infinity to integer")
      else .error (.badValue "cannot convert float NaN to integer")
    | some whole =>
      let part := (x - Decimal.floatOfInt whole) * 1000000
      bounded (whole * secondMicros + (Decimal.roundInt? part).getD 0)

end Parley.Time
