import Parley.Time.Moment
import Parley.Time.Seconds

/-!
# Parley.Time.Clock — a clock that runs and the time of day

A clock has a reading in seconds, which never goes back, and knows the moment that goes with one of
its readings, so that every reading has a moment.
-/

namespace Parley.Time

/-- A reading, and the moment at which the clock read `start`. -/
structure Clock where
  reading : Seconds
  start : Seconds
  origin : Moment
  deriving DecidableEq

namespace Clock

/-- The moment of the present reading.  A clock that has left the calendar shows the first moment. -/
def now (c : Clock) : Moment :=
  let micros := match spanMicros (c.reading - c.start).toNumber with
    | .ok n => n
    | .error _ => 0
  let moment := { c.origin with civil := c.origin.civil + micros }
  if moment.Proper then moment else .universal 0

theorem proper_now (c : Clock) : c.now.Proper := by
  have hshown (moment : Moment) : (if moment.Proper then moment else .universal 0).Proper := by
    split
    · assumption
    · decide
  exact hshown _

/-- The clock some seconds later. -/
def pass (c : Clock) (span : Seconds) : Clock := { c with reading := c.reading + span }

/-- The clock at a reading. -/
def turnTo (c : Clock) (reading : Seconds) : Clock := { c with reading := reading }

end Clock

/-- A world with a clock in it. -/
class Clocked (σ : Type) where
  clock : σ → Clock
  setClock : σ → Clock → σ

/-- A clock alone. -/
instance : Clocked Clock := ⟨id, fun _ c => c⟩

end Parley.Time
