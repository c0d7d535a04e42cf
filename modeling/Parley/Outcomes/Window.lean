import Parley.Time.Moment

/-!
# Parley.Outcomes.Window — events of the latest time

A window keeps events in the order of their recording, at most so many of them.  Recording an event
drops from the front what is older than the window.  An event whose moment cannot be compared is not
recorded.
-/

namespace Parley.Outcomes

open Time (Moment)

/-- A value at a moment. -/
structure Stamped (α : Type) where
  moment : Moment
  value : α
  deriving DecidableEq

/-- How long events are kept, and how many. -/
structure WindowSize where
  seconds : Number
  entries : Int

/-- The moment before which events are too old. -/
def cutoff (seconds : Number) (now : Moment) : Except Fault Moment := do
  now.shift (-(← Time.spanMicros seconds))

/-- Drops events from the front that come before a moment.  Where a moment cannot be compared the
dropping ends with a fault. -/
def evict {α : Type} (limit : Moment) : List (Stamped α) → Except Fault Unit × List (Stamped α)
  | [] => (.ok (), [])
  | e :: rest =>
    match e.moment.before limit with
    | .ok true => evict limit rest
    | .ok false => (.ok (), e :: rest)
    | .error f => (.error f, e :: rest)

/-- The last `n` entries. -/
def lastEntries {α : Type} (n : Nat) (xs : List α) : List α := xs.drop (xs.length - n)

/-- Records an event, and tells whether it could be recorded. -/
def record {α : Type} (size : WindowSize) (events : List (Stamped α)) (moment : Option Moment)
    (value : α) : Bool × List (Stamped α) :=
  if size.entries < 0 then (false, events)
  else
    match moment with
    | none => (false, events)
    | some now =>
      match cutoff size.seconds now with
      | .error _ => (false, events)
      | .ok limit =>
        match evict limit events with
        | (.error _, kept) => (false, kept)
        | (.ok _, kept) => (true, lastEntries size.entries.toNat (kept ++ [⟨now, value⟩]))

/-- The entries that a listing with a limit shows: the last ones, all of them for zero, and for a
negative limit all but the first ones. -/
def listed {α : Type} (limit : Int) (xs : List α) : List α :=
  if 0 < limit then lastEntries limit.toNat xs else xs.drop (-limit).toNat

end Parley.Outcomes
