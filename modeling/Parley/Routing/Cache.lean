import Parley.Table
import Parley.Time.Seconds

/-!
# Parley.Routing.Cache — values kept for some time

A cache holds one entry for each key, the latest stored last.  All entries are kept equally long, so
that the order of storing is the order of expiry.  Storing drops from the front what has expired and
what exceeds the size.

A time of expiry that is not a number comes neither after nor before any reading of a clock, so that an
entry with such a time is neither current nor outdated.
-/

namespace Parley.Routing

open Time (Seconds)

/-- A value of some version until some time; `none` is a time that is not a number. -/
structure CacheEntry (α : Type) where
  version : String
  expiresAt : Option Seconds
  value : α
  deriving DecidableEq

namespace CacheEntry

/-- Whether the time of an entry is still to come. -/
def isAhead {α : Type} (entry : CacheEntry α) (now : Seconds) : Bool := entry.expiresAt.any (now < ·)

/-- Whether the time of an entry has come. -/
def isOver {α : Type} (entry : CacheEntry α) (now : Seconds) : Bool := entry.expiresAt.any (· ≤ now)

end CacheEntry

/-- Entries by key, the latest stored last. -/
abbrev Cache (κ α : Type) := Table κ (CacheEntry α)

namespace Cache

variable {κ α : Type} [DecidableEq κ]

/-- Whether an entry is for a version and expires later. -/
def isCurrent (entry : CacheEntry α) (version : String) (now : Seconds) : Bool :=
  entry.version = version && entry.isAhead now

/-- Whether an entry is for another version or has expired. -/
def isOutdated (entry : CacheEntry α) (version : String) (now : Seconds) : Bool :=
  entry.version ≠ version || entry.isOver now

/-- The value for a key and a version, if it is current. -/
def lookup? (cache : Cache κ α) (key : κ) (version : String) (now : Seconds) : Option α :=
  match cache.get? key with
  | some entry => if isCurrent entry version now then some entry.value else none
  | none => none

/-- Drops entries from the front while they have expired or are too many. -/
def evict (maxEntries : Int) (now : Seconds) : Cache κ α → Cache κ α
  | [] => []
  | oldest :: rest =>
    if oldest.2.isAhead now && ((rest.length : Int) + 1) ≤ maxEntries then oldest :: rest
    else evict maxEntries now rest

/-- Stores an entry as the latest one. -/
def store (cache : Cache κ α) (maxEntries : Int) (now : Seconds) (key : κ)
    (entry : CacheEntry α) : Cache κ α :=
  evict maxEntries now (cache.erase key ++ [(key, entry)])

/-- Removes the entries whose keys are chosen. -/
def invalidate (cache : Cache κ α) (chosen : κ → Bool) : Nat × Cache κ α :=
  (cache.countP fun entry => chosen entry.1, cache.filter fun entry => !chosen entry.1)

end Cache

end Parley.Routing
