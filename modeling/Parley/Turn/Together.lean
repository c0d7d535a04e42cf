import Parley.Schedule
import Parley.Turn.Processor

/-!
# Parley.Turn.Together — messages that are processed side by side
-/

namespace Parley.Turn

open Time (Clocked)

/-- How many turns the messages have at most. -/
def turnLimit : Nat := 1000000

/-- Processes messages, started in their order, and waits for all of them. -/
def processTogether {ε : Type} [Clocked ε] (p : Processor ε) (messages : List Inbound)
    (w : World ε) : List (Except Fault Outcome) × World ε :=
  let ids := List.range messages.length
  let started := (ids.zip messages).foldl (fun s (id, m) => s.spawn id (process p m))
    (Schedule.new w)
  let s := started.await ids turnLimit
  (ids.filterMap s.outcome?, s.world)

end Parley.Turn
