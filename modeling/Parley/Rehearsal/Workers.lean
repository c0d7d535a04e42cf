import Parley.Rehearsal.Stage
import Parley.Schedule
import Parley.Session.Locks

/-!
# Parley.Rehearsal.Workers — workers that hold locks until they are told to let go
-/

namespace Parley.Rehearsal

open Conversation (SessionKey)
open Session (Locks)
open Time (Seconds)

/-- The locks, the workers that hold one, and those that may go on. -/
structure LockDesk where
  locks : Locks
  holding : List Nat
  released : List Nat

def LockDesk.empty : LockDesk := ⟨Locks.empty, [], []⟩

instance : Holds (Stage LockDesk) Locks where
  part w := w.part.locks
  replace w l := { w with part := { w.part with locks := l } }

/-- Holds a lock until released, and then perhaps fails. -/
def holdLock (id : Nat) (key : SessionKey) (span : Option Number) (fails : Bool) :
    Action (Stage LockDesk) Unit := do
  let name ← key.join
  Session.whileHolding name span do
    Action.update fun d : LockDesk => { d with holding := id :: d.holding }
    if !((← Action.view LockDesk).released.contains id) then
      Action.pause ⟨fun w => w.part.released.contains id, none⟩ (Action.result ())
    if fails then Action.fail (.surprise "worker failed")

/-- How many turns workers have between two orders at most. -/
def turns : Nat := 1000000

/-- The workers' actions, and their numbers by name. -/
structure Workers where
  schedule : Schedule (Stage LockDesk) Unit
  numbers : Fields Nat
  next : Nat

namespace Workers

def new (stage : Stage LockDesk) : Workers := ⟨Schedule.new stage, [], 0⟩

def world (w : Workers) : Stage LockDesk := w.schedule.world
def locks (w : Workers) : Locks := w.world.part.locks

/-- How a worker stands. -/
def status (w : Workers) (id : Nat) : String :=
  match w.schedule.outcome? id with
  | some (.ok _) => "released"
  | some (.error f) => f.message
  | none => if w.world.part.holding.contains id then "held" else "waiting"

/-- How all workers stand, and how many locks are in use. -/
def document (w : Workers) : Value :=
  .object [("status", .object (w.numbers.map fun (name, id) => (name, .text (w.status id)))),
    ("active", .int w.locks.active)]

/-- Lets the workers go on as far as they can. -/
def settle (w : Workers) : Workers := { w with schedule := w.schedule.settle turns }

/-- Has a new worker take a lock. -/
def acquire (w : Workers) (name : String) (key : SessionKey) (span : Option Number)
    (fails : Bool) : Workers :=
  { schedule := w.schedule.spawn w.next (holdLock w.next key span fails)
    numbers := w.numbers.put name w.next
    next := w.next + 1 }

/-- Lets a worker go on. -/
def letGo (w : Workers) (id : Nat) : Workers :=
  let world := w.world
  let world := { world with part := { world.part with released := id :: world.part.released } }
  { w with schedule := { w.schedule with world := world }.release fun p => p.wake.ready world }

/-- Lets some time pass. -/
def pass (w : Workers) (span : Seconds) : Workers :=
  { w with
    schedule := (w.schedule.spawn w.next (Action.wait span)).await [w.next] turns
    next := w.next + 1 }

end Workers

end Parley.Rehearsal
