import Parley.Action
import Parley.Conversation.State

/-!
# Parley.Session.Locks — one turn of a session at a time

A lock has a name.  Whoever wants it enters, which makes the lock if there is none, then asks for
it, and holds it at once or after those who asked before; and leaves in the end.  One who has entered
keeps to the lock that was there then.  The name stands for a lock as long as someone has entered and
not left; whoever leaves last lets it go, if nobody holds it.
-/

namespace Parley.Session

open Time (Clocked Seconds)

/-- One who has entered: a number of its own, and the lock that it came to, by its name and the number
of the one for whom it was made. -/
structure Ticket where
  number : Nat
  name : String
  maker : Nat
  deriving DecidableEq, Repr

/-- Where the lock is. -/
def Ticket.place (t : Ticket) : String × Nat := (t.name, t.maker)

/-- Who holds a lock, and who waits for it in which order. -/
structure Lock where
  holder : Option Ticket
  waiting : List Ticket
  deriving DecidableEq, Repr

namespace Lock

def free : Lock := ⟨none, []⟩

/-- Asks for the lock. -/
def ask (l : Lock) (t : Ticket) : Lock :=
  if l.holder.isNone && l.waiting.isEmpty then { l with holder := some t }
  else { l with waiting := l.waiting ++ [t] }

/-- Hands the lock to the next in line. -/
def handOver (l : Lock) : Lock := { l with holder := l.waiting.head?, waiting := l.waiting.tail }

/-- Gives up the lock, or the place in line. -/
def giveUp (l : Lock) (t : Ticket) : Lock :=
  if l.holder = some t then l.handOver else { l with waiting := l.waiting.filter (· ≠ t) }

end Lock

/-- All locks that were made, those that the names stand for, by the numbers for whom they were made,
how many have entered under each name, and the next number. -/
structure Locks where
  made : Table (String × Nat) Lock
  names : Fields Nat
  users : Fields Nat
  next : Nat
  deriving DecidableEq, Repr

namespace Locks

def empty : Locks := ⟨[], [], [], 0⟩

def lockAt (s : Locks) (place : String × Nat) : Lock := (s.made.get? place).getD Lock.free

/-- The lock that a name stands for. -/
def lockOf (s : Locks) (name : String) : Lock :=
  match s.names.get? name with
  | some maker => s.lockAt (name, maker)
  | none => Lock.free

/-- How many have entered under a name and not left. -/
def usersOf (s : Locks) (name : String) : Nat := (s.users.get? name).getD 0

def setLock (s : Locks) (place : String × Nat) (l : Lock) : Locks :=
  { s with made := s.made.put place l }

/-- Has the name stand for a lock. -/
def provide (s : Locks) (name : String) : Locks :=
  match s.names.get? name with
  | some _ => s
  | none => { s.setLock (name, s.next) Lock.free with names := s.names.put name s.next }

/-- Enters with a new ticket. -/
def enter (s : Locks) (name : String) : Ticket × Locks :=
  (⟨s.next, name, (s.names.get? name).getD s.next⟩,
    { s.provide name with
      users := s.users.put name (s.usersOf name + 1)
      next := s.next + 1 })

def ask (s : Locks) (t : Ticket) : Locks := s.setLock t.place ((s.lockAt t.place).ask t)

/-- Gives up the lock or the place in line. -/
def giveUp (s : Locks) (t : Ticket) : Locks := s.setLock t.place ((s.lockAt t.place).giveUp t)

/-- Leaves; with the last one the name lets go of the lock, unless this is held. -/
def leave (s : Locks) (t : Ticket) : Locks :=
  let left := s.usersOf t.name - 1
  if left = 0 then
    let names := if (s.lockAt t.place).holder.isSome then s.names else s.names.erase t.name
    { s with users := s.users.erase t.name, names := names }
  else { s with users := s.users.put t.name left }

def holds (s : Locks) (t : Ticket) : Bool := (s.lockAt t.place).holder = some t

def isLocked (s : Locks) (name : String) : Bool := (s.lockOf name).holder.isSome

/-- How many names stand for a lock. -/
def active (s : Locks) : Nat := s.names.length

end Locks

section Hold

variable {σ α : Type} [Clocked σ] [Holds σ Locks]

def busy (name : String) : Fault := .transient ("Session " ++ name ++ " is busy") 0

/-- Waits in line until the lock is held or a reading of the clock. -/
def waitInLine (t : Ticket) (limit : Option Seconds) : Action σ Bool := do
  if (← Action.view Locks).holds t then return true
  Action.pause ⟨fun w => (Holds.part w : Locks).holds t, limit⟩ (Action.result ())
  return (← Action.view Locks).holds t

/-- Asks for a lock and waits for it, at most some seconds. -/
def acquire (t : Ticket) : Option Number → Action σ Bool
  | none => do
    Action.update fun s : Locks => s.ask t
    waitInLine t none
  | some span => do
    let limit := (← Action.reading) + Seconds.ofNumber span
    Action.giveWay
    if Seconds.ofNumber span ≤ 0 then return false
    Action.update fun s : Locks => s.ask t
    let held ← waitInLine t (some limit)
    Action.giveWay
    Action.giveWay
    return held

/-- Does an action while a lock is held. -/
def whileHolding (name : String) (span : Option Number) (x : Action σ α) : Action σ α := do
  let t ← Action.onPart fun s : Locks => s.enter name
  let body := do
    if ← acquire t span then x
    else Action.fail (busy name)
  body.ensuring (Action.update fun s : Locks => (s.giveUp t).leave t)

end Hold

end Parley.Session
