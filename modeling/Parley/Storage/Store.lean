import Parley.Storage.Memory
import Parley.Storage.Remote

/-!
# Parley.Storage.Store — a store of states, and what is planned to go wrong with it

A store is one of the two kinds.  An outage makes the next calls fail, or makes the next states
offered collide with a writer nobody else sees.  A save may also fail after the state was stored.
-/

namespace Parley.Storage

open Conversation (State SessionKey)

/-- How many of the next calls go wrong. -/
structure Outage where
  load : Nat
  save : Nat
  delete : Nat
  /-- Saves that collide with an unseen writer. -/
  conflict : Nat
  /-- Saves whose answer is lost after the state was stored. -/
  lostAnswer : Nat
  deriving DecidableEq, Repr

def Outage.none : Outage := ⟨0, 0, 0, 0, 0⟩

/-- Where the states are. -/
inductive Backing
  | memory (m : Memory)
  | remote (r : Remote)
  deriving DecidableEq

structure Store where
  backing : Backing
  outage : Outage
  deriving DecidableEq

namespace Backing

def load (now : Time.Moment) (key : SessionKey) : Backing →
    Except Fault (Option State) × Backing
  | memory m => (m.load key, memory m)
  | remote r => let (answer, r) := r.load now key; (answer, remote r)

def save (state : State) (expected : Int) : Backing → Except Fault Saved × Backing
  | memory m => let (answer, m) := m.save state expected; (answer, memory m)
  | remote r => let (answer, r) := r.save state expected; (answer, remote r)

def delete (key : SessionKey) : Backing → Except Fault Bool × Backing
  | memory m => let (answer, m) := m.delete key; (answer, memory m)
  | remote r => let (answer, r) := r.delete key; (answer, remote r)

end Backing

namespace Store

def ofMemory (m : Memory) : Store := ⟨.memory m, .none⟩
def ofRemote (r : Remote) : Store := ⟨.remote r, .none⟩

/-- The version that an unseen writer leaves. -/
def unseenVersion : Int := 99

/-- The failure of a call during an outage. -/
def outageFault (operation : String) (key : SessionKey) : Fault :=
  match key.join with
  | .ok name => .storePersistence operation name "injected"
  | .error f => f

def load (now : Time.Moment) (key : SessionKey) (s : Store) :
    Except Fault (Option State) × Store :=
  if 0 < s.outage.load then
    (.error (outageFault "load" key), { s with outage.load := s.outage.load - 1 })
  else
    let (answer, backing) := s.backing.load now key
    (answer, { s with backing := backing })

def save (state : State) (expected : Int) (s : Store) : Except Fault Saved × Store :=
  if 0 < s.outage.save then
    (.error (outageFault "save" state.key), { s with outage.save := s.outage.save - 1 })
  else if 0 < s.outage.conflict then
    (.ok (.conflict (.int unseenVersion)),
      { s with outage.conflict := s.outage.conflict - 1 })
  else
    let (answer, backing) := s.backing.save state expected
    if 0 < s.outage.lostAnswer then
      (.error (outageFault "save" state.key),
        ⟨backing, { s.outage with lostAnswer := s.outage.lostAnswer - 1 }⟩)
    else (answer, { s with backing := backing })

def delete (key : SessionKey) (s : Store) : Except Fault Bool × Store :=
  if 0 < s.outage.delete then
    (.error (outageFault "delete" key), { s with outage.delete := s.outage.delete - 1 })
  else
    let (answer, backing) := s.backing.delete key
    (answer, { s with backing := backing })

end Store

end Parley.Storage
