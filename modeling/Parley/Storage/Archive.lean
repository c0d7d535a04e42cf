import Parley.Storage.Saved
import Parley.Value.Arithmetic

/-!
# Parley.Storage.Archive — documents kept by the process itself

An archive keeps the documents of states, so that nothing is shared with those who save and load.
`Memory` keeps the states that the documents stand for.
-/

namespace Parley.Storage

open Conversation (State SessionKey)

/-- The stored documents by the text of their keys. -/
structure Archive where
  records : Fields (Fields Value)
  deriving DecidableEq

namespace Archive

def empty : Archive := ⟨[]⟩

/-- The version in a stored document; zero if there is none. -/
def storedVersion (record : Option (Fields Value)) : Except Fault Value :=
  match record with
  | none | some [] => .ok (.int 0)
  | some fields => Value.require fields "version"

def load (now : Time.Moment) (key : SessionKey) (a : Archive) : Except Fault (Option State) := do
  match a.records.get? (← key.join) with
  | none => .ok none
  | some fields => (State.ofFields now fields).map some

/-- Stores a copy of the document of a state under a name if the stored version is the one
expected. -/
def swap (a : Archive) (name : String) (state : State) (expected : Int) :
    Except Fault (Saved × Archive) := do
  let version ← storedVersion (a.records.get? name)
  if version.equal (.int expected) then
    let next ← version.plus (.int 1)
    let copied ← state.copy
    .ok (.stored next, ⟨a.records.put name (Table.put copied.document "version" next)⟩)
  else .ok (.conflict version, a)

def save (state : State) (expected : Int) (a : Archive) : Except Fault Saved × Archive :=
  match (do a.swap (← state.key.join) state expected : Except Fault (Saved × Archive)) with
  | .ok (saved, a) => (.ok saved, a)
  | .error f => (.error f, a)

/-- Drops a document; tells whether there was one. -/
def delete (key : SessionKey) (a : Archive) : Except Fault Bool × Archive :=
  match key.join with
  | .ok name => (.ok (a.records.has name), ⟨a.records.erase name⟩)
  | .error f => (.error f, a)

end Archive

end Parley.Storage
