import Parley.Conversation.State

/-!
# Parley.Storage.Saved — the outcome of storing a state

A state is stored only if the stored version is the one expected, zero meaning that nothing is
stored; it then gets the next version.
-/

namespace Parley.Storage

open Conversation (State)

/-- Whether the state was stored, and the version that is now stored as far as is known. -/
structure Saved where
  ok : Bool
  version : Value
  deriving DecidableEq

namespace Saved

def stored (version : Value) : Saved := ⟨true, version⟩
def conflict (version : Value) : Saved := ⟨false, version⟩

/-- The state as it is known after it was offered to a store. -/
def adopt (s : Saved) (state : State) : State :=
  match s.ok, s.version.integer with
  | true, .ok version => { state with version := version }
  | _, _ => state

theorem adopt_conflict (version : Value) (state : State) :
    (conflict version).adopt state = state := by simp [adopt, conflict]

theorem adopt_stored (version : Int) (state : State) :
    (stored (.int version)).adopt state = { state with version := version } := rfl

theorem key_adopt (s : Saved) (state : State) : (s.adopt state).key = state.key := by
  unfold adopt
  split <;> rfl

end Saved

end Parley.Storage
