import Parley.Storage.Saved

/-!
# Parley.Storage.Memory — states kept by the process itself
-/

namespace Parley.Storage

open Conversation (State SessionKey)

/-- The stored states by the text of their keys. -/
structure Memory where
  records : Fields State
  deriving DecidableEq

namespace Memory

def empty : Memory := ⟨[]⟩

def size (m : Memory) : Nat := m.records.length

/-- The version stored under a name; zero if nothing is stored. -/
def version (m : Memory) (name : String) : Int := ((m.records.get? name).map State.version).getD 0

def load (m : Memory) (key : SessionKey) : Except Fault (Option State) := do
  .ok (m.records.get? (← key.join))

/-- Stores a copy of a state under a name if the stored version is the one expected. -/
def swap (m : Memory) (name : String) (state : State) (expected : Int) :
    Except Fault (Saved × Memory) := do
  if m.version name = expected then
    let version := m.version name + 1
    let copied ← state.copy
    .ok (.stored (.int version), ⟨m.records.put name { copied with version := version }⟩)
  else .ok (.conflict (.int (m.version name)), m)

def save (m : Memory) (state : State) (expected : Int) : Except Fault Saved × Memory :=
  match (do m.swap (← state.key.join) state expected : Except Fault (Saved × Memory)) with
  | .ok (saved, m) => (.ok saved, m)
  | .error f => (.error f, m)

/-- Drops a state; tells whether there was one. -/
def delete (m : Memory) (key : SessionKey) : Except Fault Bool × Memory :=
  match key.join with
  | .ok name => (.ok (m.records.has name), ⟨m.records.erase name⟩)
  | .error f => (.error f, m)

theorem load_eq {m : Memory} {key : SessionKey} {name : String} (h : key.join = .ok name) :
    m.load key = .ok (m.records.get? name) := by
  simp only [load, h]; rfl

theorem swap_of_eq {m : Memory} {name : String} {state : State} {expected : Int}
    (h : m.version name = expected) :
    m.swap name state expected = state.copy.map fun copied => (.stored (.int (expected + 1)),
      ⟨m.records.put name { copied with version := expected + 1 }⟩) := by
  rw [swap, if_pos h, h]
  cases state.copy <;> rfl

theorem swap_of_ne {m : Memory} {name : String} {state : State} {expected : Int}
    (h : m.version name ≠ expected) :
    m.swap name state expected = .ok (.conflict (.int (m.version name)), m) := by
  rw [swap, if_neg h]

/-- A save either leaves everything as it was, and says so, or stores the state. -/
theorem save_cases (m : Memory) (state : State) (expected : Int) :
    ((m.save state expected).2 = m ∧
        ∀ saved, (m.save state expected).1 = .ok saved → saved.ok = false) ∨
      ∃ name, state.key.join = .ok name ∧ m.version name = expected ∧
        m.save state expected = (.ok (.stored (.int (expected + 1))),
          ⟨m.records.put name { state with version := expected + 1 }⟩) := by
  unfold save
  cases hname : state.key.join with
  | error f => exact .inl ⟨rfl, fun _ h => nomatch h⟩
  | ok name =>
    dsimp only [bind, Except.bind]
    by_cases hexpected : m.version name = expected
    · rw [swap_of_eq hexpected]
      cases hcopy : state.copy with
      | error f => exact .inl ⟨rfl, fun _ h => nomatch h⟩
      | ok copied =>
        obtain ⟨-, rfl⟩ := State.copy_eq_ok.mp hcopy
        exact .inr ⟨name, rfl, hexpected, rfl⟩
    · rw [swap_of_ne hexpected]
      exact .inl ⟨rfl, fun saved h => Except.ok.inj h ▸ rfl⟩

/-- A save fails for a state without a name, or one that is too deep to be copied. -/
theorem fault_of_save {m : Memory} {state : State} {expected : Int} {f : Fault}
    (h : (m.save state expected).1 = .error f) : state.key.join = .error f ∨ f.isLimit = true := by
  unfold save at h
  cases hname : state.key.join with
  | error e =>
    rw [hname] at h
    exact .inl (congrArg Except.error (Except.error.inj h))
  | ok name =>
    rw [hname] at h
    dsimp only [bind, Except.bind] at h
    by_cases hexpected : m.version name = expected
    · rw [swap_of_eq hexpected] at h
      cases hcopy : state.copy with
      | ok copied =>
        rw [hcopy] at h
        exact nomatch h
      | error e =>
        rw [hcopy] at h
        exact .inr (Except.error.inj h ▸ State.isLimit_of_copy hcopy)
    · rw [swap_of_ne hexpected] at h
      exact nomatch h

end Memory

end Parley.Storage
