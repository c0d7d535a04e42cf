import Mathlib.Tactic.SplitIfs
import Parley.Storage.Store

/-!
# Parley.Proofs.Storage.Swapping — stores that compare and swap

`Swapping fair sound held`: the operations on sound stores, seen through the states that they hold.
A state takes the place of the one that is held only if that one has the version expected; an
operation that fails has done nothing.  `Replacing fair sound held` says so of what is held, and
nothing of the answers.  The laws are about fair states, which a store holds as they are: those whose
documents can be read back, where it keeps documents.

`Losing.within`: a store that is given fewer states keeps its laws, if these become no others in it.

`swapping_memory`, `replacing_memory`: the store of the process itself is such a store for all states,
whatever outages are planned; but if a save may store and fail nevertheless, only what is held is
known.
-/

namespace Parley.Storage

open Conversation (State SessionKey)
open Time (Moment)

/-- The version that a save has to expect. -/
def heldVersion (state : Option State) : Int := (state.map State.version).getD 0

/-- One state is held in place of what was held under a name, and all else stays. -/
def Replaces (held held' : String → Option State) (name : String) (state : Option State) : Prop :=
  held' name = state ∧ ∀ other, other ≠ name → held' other = held other

section Laws

variable (fair : State → Prop) (sound : Store → Prop) (held : Store → String → Option State)

/-- A store that holds fair states, finds what it holds, and drops what it is told to drop. -/
structure Holding : Prop where
  holds : ∀ {s : Store} {name : String} {state : State}, sound s → held s name = some state →
    fair state
  load : ∀ {s : Store} (now : Moment) (key : SessionKey), sound s →
    sound (s.load now key).2 ∧ held (s.load now key).2 = held s ∧
      ∀ state name, key.join = .ok name → (s.load now key).1 = .ok state → state = held s name
  delete : ∀ {s : Store} (key : SessionKey), sound s →
    sound (s.delete key).2 ∧
      (held (s.delete key).2 = held s ∨
        ∃ name, key.join = .ok name ∧ Replaces (held s) (held (s.delete key).2) name none)

/-- The laws of compare and swap. -/
structure Swapping : Prop extends Holding fair sound held where
  save : ∀ {s : Store} {state : State} (expected : Int), sound s → fair state →
    sound (s.save state expected).2 ∧
      ((held (s.save state expected).2 = held s ∧
          ∀ saved, (s.save state expected).1 = .ok saved → saved.ok = false) ∨
        ∃ name, state.key.join = .ok name ∧ heldVersion (held s name) = expected ∧
          (s.save state expected).1 = .ok (.stored (.int (expected + 1))) ∧
          Replaces (held s) (held (s.save state expected).2) name
            (some { state with version := expected + 1 }))

/-- The laws of compare and swap, as far as they are about what is held. -/
structure Replacing : Prop extends Holding fair sound held where
  save : ∀ {s : Store} {state : State} (expected : Int), sound s → fair state →
    sound (s.save state expected).2 ∧
      (held (s.save state expected).2 = held s ∨
        ∃ name, state.key.join = .ok name ∧ heldVersion (held s name) = expected ∧
          Replaces (held s) (held (s.save state expected).2) name
            (some { state with version := expected + 1 }))

/-- The laws of compare and swap for a store that may fail to answer: a save fails before anything is
stored, or its answer is lost after the state was stored, as `lost` tells from the store before and
after. -/
structure Losing (lost : Store → Store → Bool) : Prop extends Holding fair sound held where
  save : ∀ {s : Store} {state : State} (expected : Int), sound s → fair state →
    sound (s.save state expected).2 ∧
      ((held (s.save state expected).2 = held s ∧
          ∀ saved, (s.save state expected).1 = .ok saved → saved.ok = false) ∨
        ∃ name, state.key.join = .ok name ∧ heldVersion (held s name) = expected ∧
          Replaces (held s) (held (s.save state expected).2) name
            (some { state with version := expected + 1 }) ∧
          (lost s (s.save state expected).2 = false ∧
              (s.save state expected).1 = .ok (.stored (.int (expected + 1))) ∨
            lost s (s.save state expected).2 = true ∧ ∃ f, (s.save state expected).1 = .error f))

variable {fair sound held}

/-- What is held is known of a store whose answers may be lost. -/
theorem Losing.replacing {lost : Store → Store → Bool} (h : Losing fair sound held lost) :
    Replacing fair sound held where
  toHolding := h.toHolding
  save := fun expected hs hfair => by
    obtain ⟨hsound, ⟨hheld, -⟩ | ⟨name, hname, hversion, hreplaces, -⟩⟩ := h.save expected hs hfair
    · exact ⟨hsound, .inl hheld⟩
    · exact ⟨hsound, .inr ⟨name, hname, hversion, hreplaces⟩⟩

/-- All states that are held are fair. -/
def HoldsOnly (fair : State → Prop) (held : Store → String → Option State) (s : Store) : Prop :=
  ∀ name state, held s name = some state → fair state

theorem HoldsOnly.of_eq {s s' : Store} (h : HoldsOnly fair held s) (hheld : held s' = held s) :
    HoldsOnly fair held s' := by
  unfold HoldsOnly
  rw [hheld]
  exact h

theorem HoldsOnly.of_replaces {s s' : Store} {name : String} {new : Option State}
    (h : HoldsOnly fair held s) (hreplaces : Replaces (held s) (held s') name new)
    (hnew : ∀ state, new = some state → fair state) : HoldsOnly fair held s' := by
  intro other state hstate
  obtain ⟨hput, hothers⟩ := hreplaces
  by_cases ho : other = name
  · rw [ho, hput] at hstate
    exact hnew state hstate
  · rw [hothers other ho] at hstate
    exact h other state hstate

/-- A store that is given fewer states keeps its laws, if another version makes no others of them. -/
theorem Losing.within {fair' : State → Prop} {lost : Store → Store → Bool}
    (h : Losing fair sound held lost) (hless : ∀ s, fair' s → fair s)
    (hversion : ∀ (s : State) (version : Int), fair' s → fair' { s with version := version }) :
    Losing fair' (fun s => sound s ∧ HoldsOnly fair' held s) held lost where
  holds := fun hs hheld => hs.2 _ _ hheld
  load := fun now key hs => by
    obtain ⟨hsound, hheld, hload⟩ := h.load now key hs.1
    exact ⟨⟨hsound, hs.2.of_eq hheld⟩, hheld, hload⟩
  delete := fun key hs => by
    obtain ⟨hsound, hheld | ⟨name, hname, hreplaces⟩⟩ := h.delete key hs.1
    · exact ⟨⟨hsound, hs.2.of_eq hheld⟩, .inl hheld⟩
    · exact ⟨⟨hsound, hs.2.of_replaces hreplaces fun _ hnone => nomatch hnone⟩,
        .inr ⟨name, hname, hreplaces⟩⟩
  save := fun {s state} expected hs hfair => by
    obtain ⟨hsound, ⟨hheld, hno⟩ | ⟨name, hname, hfound, hreplaces, hanswer⟩⟩ :=
      h.save expected hs.1 (hless state hfair)
    · exact ⟨⟨hsound, hs.2.of_eq hheld⟩, .inl ⟨hheld, hno⟩⟩
    · refine ⟨⟨hsound, hs.2.of_replaces hreplaces fun new hnew => ?_⟩,
        .inr ⟨name, hname, hfound, hreplaces, hanswer⟩⟩
      rw [← Option.some.inj hnew]
      exact hversion state _ hfair

end Laws

/-- Fair are all states. -/
def Any (_ : State) : Prop := True

/-! ### The store of the process -/

section Memory

/-- A store of the process. -/
def IsMemory (s : Store) : Prop := ∃ m, s.backing = .memory m

/-- A store of the process, whose saves store nothing when they fail. -/
def InMemory (s : Store) : Prop := (∃ m, s.backing = .memory m) ∧ s.outage.lostAnswer = 0

/-- The state in a store of the process. -/
def inMemory (s : Store) (name : String) : Option State :=
  match s.backing with
  | .memory m => m.records.get? name
  | .remote _ => none

/-- A planned loss of an answer has taken place. -/
def lostAnswer (s s' : Store) : Bool := s'.outage.lostAnswer ≠ s.outage.lostAnswer

variable {s : Store} {m : Memory}

theorem inMemory_eq (h : s.backing = .memory m) : inMemory s = m.records.get? := by
  funext name
  unfold inMemory
  rw [h]

theorem lostAnswer_load (now : Moment) (key : SessionKey) :
    (s.load now key).2.outage.lostAnswer = s.outage.lostAnswer := by
  unfold Store.load
  split_ifs <;> rfl

theorem lostAnswer_delete (key : SessionKey) :
    (s.delete key).2.outage.lostAnswer = s.outage.lostAnswer := by
  unfold Store.delete
  split_ifs <;> rfl

theorem lostAnswer_save_le (state : State) (expected : Int) :
    (s.save state expected).2.outage.lostAnswer ≤ s.outage.lostAnswer := by
  unfold Store.save
  split_ifs
  · exact Nat.le_refl _
  · exact Nat.le_refl _
  · exact Nat.sub_le _ _
  · exact Nat.le_refl _

/-- A store compares and swaps when no answer will be lost. -/
theorem Losing.answering {fair : State → Prop} {sound : Store → Prop}
    {held : Store → String → Option State} (h : Losing fair sound held lostAnswer) :
    Swapping fair (fun s => sound s ∧ s.outage.lostAnswer = 0) held where
  holds := fun hs hheld => h.holds hs.1 hheld
  load := fun now key hs => by
    obtain ⟨hsound, hload⟩ := h.load now key hs.1
    exact ⟨⟨hsound, (lostAnswer_load now key).trans hs.2⟩, hload⟩
  delete := fun key hs => by
    obtain ⟨hsound, hdelete⟩ := h.delete key hs.1
    exact ⟨⟨hsound, (lostAnswer_delete key).trans hs.2⟩, hdelete⟩
  save := fun {s state} expected hs hfair => by
    have hnone : (s.save state expected).2.outage.lostAnswer = 0 :=
      Nat.le_zero.mp (hs.2 ▸ lostAnswer_save_le state expected)
    obtain ⟨hsound, hsame | ⟨name, hname, hversion, hreplaces, hanswer⟩⟩ := h.save expected hs.1 hfair
    · exact ⟨⟨hsound, hnone⟩, .inl hsame⟩
    · refine ⟨⟨hsound, hnone⟩, .inr ⟨name, hname, hversion, ?_, hreplaces⟩⟩
      rcases hanswer with ⟨-, hstored⟩ | ⟨hlost, -⟩
      · exact hstored
      · exact absurd (hnone.trans hs.2.symm) (of_decide_eq_true hlost)

theorem load_isMemory (h : IsMemory s) (now : Moment) (key : SessionKey) :
    IsMemory (s.load now key).2 ∧ inMemory (s.load now key).2 = inMemory s ∧
      ∀ state name, key.join = .ok name → (s.load now key).1 = .ok state →
        state = inMemory s name := by
  obtain ⟨m, hm⟩ := h
  unfold Store.load
  split_ifs with hout
  · exact ⟨⟨m, hm⟩, rfl, fun _ _ _ h => nomatch h⟩
  · rw [hm]
    refine ⟨⟨m, rfl⟩, ?_, fun state name hname hload => ?_⟩
    · rw [inMemory_eq hm]
      exact inMemory_eq rfl
    · dsimp only [Backing.load] at hload
      rw [Memory.load_eq hname] at hload
      rw [inMemory_eq hm, Except.ok.inj hload]

theorem delete_isMemory (h : IsMemory s) (key : SessionKey) :
    IsMemory (s.delete key).2 ∧
      (inMemory (s.delete key).2 = inMemory s ∨
        ∃ name, key.join = .ok name ∧
          Replaces (inMemory s) (inMemory (s.delete key).2) name none) := by
  obtain ⟨m, hm⟩ := h
  unfold Store.delete
  split_ifs with hout
  · exact ⟨⟨m, hm⟩, .inl rfl⟩
  · rw [hm, inMemory_eq hm]
    dsimp only [Backing.delete, Memory.delete]
    cases hname : key.join with
    | error f => exact ⟨⟨m, rfl⟩, .inl (inMemory_eq rfl)⟩
    | ok name =>
      refine ⟨⟨_, rfl⟩, .inr ⟨name, rfl, ?_, fun other ho => ?_⟩⟩
      · rw [inMemory_eq rfl]
        exact Table.get?_erase_self _ _
      · rw [inMemory_eq rfl]
        exact Table.get?_erase_of_ne _ ho

theorem save_lostAnswer (h : IsMemory s) (state : State) (expected : Int) :
    IsMemory (s.save state expected).2 ∧
      ((inMemory (s.save state expected).2 = inMemory s ∧
          ∀ saved, (s.save state expected).1 = .ok saved → saved.ok = false) ∨
        ∃ name, state.key.join = .ok name ∧ heldVersion (inMemory s name) = expected ∧
          Replaces (inMemory s) (inMemory (s.save state expected).2) name
            (some { state with version := expected + 1 }) ∧
          (lostAnswer s (s.save state expected).2 = false ∧
              (s.save state expected).1 = .ok (.stored (.int (expected + 1))) ∨
            lostAnswer s (s.save state expected).2 = true ∧
              ∃ f, (s.save state expected).1 = .error f)) := by
  obtain ⟨m, hm⟩ := h
  have hcases := m.save_cases state expected
  have hreplaces (name : String) : Replaces m.records.get?
      (m.records.put name { state with version := expected + 1 }).get? name
      (some { state with version := expected + 1 }) :=
    ⟨Table.get?_put_self _ _ _, fun _ ho => Table.get?_put_of_ne _ _ ho⟩
  unfold Store.save
  rw [hm, inMemory_eq hm]
  dsimp only [Backing.save]
  split_ifs with hout hconflict hanswer
  · exact ⟨⟨m, rfl⟩, .inl ⟨inMemory_eq rfl, fun _ h => by cases h⟩⟩
  · exact ⟨⟨m, rfl⟩, .inl ⟨inMemory_eq rfl, fun saved h => Except.ok.inj h ▸ rfl⟩⟩
  · refine ⟨⟨_, rfl⟩, ?_⟩
    rw [inMemory_eq rfl]
    rcases hcases with ⟨hsame, -⟩ | ⟨name, hname, hversion, hsave⟩
    · rw [hsame]
      exact .inl ⟨rfl, fun _ h => by cases h⟩
    · have hfewer : s.outage.lostAnswer - 1 ≠ s.outage.lostAnswer := by omega
      rw [hsave]
      exact .inr ⟨name, hname, hversion, hreplaces name, .inr ⟨decide_eq_true hfewer, _, rfl⟩⟩
  · refine ⟨⟨_, rfl⟩, ?_⟩
    rw [inMemory_eq rfl]
    rcases hcases with ⟨hsame, hno⟩ | ⟨name, hname, hversion, hsave⟩
    · rw [hsame]
      exact .inl ⟨rfl, hno⟩
    · rw [hsave]
      exact .inr ⟨name, hname, hversion, hreplaces name,
        .inl ⟨decide_eq_false fun hne => hne rfl, rfl⟩⟩

end Memory

/-- The store of the process holds whatever it is given. -/
theorem losing_memory : Losing Any IsMemory inMemory lostAnswer where
  holds := fun _ _ => trivial
  load := fun now key h => load_isMemory h now key
  delete := fun key h => delete_isMemory h key
  save := fun {_ state} expected h _ => save_lostAnswer h state expected

/-- As far as what is held is concerned, it compares and swaps even if answers are lost. -/
theorem replacing_memory : Replacing Any IsMemory inMemory := losing_memory.replacing

/-- **The store of the process compares and swaps.** -/
theorem swapping_memory : Swapping Any InMemory inMemory := losing_memory.answering

end Parley.Storage
