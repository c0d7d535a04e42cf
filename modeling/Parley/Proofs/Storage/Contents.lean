import Parley.Proofs.Storage.Swapping

/-!
# Parley.Proofs.Storage.Contents — calls that leave a store as it is

All that is stored, in whichever kind of store, are its contents.  To load something never changes
them; and neither does a save that fails or reports a conflict, if no answer is lost.
-/

namespace Parley.Storage

open Conversation (State SessionKey)
open Time (Moment)

namespace Server

variable {s : Server} {α : Type}

theorem entries_command {c : Command} {f : Server → Except ServerError α × Server}
    (h : (f s).2.entries = s.entries) : (command c f s).2.entries = s.entries := by
  unfold command
  split
  · rfl
  · exact h

theorem entries_get (key : String) : (s.get key).2.entries = s.entries := entries_command rfl

theorem entries_watch (key : String) : (s.watch key).2.entries = s.entries := entries_command rfl

theorem entries_watchedGet (key : String) : (s.watchedGet key).2.entries = s.entries :=
  entries_command rfl

/-- A write that is not answered with success was not made. -/
theorem entries_execute {key : String} {seen : Nat} {entry : Entry} {e : ServerError}
    (h : (s.execute key seen entry).1 = .error e) :
    (s.execute key seen entry).2.entries = s.entries := by
  unfold execute command at h ⊢
  cases hplanned : s.errors.get? Command.execute with
  | some error => rfl
  | none =>
    rw [hplanned] at h
    dsimp only at h ⊢
    split_ifs at h ⊢
    rfl

end Server

namespace Remote

variable {r : Remote}

theorem entries_load (now : Moment) (key : SessionKey) :
    (r.load now key).2.server.entries = r.server.entries := by
  unfold load
  cases r.serverKey key with
  | error f => rfl
  | ok name =>
    have hget := Server.entries_get (s := r.server) name
    dsimp only
    split
    · exact hget
    · exact hget
    · exact hget

theorem entries_begin (state : State) (expected : Int) :
    (r.begin state expected).2.server.entries = r.server.entries := by
  unfold begin
  cases r.serverKey state.key with
  | error f => rfl
  | ok name =>
    have hwatch := Server.entries_watch (s := r.server) name
    dsimp only
    cases hwatched : r.server.watch name with
    | mk answer server =>
      rw [hwatched] at hwatch
      cases answer with
      | error e => exact hwatch
      | ok seen =>
        have hget := Server.entries_watchedGet (s := server) name
        dsimp only
        cases hread : server.watchedGet name with
        | mk answer' server' =>
          rw [hread] at hget
          cases answer' with
          | error e => exact hget.trans hwatch
          | ok text => exact hget.trans hwatch

/-- A save that does not succeed has written nothing. -/
theorem entries_save {state : State} {expected : Int}
    (h : ∀ saved, (r.save state expected).1 = .ok saved → saved.ok = false) :
    (r.save state expected).2.server.entries = r.server.entries := by
  have hbegin := entries_begin (r := r) state expected
  unfold save at h ⊢
  cases hbegun : r.begin state expected with
  | mk answer r' =>
    rw [hbegun] at h hbegin
    cases answer with
    | error f => exact hbegin
    | ok offered =>
      cases offered with
      | error saved => exact hbegin
      | ok pending =>
        dsimp only at h ⊢
        refine Eq.trans ?_ hbegin
        unfold commit at h ⊢
        cases hexecuted : r'.server.execute pending.key pending.seen pending.entry with
        | mk answer server =>
          rw [hexecuted] at h
          cases answer with
          | ok _ => exact nomatch h _ rfl
          | error e =>
            have hkept := Server.entries_execute (congrArg Prod.fst hexecuted)
            rw [hexecuted] at hkept
            cases e <;> exact hkept

end Remote

/-- All that is stored. -/
def Store.contents (s : Store) : Fields State × Table String Entry :=
  match s.backing with
  | .memory m => (m.records, [])
  | .remote r => ([], r.server.entries)

/-- No answer to a save will be lost. -/
def Store.Answers (s : Store) : Prop := s.outage.lostAnswer = 0

variable {s : Store}

theorem answers_load (hs : s.Answers) (now : Moment) (key : SessionKey) :
    (s.load now key).2.Answers :=
  (lostAnswer_load now key).trans hs

theorem answers_save (hs : s.Answers) (state : State) (expected : Int) :
    (s.save state expected).2.Answers :=
  Nat.le_zero.mp (hs ▸ lostAnswer_save_le state expected)

theorem answers_delete (hs : s.Answers) (key : SessionKey) : (s.delete key).2.Answers :=
  (lostAnswer_delete key).trans hs

theorem contents_load (now : Moment) (key : SessionKey) :
    (s.load now key).2.contents = s.contents := by
  unfold Store.load
  split_ifs
  · rfl
  · unfold Store.contents
    cases s.backing with
    | memory m => rfl
    | remote r => exact congrArg (Prod.mk []) (Remote.entries_load now key)

/-- **A save that does not succeed has stored nothing.** -/
theorem contents_save (hs : s.Answers) {state : State} {expected : Int}
    (h : ∀ saved, (s.save state expected).1 = .ok saved → saved.ok = false) :
    (s.save state expected).2.contents = s.contents := by
  unfold Store.save at h ⊢
  split_ifs at h ⊢ with hout hconflict hlost
  · rfl
  · rfl
  · exact absurd hlost (by rw [show s.outage.lostAnswer = 0 from hs]; exact Nat.lt_irrefl 0)
  · unfold Store.contents
    dsimp only at h ⊢
    cases hbacking : s.backing with
    | memory m =>
      rw [hbacking] at h
      obtain ⟨hsame, -⟩ | ⟨name, -, -, hsave⟩ := m.save_cases state expected
      · dsimp only [Backing.save]
        rw [hsame]
      · exact nomatch h _ (congrArg Prod.fst hsave)
    | remote r =>
      rw [hbacking] at h
      exact congrArg (Prod.mk []) (Remote.entries_save h)

end Parley.Storage
