import Mathlib.Tactic.Common
import Parley.Proofs.Action.Pact
import Parley.Proofs.Conversation.Documents
import Parley.Proofs.Session.Exclusion
import Parley.Proofs.Storage.Isolation
import Parley.World

/-!
# Parley.Proofs.Session.Isolation — sessions do not meet

A session is known to stores and locks by its name only.  So two sessions with different names do
not meet: what is stored for one does not change what is loaded for the other, and who holds the
lock of one is not in the way of who wants the other (`isolated_of_apart`).  Two sessions that share
a name are one session (`not_isolated_of_colons`).
-/

namespace Parley.Session

open Conversation (SessionKey State)
open Storage (Memory Remote Store Write)
open Time (Moment Seconds)

/-! ### Locks -/

/-- What is done under a name, with a ticket that has some number and came to some lock. -/
inductive LockMove
  | enter
  | ask (number maker : Nat)
  | giveUp (number maker : Nat)
  | leave (number maker : Nat)

namespace LockMove

/-- The locks after something was done under a name. -/
def apply (name : String) (s : Locks) : LockMove → Locks
  | enter => (s.enter name).2
  | ask number maker => s.ask ⟨number, name, maker⟩
  | giveUp number maker => s.giveUp ⟨number, name, maker⟩
  | leave number maker => s.leave ⟨number, name, maker⟩

variable {name other : String} {s : Locks}

theorem lockOf_apply (h : other ≠ name) (move : LockMove) (s : Locks) :
    (move.apply name s).lockOf other = s.lockOf other := by
  cases move with
  | enter => exact Locks.lockOf_enter
  | ask number maker => exact Locks.lockOf_setLock_of_ne h
  | giveUp number maker => exact Locks.lockOf_setLock_of_ne h
  | leave number maker => exact Locks.lockOf_leave_of_ne h

theorem lockOf_foldl (h : other ≠ name) (moves : List LockMove) (s : Locks) :
    (moves.foldl (LockMove.apply name) s).lockOf other = s.lockOf other := by
  induction moves generalizing s with
  | nil => rfl
  | cons move more ih => exact (ih (move.apply name s)).trans (lockOf_apply h move s)

/-- One who is known under another name stays so. -/
theorem knows_foldl {t : Ticket} (hname : t.name ≠ name) (moves : List LockMove) (s : Locks)
    (h : s.Knows t) : (moves.foldl (LockMove.apply name) s).Knows t := by
  induction moves generalizing s with
  | nil => exact h
  | cons move more ih =>
    refine ih _ ?_
    cases move with
    | enter => exact h.enter
    | ask number maker | giveUp number maker => exact h
    | leave number maker => exact (Locks.names_leave (.inl hname)).trans h

end LockMove

/-- Nobody holds the lock or waits for it. -/
def Locks.Free (s : Locks) (name : String) : Prop :=
  (s.lockOf name).holder = none ∧ (s.lockOf name).waiting = []

/-- One who came to the lock that the name stands for, and asks for it when it is free, holds it. -/
theorem Locks.Free.holds_ask {s : Locks} {t : Ticket} (h : s.Free t.name) (hknows : s.Knows t) :
    (s.ask t).holds t = true := by
  obtain ⟨hholder, hwaiting⟩ := h
  rw [hknows.lockOf] at hholder hwaiting
  have hlock : (s.ask t).lockAt t.place = (s.lockAt t.place).ask t := Locks.lockAt_setLock_self
  simp [Locks.holds, hlock, Lock.ask, hholder, hwaiting]

/-- Whoever holds the lock does not wait in line. -/
theorem step_waitInLine {σ : Type} [Holds σ Locks] {t : Ticket} {limit : Option Seconds} {w : σ}
    (h : (Holds.part w : Locks).holds t = true) :
    (waitInLine t limit).step w = (Action.result true, w) := by
  simp [waitInLine, Action.view, Action.andThen, Action.step, Action.result, Action.settle, h]

/-! ### Sessions -/

/-- **Sessions do not meet**, if their names differ, as those of different sessions do when the ids of
one of them have no colons.  Whatever is saved or deleted for one of them, in a store of either kind
and with whatever mishaps, the other one's state is loaded as before.  Whatever is done with the lock
of one, that of the other one is as before, and who asks for it when it is free gets it at once,
whether entered before that or after it. -/
theorem isolated_of_apart {ε : Type} {key other : SessionKey}
    (h : key.join ≠ other.join ∨ key ≠ other ∧ (key.Plain ∨ other.Plain)) :
    (∀ writes : List Write, (∀ w ∈ writes, w.key = key) → ∀ (s : Store) (now : Moment),
      ((writes.foldl Write.apply s).load now other).1 = (s.load now other).1) ∧
    ∀ name name' : String, key.join = .ok name → other.join = .ok name' →
      ∀ (moves : List LockMove) (s : Locks),
        (moves.foldl (LockMove.apply name) s).lockOf name' = s.lockOf name' ∧
        ∀ (w : World ε) (t : Ticket) (limit : Option Seconds), s.Free name' →
          (t.name = name' ∧ s.Knows t ∧ w.locks = (moves.foldl (LockMove.apply name) s).ask t ∨
            ∃ entered, (moves.foldl (LockMove.apply name) s).enter name' = (t, entered) ∧
              w.locks = entered.ask t) →
          (waitInLine t limit).step w = (Action.result true, w) := by
  have hapart : key.join ≠ other.join := by
    rcases h with hapart | ⟨hne, hplain⟩
    · exact hapart
    · intro hsame
      rcases hplain with hplain | hplain
      · exact hne (hplain.eq_of_join hsame.symm).symm
      · exact hne (hplain.eq_of_join hsame)
  refine ⟨fun writes hkey s now => Write.load_of_writes (fun w hw => ?_) s now, ?_⟩
  · rw [hkey w hw]
    exact hapart
  · intro name name' hname hname' moves s
    have hnames : name' ≠ name := by
      rintro rfl
      exact hapart (hname.trans hname'.symm)
    have hlock := LockMove.lockOf_foldl hnames moves s
    have hfree' (hfree : s.Free name') : (moves.foldl (LockMove.apply name) s).Free name' := by
      unfold Locks.Free
      rwa [hlock]
    refine ⟨hlock, fun w t limit hfree hasked => step_waitInLine ?_⟩
    show w.locks.holds t = true
    rcases hasked with ⟨rfl, hknows, hw⟩ | ⟨entered, henter, hw⟩
    · rw [hw]
      exact (hfree' hfree).holds_ask (LockMove.knows_foldl hnames moves s hknows)
    · obtain rfl : _ = t := congrArg Prod.fst henter
      obtain rfl : _ = entered := congrArg Prod.snd henter
      rw [hw]
      refine Locks.Free.holds_ask ?_ Locks.knows_enter
      unfold Locks.Free
      rw [Locks.lockOf_enter]
      exact hfree' hfree

def annKey : SessionKey := ⟨.text "acme", .text "ann", .text "1"⟩

theorem plain_annKey : annKey.Plain :=
  ⟨"acme", "ann", "1", rfl, by decide, by decide, by decide⟩

/-- A session whose ids have colons is nothing to one whose ids have none. -/
theorem isolated_of_apart_ann : annKey.Plain ∧ annKey ≠ ⟨.text "acme:ann", .text "1", .text ""⟩ ∧
    (∀ writes : List Write, (∀ w ∈ writes, w.key = annKey) → ∀ (s : Store) (now : Moment),
      ((writes.foldl Write.apply s).load now
        ⟨.text "acme:ann", .text "1", .text ""⟩).1 =
        (s.load now ⟨.text "acme:ann", .text "1", .text ""⟩).1) ∧
    ∀ (moves : List LockMove) (s : Locks),
      (moves.foldl (LockMove.apply "acme:ann:1") s).lockOf "acme:ann:1:" =
        s.lockOf "acme:ann:1:" := by
  have hne : annKey ≠ ⟨.text "acme:ann", .text "1", .text ""⟩ := by decide
  have hisolated := isolated_of_apart (ε := Time.Clock) (.inr ⟨hne, .inl plain_annKey⟩)
  exact ⟨plain_annKey, hne, hisolated.1, fun moves s => (hisolated.2 _ _ rfl rfl moves s).1⟩

/-- One session is a tenant with a colon, the other one a user with a colon. -/
def tenantColon : SessionKey := ⟨.text "a:b", .text "c", .text "d"⟩

def userColon : SessionKey := ⟨.text "a", .text "b:c", .text "d"⟩

/-- A state of the first session. -/
def tenantState : State where
  flowId := .text "greeting"
  tenantId := tenantColon.tenant
  userId := tenantColon.user
  sessionId := tenantColon.session
  currentNodeId := .text "start"
  context := []
  history := [.text "start"]
  startedAt := ⟨0, none⟩
  lastUpdatedAt := ⟨0, none⟩
  completed := false
  version := 0

/-- **Two sessions with colons in their ids may be one.**  What is saved for the first is loaded for
the second, from either kind of store; and while the first holds its lock, the second does not get
its own. -/
theorem not_isolated_of_colons : tenantColon ≠ userColon ∧ tenantState.key = tenantColon ∧
    (Memory.empty.load userColon = .ok none ∧
      (Memory.empty.save tenantState 0).2.load userColon ≠ .ok none) ∧
    (∀ now, ((Remote.new Remote.defaultKeyStart none).load now userColon).1 = .ok none ∧
      (((Remote.new Remote.defaultKeyStart none).save tenantState 0).2.load now userColon).1 ≠
        .ok none) ∧
    ∃ name name', tenantColon.join = .ok name ∧ userColon.join = .ok name' ∧
      Locks.empty.Free name' ∧
      ∃ t entered, ([LockMove.enter, .ask 0 0].foldl (LockMove.apply name) .empty).enter name' =
        (t, entered) ∧ (entered.ask t).holds t = false := by
  have hname : userColon.join = .ok "a:b:c:d" := rfl
  have hplan : ((Remote.new Remote.defaultKeyStart none).save tenantState 0).2.server.errors.get?
      .get = none := by decide +kernel
  have htext : (((Remote.new Remote.defaultKeyStart none).save tenantState 0).2.server.text?
      (((Remote.new Remote.defaultKeyStart none).save tenantState 0).2.keyStart ++
        "a:b:c:d")).isSome = true := by decide +kernel
  exact ⟨by decide, rfl, ⟨rfl, by decide +kernel⟩,
    fun now => ⟨rfl, Remote.load_ne_none hname hplan htext now⟩,
    "a:b:c:d", "a:b:c:d", rfl, hname, ⟨rfl, rfl⟩, _, _, rfl, by decide⟩

end Parley.Session
