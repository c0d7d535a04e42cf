import Parley.Conversation.Reply
import Parley.Value.Arithmetic

/-!
# Parley.Stages.Ledger — the stage visits that were passed on

A visit is a place in the history of one conversation.  The ledger remembers the latest ones, so that
a visit is not passed on twice.
-/

namespace Parley.Stages

open Conversation (State StageTransition)

/-- A visit of a stage node.  The time at which the conversation started tells it from earlier
conversations of the same session. -/
structure VisitKey where
  tenant : Value
  user : Value
  session : Value
  startedAt : String
  historyIndex : Int
  stageId : String
  deriving DecidableEq

namespace VisitKey

def of (state : State) (t : StageTransition) : VisitKey :=
  ⟨state.tenantId, state.userId, state.sessionId, state.startedAt.iso, t.historyIndex, t.stageId⟩

def document (k : VisitKey) : Value :=
  .list [k.tenant, k.user, k.session, .text k.startedAt, .int k.historyIndex, .text k.stageId]

/-- Lists and objects do not identify anything. -/
def check (k : VisitKey) : Except Fault Unit :=
  match [k.tenant, k.user, k.session].find? fun v => !v.hashable with
  | some v => .error (.unhashable v.kind)
  | none => .ok ()

end VisitKey

/-- The latest visits, oldest first, and how many are kept. -/
structure Ledger where
  maxEntries : Nat
  entries : List VisitKey
  deriving DecidableEq

namespace Ledger

def defaultMaxEntries : Nat := 50000

def new (maxEntries : Nat) : Ledger := ⟨maxEntries, []⟩

def size (l : Ledger) : Nat := l.entries.length

def isClaimed (l : Ledger) (k : VisitKey) : Bool := l.entries.contains k

/-- Keeps the latest entries. -/
def trim (l : Ledger) : Ledger :=
  { l with entries := l.entries.drop (l.entries.length - l.maxEntries) }

/-- Claims a visit; tells whether it was not claimed yet. -/
def claim (l : Ledger) (k : VisitKey) : Bool × Ledger :=
  if l.isClaimed k then (false, l)
  else (true, { l with entries := l.entries ++ [k] }.trim)

theorem claim_of_claimed {l : Ledger} {k : VisitKey} (h : l.isClaimed k = true) :
    l.claim k = (false, l) := by simp [claim, h]

theorem claim_of_unclaimed {l : Ledger} {k : VisitKey} (h : l.isClaimed k = false) :
    l.claim k = (true, { l with entries := l.entries ++ [k] }.trim) := by simp [claim, h]

theorem size_trim_le (l : Ledger) : l.trim.size ≤ l.maxEntries := by
  simp only [trim, size, List.length_drop]; omega

end Ledger

end Parley.Stages
