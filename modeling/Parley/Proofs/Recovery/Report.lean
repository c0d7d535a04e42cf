import Parley.Proofs.Action.Pact
import Parley.Recovery.Fallback

/-!
# Parley.Proofs.Recovery.Report — what a recovery reports is what its checks found

A recovery makes two checks, one of the stored state before the baseline does the message, and one of
the stage visits in the reply.  `run_recover_of_reply`: where the first check has an answer and the
baseline replies, the recovery succeeds, and tells in itself and in its event what the checks found.
`run_recover_of_refusal`: where the baseline fails, an event still tells what the first check found.
Until then ledger and journal are as they were (`Unreported`).
-/

namespace Parley.Recovery

open Conversation (Reply State)
open Time (Clocked Moment Seconds)

variable {ε : Type}

/-- The verdict on the stage visits of a reply. -/
def Manager.stagesKept (m : Manager ε) (o : FallbackOptions) (ledger : Stages.Ledger)
    (reply : Reply) : Bool :=
  if o.verifyStages then (stageCheck (fun k => m.hasLedger && ledger.isClaimed k) reply).1 else true

/-- The recovery has this reply, and tells these two verdicts, in itself and in its event. -/
structure Recovered.Reports (r : Recovered) (reply : Reply) (stateKept stagesKept : Bool) :
    Prop where
  reply : r.reply = reply
  state : r.preservedState = stateKept
  stages : r.leadDataPreserved = stagesKept
  event : r.event.preservedState = stateKept ∧ r.event.leadDataPreserved = stagesKept

/-- The baseline at work on the message of a turn. -/
def Manager.redo (m : Manager ε) (c : FallbackContext) : Action (World ε) Reply :=
  (m.baseline (c.message [])).inside

/-! ### Before the report -/

/-- The worlds have one ledger and one journal. -/
def Unreported (w w' : World ε) : Prop := w'.ledger = w.ledger ∧ w'.journal = w.journal

section Unreported

variable [Clocked ε] {α : Type}

theorem unreported_of_run {x : Action (World ε) α} (h : x.Idle Unreported) (w : World ε) :
    Unreported w (x.run w).2 :=
  Action.same_of_run w (fun _ => ⟨rfl, rfl⟩)
    (fun h h' => ⟨h'.1.trans h.1, h'.2.trans h.2⟩) (fun _ _ => ⟨rfl, rfl⟩) h

theorem unreported_checkState (m : Manager ε) (o : FallbackOptions) (c : FallbackContext)
    (w : World ε) : Unreported w ((m.checkState o c).run w).2 := by
  have hload (now : Moment) : (Action.tryPart (Storage.Store.load now c.key) :
      Action (World ε) (Option State)).attempt.Idle Unreported :=
    Action.Idle.attempt (Action.Idle.andThen (Action.idle_onPart fun _ => ⟨rfl, rfl⟩)
      fun _ => Action.idle_ofExcept _)
  have hask : (Manager.askStore c : Action (World ε) (Bool × RecoveryAction)).Idle Unreported := by
    refine Action.Idle.andThen (Action.idle_look fun _ => trivial) fun now =>
      (hload now).andThen fun outcome => ?_
    cases outcome with
    | ok stored =>
      refine (Action.idle_ofExcept _).andThen fun matching => ?_
      cases matching
      · exact Action.idle_result _
      · exact Action.idle_result _
    | error f =>
      dsimp only
      split
      · exact Action.idle_result _
      · exact Action.idle_fail _
  unfold Manager.checkState
  split_ifs
  · exact unreported_of_run hask w
  · exact ⟨rfl, rfl⟩

theorem unreported_redo (m : Manager ε) (c : FallbackContext) (w : World ε) :
    Unreported w ((m.redo c).run w).2 := by
  have hidle : (m.redo c).Idle Unreported := Action.idle_through fun _ _ => ⟨rfl, rfl⟩
  exact unreported_of_run hidle w

end Unreported

/-! ### The report -/

section Recover

variable [Clocked ε] {m : Manager ε} {c : FallbackContext} {o : FallbackOptions} {w w₁ w₂ : World ε}
  {stateKept : Bool} {kept : RecoveryAction}

theorem run_stagesKept (m : Manager ε) (o : FallbackOptions) (reply : Reply) (w : World ε) :
    ∃ staged, (m.checkStages o reply).run w = (.ok (m.stagesKept o w.ledger reply, staged), w) := by
  unfold Manager.checkStages Manager.stagesKept
  split_ifs
  · exact ⟨_, rfl⟩
  · exact ⟨_, rfl⟩

/-- An event is noted in the journal, whatever else hears of it. -/
theorem run_noting (m : Manager ε) (e : FallbackEvent) (w : World ε) :
    ((m.emit e).run w).1 = .ok () ∧ ((m.emit e).run w).2.journal = w.journal.note e := by
  unfold Manager.emit
  cases m.hasMetrics
  · exact ⟨rfl, rfl⟩
  · exact ⟨rfl, rfl⟩

/-- After the first check, a recovery is what follows from the outcome of the baseline. -/
theorem run_recover_of_checked (incident : Incident)
    (hcheck : (m.checkState o c).run w = (.ok (stateKept, kept), w₁))
    (hcopy : c.before.mapM State.copy = .ok c.before) :
    ∃ next : Except Fault Reply → Action (World ε) Recovered,
      (m.recover c incident o).run w = ((m.redo c).attempt.andThen next).run w₁ ∧
      (∀ reply, next (.ok reply) = (m.checkStages o reply).andThen fun (leadOk, staged) =>
        let actions := [⟨.logIncident, .completed, ""⟩, kept] ++
          [⟨.switchEngine, .completed, "baseline"⟩, staged]
        (Manager.event c incident (Clocked.clock w).reading stateKept leadOk actions true).andThen
          fun e => (m.emit e).andThen fun _ =>
            Action.result ⟨reply, stateKept, leadOk, e, actions⟩) ∧
      ∀ wording, next (.error (.baselineFailed wording)) =
        (Manager.event c incident (Clocked.clock w).reading stateKept false
          ([⟨.logIncident, .completed, ""⟩, kept] ++ [⟨.switchEngine, .failed, wording⟩])
          false).andThen fun e => (m.emit e).andThen fun _ =>
            Action.fail (.baselineFailed wording) := by
  have hrun : (m.recover c incident o).run w = ((m.checkState o c).andThen _).run w := rfl
  rw [hrun, Action.run_andThen_of_ok _ _ w (congrArg Prod.fst hcheck), hcheck]
  dsimp only
  rw [hcopy]
  exact ⟨_, rfl, fun reply => rfl, fun wording => rfl⟩

/-- A recovery whose state cannot be copied reports nothing. -/
theorem run_recover_of_uncopied (incident : Incident) {f : Fault}
    (hcheck : (m.checkState o c).run w = (.ok (stateKept, kept), w₁))
    (hcopy : c.before.mapM State.copy = .error f) :
    (m.recover c incident o).run w = (.error f, w₁) := by
  have hrun : (m.recover c incident o).run w = ((m.checkState o c).andThen _).run w := rfl
  rw [hrun, Action.run_andThen_of_ok _ _ w (congrArg Prod.fst hcheck), hcheck]
  dsimp only
  rw [hcopy]
  rfl

/-- **A recovery whose baseline replies** reports what the checks found. -/
theorem run_recover_of_reply {reply : Reply} (incident : Incident)
    (hcheck : (m.checkState o c).run w = (.ok (stateKept, kept), w₁))
    (hcopy : c.before.mapM State.copy = .ok c.before)
    (hbase : (m.redo c).run w₁ = (.ok reply, w₂)) :
    ∃ r, ((m.recover c incident o).run w).1 = .ok r ∧
      r.Reports reply stateKept (m.stagesKept o w₂.ledger reply) := by
  obtain ⟨next, hrun, hreply, -⟩ := run_recover_of_checked incident hcheck hcopy
  obtain ⟨staged, hstages⟩ := run_stagesKept m o reply w₂
  rw [hrun, Action.run_attempt_andThen, hbase, hreply,
    Action.run_andThen_of_ok _ _ w₂ (congrArg Prod.fst hstages), hstages]
  -- the event is made up from what is known by now
  show ∃ r, (Action.run (Action.andThen (m.emit _) _) w₂).1 = _ ∧ _
  rw [Action.run_andThen_of_ok _ _ w₂ (run_noting m _ w₂).1]
  exact ⟨_, rfl, rfl, rfl, rfl, rfl, rfl⟩

/-- **A recovery whose baseline fails** fails with it, and the event in the journal tells what the
check of the stored state found. -/
theorem run_recover_of_refusal {wording : String} (incident : Incident)
    (hcheck : (m.checkState o c).run w = (.ok (stateKept, kept), w₁))
    (hcopy : c.before.mapM State.copy = .ok c.before)
    (hbase : (m.redo c).run w₁ = (.error (.baselineFailed wording), w₂)) :
    ((m.recover c incident o).run w).1 = .error (.baselineFailed wording) ∧
      ∃ e : FallbackEvent, e.preservedState = stateKept ∧
        ((m.recover c incident o).run w).2.journal = w₂.journal.note e := by
  obtain ⟨next, hrun, -, hrefusal⟩ := run_recover_of_checked incident hcheck hcopy
  rw [hrun, Action.run_attempt_andThen, hbase, hrefusal]
  show (Action.run (Action.andThen (m.emit _) _) w₂).1 = _ ∧ ∃ e : FallbackEvent, _ ∧
    (Action.run (Action.andThen (m.emit _) _) w₂).2.journal = _
  rw [Action.run_andThen_of_ok _ _ w₂ (run_noting m _ w₂).1]
  exact ⟨rfl, _, rfl, (run_noting m _ w₂).2⟩

end Recover

end Parley.Recovery
