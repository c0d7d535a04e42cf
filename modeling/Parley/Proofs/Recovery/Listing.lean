import Mathlib.Data.List.ReduceOption
import Parley.Proofs.Outcomes.Window
import Parley.Proofs.Recovery.Recorded
import Parley.Proofs.Recovery.Report
import Parley.Proofs.Storage.Faces
import Parley.Proofs.Turn.Quiet

/-!
# Parley.Proofs.Recovery.Listing — which recoveries are listed

Each recovery that comes to an answer of the baseline, or to its failure, makes up one event, which the
journal notes and the metrics record (`run_recover`).  `listings_of_recoveries`: after any sequence of
recoveries, the journal has the latest events and the metrics the latest ones that they recorded of
each tenant; and a listing with a limit of one or more shows the latest of these, as many as the
limit allows, in the order of the recoveries.  A listing with a limit of zero shows all of them.
-/

namespace Parley

namespace Outcomes

/-! ### Listings -/

/-- What listings show of the events that are there: with a limit of one or more the latest ones up to
the limit, with a greater limit older ones in front of them, and with a limit of zero all of them. -/
structure Lists {α : Type} (shown : Int → List α) (events : List α) : Prop where
  latest : ∀ limit, 1 ≤ limit → shown limit <:+ events
  count : ∀ limit, 1 ≤ limit → ((shown limit).length : Int) = min limit events.length
  grows : ∀ limit limit', 1 ≤ limit → limit ≤ limit' → shown limit <:+ shown limit'
  zero : shown 0 = events

section Lists

variable {α β : Type}

theorem listed_of_pos {limit : Int} (h : 1 ≤ limit) (xs : List α) :
    listed limit xs = lastEntries limit.toNat xs := if_pos (by omega)

theorem lists_listed (xs : List α) : Lists (fun limit => listed limit xs) xs where
  latest limit h := by
    rw [listed_of_pos h]
    exact lastEntries_suffix _ xs
  count limit h := by
    rw [listed_of_pos h, length_lastEntries]
    omega
  grows limit limit' h hle := by
    rw [listed_of_pos h, listed_of_pos (h.trans hle)]
    exact lastEntries_suffix_of_le (by omega) xs
  zero := rfl

theorem Lists.map {shown : Int → List α} {events : List α} (h : Lists shown events) (g : α → β) :
    Lists (fun limit => (shown limit).map g) (events.map g) where
  latest limit hlimit := (h.latest limit hlimit).map g
  count limit hlimit := by
    rw [List.length_map, List.length_map]
    exact h.count limit hlimit
  grows limit limit' hlimit hle := (h.grows limit limit' hlimit hle).map g
  zero := congrArg (List.map g) h.zero

end Lists

end Outcomes

namespace Recovery

open Conversation (Reply)
open Outcomes (Collector Lists Stamped WindowSize keep lastEntries recorded)
open Time (Clocked)

/-! ### Journal and metrics -/

/-- The event at its moment. -/
def FallbackEvent.stamped (e : FallbackEvent) : Stamped FallbackEvent := ⟨e.timestamp, e⟩

/-- The journal has the latest events, as many as it has room for. -/
theorem history_noted (size : Nat) (events : List FallbackEvent) :
    (events.foldl Journal.note (.new size)).history = lastEntries size events := by
  have hsize (events : List FallbackEvent) :
      (events.foldl Journal.note (.new size)).historySize = size := by
    induction events using List.reverseRecOn with
    | nil => rfl
    | append_singleton events e ih =>
      rw [List.foldl_append]
      exact ih
  induction events using List.reverseRecOn with
  | nil => exact List.drop_nil.symm
  | append_singleton events e ih =>
    rw [List.foldl_append, ← Outcomes.lastEntries_lastEntries_append, ← ih]
    show lastEntries (events.foldl Journal.note (.new size)).historySize _ = _
    rw [hsize]

/-- The window of the recoveries of a tenant. -/
def recoveryWindow (config : Outcomes.CollectorConfig) : WindowSize :=
  ⟨config.windowSeconds, config.maxFallbackEventsPerTenant⟩

/-- The recoveries that are kept of a tenant. -/
def recoveriesOf (c : Collector) (tenant : String) : List (Stamped FallbackEvent) :=
  (c.fallbacks.get? tenant).getD []

/-- The events of a tenant among others. -/
def ownEvents (tenant : String) (events : List FallbackEvent) : List (Stamped FallbackEvent) :=
  (events.filter fun e => e.tenantId.display = tenant).map FallbackEvent.stamped

theorem recoveriesOf_recordFallback (c : Collector) (e : FallbackEvent) (tenant : String) :
    recoveriesOf (c.recordFallback e (some e.timestamp)) tenant =
      if e.tenantId.display = tenant then
        (Outcomes.record (recoveryWindow c.config) (recoveriesOf c tenant) (some e.timestamp) e).2
      else recoveriesOf c tenant := by
  unfold recoveriesOf Collector.recordFallback
  dsimp only
  split_ifs with htenant
  · subst htenant
    rw [Table.get?_put_self]
    rfl
  · rw [Table.get?_put_of_ne _ _ (Ne.symm htenant)]

section Heard

variable {ε : Type} {m : Manager ε} {w w' : World ε} {size : Nat}
  {config : Outcomes.CollectorConfig} {events : List FallbackEvent}

/-- The world when an event has been noted. -/
def Manager.heard (m : Manager ε) (w : World ε) (e : FallbackEvent) : World ε :=
  { w with
    journal := w.journal.note e
    metrics :=
      if m.hasMetrics then w.metrics.recordFallback e (some e.timestamp) else w.metrics }

/-- The worlds have one journal and the same recoveries in the metrics. -/
structure Aside (w w' : World ε) : Prop where
  journal : w'.journal = w.journal
  fallbacks : w'.metrics.fallbacks = w.metrics.fallbacks
  config : w'.metrics.config = w.metrics.config

/-- The journal has been told these events since it was new, and so have the metrics if the manager
has any. -/
structure Heard (m : Manager ε) (size : Nat) (config : Outcomes.CollectorConfig)
    (events : List FallbackEvent) (w : World ε) : Prop where
  journal : w.journal = events.foldl Journal.note (.new size)
  configured : w.metrics.config = config
  metrics : ∀ tenant, recoveriesOf w.metrics tenant =
    keep (recoveryWindow config) (ownEvents tenant (if m.hasMetrics then events else []))

theorem Heard.aside (h : Heard m size config events w) (ha : Aside w w') :
    Heard m size config events w' where
  journal := ha.journal.trans h.journal
  configured := ha.config.trans h.configured
  metrics tenant := by
    rw [← h.metrics]
    unfold recoveriesOf
    rw [ha.fallbacks]

theorem ownEvents_concat (tenant : String) (events : List FallbackEvent) (e : FallbackEvent) :
    ownEvents tenant (events ++ [e]) =
      if e.tenantId.display = tenant then ownEvents tenant events ++ [e.stamped]
      else ownEvents tenant events := by
  unfold ownEvents
  split_ifs with htenant <;> simp [htenant]

/-- Each event is told once. -/
theorem Heard.heard (h : Heard m size config events w) (e : FallbackEvent) :
    Heard m size config (events ++ [e]) (m.heard w e) where
  journal := by
    rw [List.foldl_append, ← h.journal]
    rfl
  configured := by
    unfold Manager.heard
    dsimp only
    split_ifs
    · exact h.configured
    · exact h.configured
  metrics tenant := by
    unfold Manager.heard
    dsimp only
    have hbefore := h.metrics tenant
    split_ifs with hm
    · rw [if_pos hm] at hbefore
      rw [recoveriesOf_recordFallback, ownEvents_concat, hbefore, h.configured]
      split_ifs
      · exact (Outcomes.keep_concat _ _ e.stamped).symm
      · rfl
    · rw [if_neg hm] at hbefore
      exact hbefore

end Heard

/-! ### Recoveries -/

/-- A recovery that was executed, and what it came to. -/
structure Attempt where
  context : FallbackContext
  outcome : Except Fault Recovered

/-- The event that a recovery makes up: its own if the baseline replies, one that tells of a failure if
the baseline fails, and none if it does not come to that. -/
inductive Attempt.Marked : Attempt → Option FallbackEvent → Prop
  | recovered {c : FallbackContext} {r : Recovered} : r.event.Tells c true →
    Marked ⟨c, .ok r⟩ (some r.event)
  | refused {c : FallbackContext} {wording : String} {e : FallbackEvent} : e.Tells c false →
    Marked ⟨c, .error (.baselineFailed wording)⟩ (some e)
  | halted {c : FallbackContext} {f : Fault} : (∀ wording, f ≠ .baselineFailed wording) →
    Marked ⟨c, .error f⟩ none

theorem Aside.trans {ε : Type} {u v w : World ε} (h : Aside u v) (h' : Aside v w) : Aside u w :=
  ⟨h'.journal.trans h.journal, h'.fallbacks.trans h.fallbacks, h'.config.trans h.config⟩

section Recover

variable {ε : Type} [Clocked ε] {m : Manager ε} {c : FallbackContext} {o : FallbackOptions}
  {w w₁ : World ε}

theorem aside_of_run {α : Type} {x : Action (World ε) α} (h : x.Idle Aside) (w : World ε) :
    Aside w (x.run w).2 :=
  Action.same_of_run w (fun _ => ⟨rfl, rfl, rfl⟩) Aside.trans (fun _ _ => ⟨rfl, rfl, rfl⟩) h

theorem aside_checkState (m : Manager ε) (o : FallbackOptions) (c : FallbackContext)
    (w : World ε) : Aside w ((m.checkState o c).run w).2 := by
  refine aside_of_run ?_ w
  unfold Manager.checkState
  split_ifs
  · exact Turn.idle_askStore (fun _ _ _ => ⟨rfl, rfl, rfl⟩) c
  · exact Action.idle_result _

/-- It is not for the baseline that the stored state cannot be compared. -/
theorem ne_baselineFailed_of_askStore {f : Fault}
    (h : ((Manager.askStore c).run w).1 = .error f) (wording : String) :
    f ≠ .baselineFailed wording := by
  let now := (Clocked.clock w).now
  have hload : (Action.tryPart (Storage.Store.load now c.key) :
      Action (World ε) (Option Conversation.State)).run w = ((w.store.load now c.key).1,
        { w with store := (w.store.load now c.key).2 }) := rfl
  have hrun : (Manager.askStore c).run w = ((Action.tryPart (Storage.Store.load now c.key) :
      Action (World ε) (Option Conversation.State)).attempt.andThen _).run w := rfl
  rw [hrun, Action.run_attempt_andThen, hload] at h
  dsimp only at h
  cases hloaded : (w.store.load now c.key).1 with
  | ok stored =>
    rw [hloaded] at h
    cases hmatch : matchesStored c.before stored with
    | ok matching =>
      simp only [hmatch] at h
      cases matching <;> exact nomatch h
    | error e =>
      simp only [hmatch] at h
      obtain rfl : e = f := Except.error.inj h
      exact (unheard_of_matchesStored hmatch).ne_baselineFailed wording
  | error e =>
    rw [hloaded] at h
    rintro rfl
    have hown := Storage.ofStore_load hloaded
    dsimp only at h
    split at h
    · exact nomatch h
    · obtain rfl : e = .baselineFailed wording := Except.error.inj h
      exact Storage.not_ofStore_baselineFailed wording hown

theorem ne_baselineFailed_of_checkState {f : Fault}
    (h : ((m.checkState o c).run w).1 = .error f) (wording : String) :
    f ≠ .baselineFailed wording := by
  unfold Manager.checkState at h
  split_ifs at h
  · exact ne_baselineFailed_of_askStore h wording
  · exact nomatch h

theorem run_emit_eq (m : Manager ε) (e : FallbackEvent) (w : World ε) :
    (m.emit e).run w = (.ok (), m.heard w e) := by
  unfold Manager.emit Manager.heard
  cases m.hasMetrics <;> rfl

/-- A baseline that stops on another fault stops the recovery. -/
theorem run_recover_of_stop {answer : Bool × RecoveryAction} {w₂ : World ε} {f : Fault}
    (incident : Incident) (hcheck : (m.checkState o c).run w = (.ok answer, w₁))
    (hcopy : c.before.mapM Conversation.State.copy = .ok c.before)
    (hbase : (m.redo c).run w₁ = (.error f, w₂)) (hf : ∀ wording, f ≠ .baselineFailed wording) :
    (m.recover c incident o).run w = (.error f, w₂) := by
  have hrun : (m.recover c incident o).run w = ((m.checkState o c).andThen _).run w := rfl
  rw [hrun, Action.run_andThen_of_ok _ _ w (congrArg Prod.fst hcheck), hcheck]
  dsimp only
  rw [hcopy]
  show (Action.run (Action.andThen (m.redo c).attempt _) w₁) = _
  rw [Action.run_attempt_andThen, hbase]
  dsimp only
  split
  · rename_i wording
    exact absurd rfl (hf wording)
  · rfl

theorem aside_redo (m : Manager ε) (c : FallbackContext) (w : World ε) :
    Aside w ((m.redo c).run w).2 := by
  have hidle : (m.redo c).Idle Aside := Action.idle_through fun _ _ => ⟨rfl, rfl, rfl⟩
  exact aside_of_run hidle w

/-- An event is made up and noted before anything else. -/
theorem run_noted (m : Manager ε) (i : Incident) (start : Time.Seconds)
    (preserved leadOk succeeded : Bool) (actions : List RecoveryAction)
    (next : FallbackEvent → Action (World ε) Recovered) (w : World ε) :
    ∃ e : FallbackEvent, e.Tells c succeeded ∧
      ((Manager.event c i start preserved leadOk actions succeeded).andThen fun e =>
        (m.emit e).andThen fun _ => next e).run w = (next e).run (m.heard w e) := by
  obtain ⟨e, htells, hevent⟩ : ∃ e : FallbackEvent, e.Tells c succeeded ∧
      (Manager.event c i start preserved leadOk actions succeeded).run w = (.ok e, w) :=
    ⟨_, ⟨rfl, rfl, rfl, rfl⟩, rfl⟩
  have hemit := run_emit_eq m e w
  refine ⟨e, htells, ?_⟩
  rw [Action.run_andThen_of_ok _ _ w (congrArg Prod.fst hevent), hevent,
    Action.run_andThen_of_ok _ _ w (congrArg Prod.fst hemit), hemit]

/-- **A recovery makes up one event or none**, and the event is noted in journal and metrics. -/
theorem run_recover (m : Manager ε) (c : FallbackContext) (i : Incident) (o : FallbackOptions)
    (w : World ε) : ∃ mark w₁, Attempt.Marked ⟨c, ((m.recover c i o).run w).1⟩ mark ∧
      Aside w w₁ ∧ ((m.recover c i o).run w).2 = mark.elim w₁ (m.heard w₁) := by
  have hchecked := aside_checkState m o c w
  rcases hcheck : (m.checkState o c).run w with ⟨f | ⟨preserved, kept⟩, w₁⟩ <;>
    rw [hcheck] at hchecked
  · have hrun := recover_of_error i (congrArg Prod.fst hcheck)
    rw [hrun, hcheck]
    exact ⟨none, w₁, .halted (ne_baselineFailed_of_checkState (congrArg Prod.fst hcheck)),
      hchecked, rfl⟩
  cases hcopied : c.before.mapM Conversation.State.copy with
  | error f =>
    rw [run_recover_of_uncopied i hcheck hcopied]
    exact ⟨none, w₁, .halted (unheard_of_mapM_copy none hcopied).ne_baselineFailed,
      hchecked, rfl⟩
  | ok copied =>
    have hcopy := (Conversation.State.mapM_copy_eq_ok hcopied).2
    have haside := hchecked.trans (aside_redo m c w₁)
    obtain ⟨next, hrun, hreply, hrefusal⟩ := run_recover_of_checked i hcheck hcopy
    rcases hbase : (m.redo c).run w₁ with ⟨f | reply, w₂⟩ <;> rw [hbase] at haside
    · by_cases hf : ∃ wording, f = .baselineFailed wording
      · obtain ⟨wording, rfl⟩ := hf
        rw [hrun, Action.run_attempt_andThen, hbase, hrefusal]
        obtain ⟨e, htells, hnoted⟩ := run_noted m i (Clocked.clock w).reading preserved false false
          ([⟨.logIncident, .completed, ""⟩, kept] ++ [⟨.switchEngine, .failed, wording⟩])
          (fun _ => Action.fail (.baselineFailed wording)) w₂
        rw [hnoted]
        exact ⟨some e, w₂, .refused htells, haside, rfl⟩
      · have hstop := run_recover_of_stop i hcheck hcopy hbase fun wording heq => hf ⟨wording, heq⟩
        rw [hstop]
        exact ⟨none, w₂, .halted fun wording heq => hf ⟨wording, heq⟩, haside, rfl⟩
    · obtain ⟨staged, hstages⟩ := run_stagesKept m o reply w₂
      let leadOk := m.stagesKept o w₂.ledger reply
      let actions : List RecoveryAction := [⟨.logIncident, .completed, ""⟩, kept] ++
        [⟨.switchEngine, .completed, "baseline"⟩, staged]
      obtain ⟨e, htells, hnoted⟩ := run_noted m i (Clocked.clock w).reading preserved leadOk true
        actions (fun e => Action.result ⟨reply, preserved, leadOk, e, actions⟩) w₂
      rw [hrun, Action.run_attempt_andThen, hbase, hreply,
        Action.run_andThen_of_ok _ _ w₂ (congrArg Prod.fst hstages), hstages]
      dsimp only
      rw [hnoted]
      exact ⟨some e, w₂, .recovered htells, haside, rfl⟩

end Recover

/-! ### Sequences of recoveries -/

/-- Recoveries one after the other, and what they came to.  In between other things happen that leave
the journal and the recoveries in the metrics alone. -/
inductive Recoveries {ε : Type} [Clocked ε] (m : Manager ε) (start : World ε) :
    List Attempt → World ε → Prop
  | start : Recoveries m start [] start
  | aside {attempts : List Attempt} {w w' : World ε} : Recoveries m start attempts w →
    Aside w w' → Recoveries m start attempts w'
  | recovery {attempts : List Attempt} {w : World ε} (c : FallbackContext) (i : Incident)
    (o : FallbackOptions) : Recoveries m start attempts w →
    Recoveries m start (attempts ++ [⟨c, ((m.recover c i o).run w).1⟩])
      ((m.recover c i o).run w).2

section Sequences

variable {ε : Type} [Clocked ε] {m : Manager ε} {start w : World ε} {attempts : List Attempt}
  {size : Nat}

/-- The journal and the metrics are told the events of all recoveries, in their order. -/
theorem Recoveries.heard (h : Recoveries m start attempts w) (hjournal : start.journal = .new size)
    (hmetrics : start.metrics.fallbacks = []) :
    ∃ marks, List.Forall₂ Attempt.Marked attempts marks ∧
      Heard m size start.metrics.config marks.reduceOption w := by
  induction h with
  | start =>
    refine ⟨[], .nil, hjournal, rfl, fun tenant => ?_⟩
    unfold recoveriesOf
    rw [hmetrics]
    split_ifs <;> rfl
  | aside _ haside ih =>
    obtain ⟨marks, hmarks, hheard⟩ := ih
    exact ⟨marks, hmarks, hheard.aside haside⟩
  | @recovery attempts w c i o _ ih =>
    obtain ⟨marks, hmarks, hheard⟩ := ih
    obtain ⟨mark, w₁, hmark, haside, hw⟩ := run_recover m c i o w
    refine ⟨marks ++ [mark], List.rel_append hmarks (.cons hmark .nil), ?_⟩
    rw [hw, List.reduceOption_append]
    have hbefore := hheard.aside haside
    cases mark with
    | none =>
      rw [show [none].reduceOption = ([] : List FallbackEvent) from rfl, List.append_nil]
      exact hbefore
    | some e => exact hbefore.heard e

/-- **Listings after any sequence of recoveries.**  Each recovery makes up one event or none.  The
journal has the latest of these events, and the metrics have the latest that they recorded of each
tenant.  With a limit of one or more both show the latest of the events that they have. -/
theorem listings_of_recoveries (h : Recoveries m start attempts w)
    (hjournal : start.journal = .new size) (hmetrics : start.metrics.fallbacks = []) :
    ∃ marks, List.Forall₂ Attempt.Marked attempts marks ∧
      let events := marks.reduceOption
      w.journal.history = lastEntries size events ∧ Lists w.journal.latest w.journal.history ∧
      ∀ tenant, let told := ownEvents tenant (if m.hasMetrics then events else [])
        recoveriesOf w.metrics tenant <:+
            recorded (recoveryWindow start.metrics.config) [] told ∧
          (recorded (recoveryWindow start.metrics.config) [] told).Sublist told ∧
          Lists (w.metrics.fallbackEvents tenant)
            ((recoveriesOf w.metrics tenant).map Stamped.value) := by
  obtain ⟨marks, hmarks, hheard⟩ := h.heard hjournal hmetrics
  refine ⟨marks, hmarks, ?_, Outcomes.lists_listed _, fun tenant => ⟨?_, ?_, ?_⟩⟩
  · rw [hheard.journal]
    exact history_noted size _
  · rw [hheard.metrics tenant]
    exact Outcomes.keep_suffix _ _
  · exact Outcomes.recorded_sublist _ _ _
  · exact (Outcomes.lists_listed (recoveriesOf w.metrics tenant)).map Stamped.value

end Sequences

/-! ### Examples -/

section Examples

/-- A manager with metrics. -/
def measuring : Manager Time.Clock := ⟨Engine.baseline {}, .default, false, true, false⟩

/-- Noon on the first of May. -/
def mayWorld : World Time.Clock :=
  { freshWorld with surroundings := ⟨0, 0, .universal 63850161600000000⟩ }

/-- The world after the baseline has done a message. -/
def onceRecovered : World Time.Clock :=
  ((measuring.recover answering ⟨.moduleError, none, none⟩ {}).run mayWorld).2

/-- Two recoveries, one after the other. -/
theorem listings_of_recoveries_twice :
    let first := measuring.recover answering ⟨.moduleError, none, none⟩ {}
    let second := measuring.recover answering ⟨.moduleTimeout, none, none⟩ {}
    let attempts : List Attempt := [⟨answering, (first.run mayWorld).1⟩,
      ⟨answering, (second.run onceRecovered).1⟩]
    let w := (second.run onceRecovered).2
    Recoveries measuring mayWorld attempts w ∧ mayWorld.journal = .new 10 ∧
      mayWorld.metrics.fallbacks = [] ∧ (w.metrics.fallbackEvents "acme" 1).length = 1 ∧
      ∃ marks, List.Forall₂ Attempt.Marked attempts marks ∧
        w.journal.history = lastEntries 10 marks.reduceOption ∧
        Lists w.journal.latest w.journal.history ∧ Lists (w.metrics.fallbackEvents "acme")
          ((recoveriesOf w.metrics "acme").map Stamped.value) := by
  intro first second attempts w
  have hruns : Recoveries measuring mayWorld attempts w := .recovery _ _ _ (.recovery _ _ _ .start)
  have hjournal : mayWorld.journal = .new 10 := rfl
  obtain ⟨marks, hmarks, hhistory, hlists, htenants⟩ := listings_of_recoveries hruns hjournal rfl
  exact ⟨hruns, hjournal, rfl, by decide +kernel, marks, hmarks, hhistory, hlists, (htenants "acme").2.2⟩

/-- **A listing of no events shows all of them**, in the journal and in the metrics. -/
theorem listed_with_zero : (onceRecovered.journal.latest 0).length = 1 ∧
    (onceRecovered.metrics.fallbackEvents "acme" 0).length = 1 := by
  decide +kernel

end Examples

end Recovery

end Parley
