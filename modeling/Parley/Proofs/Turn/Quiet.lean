import Parley.Proofs.Action.Pact
import Parley.Proofs.Recovery.Replay
import Parley.Proofs.Storage.Swapping
import Parley.Proofs.Template.Served
import Parley.Turn.Processor

/-!
# Parley.Proofs.Turn.Quiet — the parts of a turn that change nothing of importance

A relation of worlds is `Minor` if it overlooks surroundings, metrics, journal, statistics and
routes.  To choose a path, to do a message by an engine, to recover and to note figures leads to a
world that is the same to any such relation, if loading does.  One of them is `Alike sound held`: the
same states are stored in both worlds, templates have the same graphs, and locks, ledger and scheduled
advances are the same.  All but to note figures is the same to a `Slight` one, too, which may know the
figures of messages.
-/

namespace Parley.Turn

open Conversation (State)
open Pact (Ending)
open Recovery (FallbackContext FallbackOptions Guard Guarded Incident Manager RetryPolicy)
open Routing (Decision Router)
open Storage (Store)
open Template (FlowGraph Registry)
open Time (Clocked Moment Seconds)

variable {ε : Type} {fair : State → Prop} {sound : Store → Prop} {held : Store → String → Option State}

/-- The relation overlooks all but store, templates, ledger, locks and scheduled advances. -/
class Minor (same : World ε → World ε → Prop) : Prop where
  of_parts : ∀ {w w' : World ε}, w'.store = w.store → w'.registry = w.registry →
    w'.ledger = w.ledger → w'.locks = w.locks → w'.advances = w.advances → same w w'

/-- The relation overlooks all but these and the outcomes of messages. -/
class Slight (same : World ε → World ε → Prop) : Prop where
  of_parts : ∀ {w w' : World ε}, w'.store = w.store → w'.registry = w.registry →
    w'.ledger = w.ledger → w'.locks = w.locks → w'.advances = w.advances →
    w'.metrics.outcomes = w.metrics.outcomes → w'.metrics.config = w.metrics.config → same w w'

instance (same : World ε → World ε → Prop) [Minor same] : Slight same :=
  ⟨fun hs hr hl hk ha _ _ => Minor.of_parts hs hr hl hk ha⟩

/-- The relation overlooks locks. -/
class Unlocked (same : World ε → World ε → Prop) : Prop where
  of_locks : ∀ (w : World ε) (locks : Session.Locks), same w { w with locks := locks }

/-- The relation is a minor one that overlooks locks, too. -/
class Lockless (same : World ε → World ε → Prop) : Prop extends Minor same, Unlocked same

/-- The worlds differ in nothing of importance. -/
structure Alike (sound : Store → Prop) (held : Store → String → Option State) (w w' : World ε) :
    Prop where
  store : sound w.store → sound w'.store ∧ held w'.store = held w.store
  registry : w'.registry.serves = w.registry.serves
  ledger : w'.ledger = w.ledger
  locks : w'.locks = w.locks
  advances : w'.advances = w.advances

namespace Alike

variable {u v w w' : World ε}

theorem of_parts (hs : w'.store = w.store) (hr : w'.registry = w.registry)
    (hl : w'.ledger = w.ledger) (hk : w'.locks = w.locks) (ha : w'.advances = w.advances) :
    Alike sound held w w' :=
  ⟨fun h => by rw [hs]; exact ⟨h, rfl⟩, by rw [hr], hl, hk, ha⟩

theorem refl (w : World ε) : Alike sound held w w := of_parts rfl rfl rfl rfl rfl

theorem trans (h : Alike sound held u v) (h' : Alike sound held v w) : Alike sound held u w := by
  refine ⟨fun hs => ?_, h'.registry.trans h.registry, h'.ledger.trans h.ledger,
    h'.locks.trans h.locks, h'.advances.trans h.advances⟩
  obtain ⟨hv, heq⟩ := h.store hs
  obtain ⟨hw, heq'⟩ := h'.store hv
  exact ⟨hw, heq'.trans heq⟩

theorem load (hstore : Storage.Holding fair sound held) (now : Moment) (key : Conversation.SessionKey)
    (w : World ε) : Alike sound held w { w with store := (w.store.load now key).2 } := by
  refine ⟨fun hs => ?_, rfl, rfl, rfl, rfl⟩
  obtain ⟨hsound, hheld, -⟩ := hstore.load now key hs
  exact ⟨hsound, hheld⟩

instance : Minor (ε := ε) (Alike sound held) := ⟨of_parts⟩

end Alike

/-! ### Metrics, statistics and time -/

section Idle

variable [Clocked ε] {same : World ε → World ε → Prop}

theorem idle_clock : (Action.clock : Action (World ε) Time.Clock).Idle same :=
  Action.idle_look fun _ => trivial

theorem idle_reading : (Action.reading : Action (World ε) Seconds).Idle same :=
  Action.idle_look fun _ => trivial

theorem idle_now : (Action.now : Action (World ε) Moment).Idle same :=
  Action.idle_look fun _ => trivial

theorem idle_wait (span : Seconds) : (Action.wait span : Action (World ε) Unit).Idle same := by
  refine Action.idle_look fun v => ?_
  split_ifs
  · exact Action.idle_giveWay.idleFrom v
  · exact Action.idle_pause.idleFrom v

variable [Slight same]

omit [Clocked ε] in
theorem idle_noteStats (f : Recovery.RetryStats → Recovery.RetryStats) :
    (Recovery.noteStats f : Action (World ε) Unit).Idle same :=
  Action.idle_update fun _ => Slight.of_parts rfl rfl rfl rfl rfl rfl rfl

theorem idle_backOff (attempt : Nat) :
    (Recovery.backOff attempt : Action (World ε) Unit).Idle same :=
  Action.idle_view.andThen fun _ => (Action.idle_ofExcept _).andThen fun _ =>
    (idle_noteStats _).andThen fun _ => idle_wait _

omit [Slight same] in
theorem idle_note [Minor same] (m : Inbound) (graph : FlowGraph) (decision : Decision)
    (guarded : Option Guarded) (start : Seconds) :
    (note m graph decision guarded start : Action (World ε) Unit).Idle same :=
  idle_clock.andThen fun _ => Action.idle_update fun _ => Minor.of_parts rfl rfl rfl rfl rfl

theorem idle_route (p : Processor ε) (m : Inbound) (graph : FlowGraph) :
    (route p m graph).Idle same := by
  refine idle_clock.andThen fun clock => ?_
  refine Action.Idle.andThen (Action.idle_onPart fun _ => Slight.of_parts rfl rfl rfl rfl rfl rfl rfl)
    fun found => ?_
  cases found with
  | some decision => exact Action.idle_result decision
  | none =>
    refine idle_now.andThen fun now => Action.idle_view.andThen fun metrics => ?_
    refine (Action.idle_ofExcept _).andThen fun performance => ?_
    refine (Action.idle_ofExcept _).andThen fun analysis => ?_
    refine (Action.idle_ofExcept _).andThen fun live => ?_
    exact Action.idle_onPart fun _ => Slight.of_parts rfl rfl rfl rfl rfl rfl rfl

/-! ### Engines and recovery -/

omit [Clocked ε] in
theorem idle_inside {α : Type} (x : Action ε α) :
    (x.inside : Action (World ε) α).Idle same :=
  Action.idle_through fun _ _ => Slight.of_parts rfl rfl rfl rfl rfl rfl rfl

section Recover

variable (hload : ∀ (now : Moment) (key : Conversation.SessionKey) (w : World ε),
  same w { w with store := (w.store.load now key).2 })
include hload

omit [Slight same] in
theorem idle_askStore (c : FallbackContext) :
    (Manager.askStore c : Action (World ε) _).Idle same := by
  refine idle_now.andThen fun now => Action.Idle.andThen ?_ fun stored => ?_
  · have hload : (Action.tryPart (Store.load now c.key) : Action (World ε) (Option State)).Idle
        same :=
      (Action.idle_onPart fun w => hload now c.key w).andThen fun _ =>
        Action.idle_ofExcept _
    exact hload.attempt
  · cases stored with
    | ok stored =>
      refine (Action.idle_ofExcept _).andThen fun matching => ?_
      split_ifs
      · exact Action.idle_result _
      · exact Action.idle_result _
    | error f =>
      dsimp only
      split
      · exact Action.idle_result _
      · exact Action.idle_fail _

theorem idle_recover (manager : Manager ε) (c : FallbackContext) (i : Incident)
    (o : FallbackOptions) : (manager.recover c i o).Idle same := by
  have hevent {preserved leadOk : Bool} {actions : List Recovery.RecoveryAction}
      {succeeded : Bool} {start : Seconds} :
      (Manager.event c i start preserved leadOk actions succeeded : Action (World ε) _).Idle
        same := idle_clock.andThen fun _ => Action.idle_result _
  have hemit (e : Recovery.FallbackEvent) : (manager.emit e).Idle same := by
    have hnoted : (Action.update fun j : Recovery.Journal => j.note e : Action (World ε) Unit).Idle
        same := Action.idle_update fun _ => Slight.of_parts rfl rfl rfl rfl rfl rfl rfl
    refine hnoted.andThen fun _ => ?_
    split_ifs
    · exact Action.idle_update fun _ => Slight.of_parts rfl rfl rfl rfl rfl rfl rfl
    · exact Action.idle_result _
  refine idle_reading.andThen fun start => Action.Idle.andThen ?_ fun ⟨preserved, kept⟩ => ?_
  · unfold Manager.checkState
    split_ifs
    · exact idle_askStore hload c
    · exact Action.idle_result _
  refine (Action.idle_ofExcept _).andThen fun before => ?_
  refine (idle_inside _).attempt.andThen fun outcome => ?_
  cases outcome with
  | ok reply =>
    refine Action.Idle.andThen ?_ fun ⟨leadOk, staged⟩ => ?_
    · unfold Manager.checkStages
      split_ifs
      · exact Action.idle_view.andThen fun _ => Action.idle_result _
      · exact Action.idle_result _
    · exact hevent.andThen fun e => (hemit e).andThen fun _ => Action.idle_result _
  | error f =>
    dsimp only
    split
    · exact hevent.andThen fun e => (hemit e).andThen fun _ => Action.idle_fail _
    · exact Action.idle_fail _

theorem idle_run (g : Guard ε) (c : FallbackContext) (modules : List Capability)
    (o : FallbackOptions) : (g.run c modules o).Idle same := by
  have hfall (c : FallbackContext) (i : Incident) : (g.fallBack c o i).Idle same :=
    (idle_recover hload g.manager c i o).andThen fun _ => Action.idle_result _
  have hhand (copied : Option State) : (Recovery.Objects.hand Recovery.Objects.copy
      (g.primary ({ c with before := copied }.message modules))).Idle
      fun v w : World ε × Recovery.Objects => same v.1 w.1 :=
    Action.idle_through fun _ _ => Slight.of_parts rfl rfl rfl rfl rfl rfl rfl
  have hkeeping : (g.runKeeping c modules o).Idle same := by
    refine (Action.idle_ofExcept _).andThen fun copied => ?_
    refine (((hhand copied).within _).withOwn _).andThen fun ⟨outcome, objects⟩ => ?_
    refine Action.Idle.andThen ?_ fun _ => Action.idle_result _
    cases outcome with
    | late elapsed => exact hfall _ _
    | failed f => exact hfall _ _
    | done reply =>
      unfold Guard.conclude
      dsimp only
      split_ifs
      · exact hfall _ _
      · exact Action.idle_result _
  exact hkeeping.andThen fun _ => Action.idle_result _

theorem idle_execute (p : Processor ε) (m : Inbound) (graph : FlowGraph) (state : Option State)
    (decision : Decision) : (execute p m graph state decision).Idle same := by
  unfold execute
  cases decision.path with
  | enhanced => exact idle_run hload _ _ _ _
  | baseline => exact (idle_inside _).andThen fun _ => Action.idle_result _

omit [Clocked ε] [Slight same] hload in
theorem idle_reconcile (graph : FlowGraph) (key : Conversation.SessionKey) (now : Moment)
    (loaded : Option State) :
    (loaded.mapM fun s => liftM (reconcile graph key now s) : Action (World ε) (Option State)).Idle
      same := by
  cases loaded with
  | none => exact Action.idle_result none
  | some s => exact (Action.idle_ofExcept _).andThen fun _ => Action.idle_result _

omit [Slight same] in
/-- Between loading and storing, a turn changes nothing of importance. -/
theorem idle_work [Minor same] (p : Processor ε) (m : Inbound) (graph : FlowGraph) (start : Seconds)
    (loaded : Option State) : (work p m graph start loaded).Idle same := by
  refine idle_now.andThen fun now => (idle_reconcile graph m.key now loaded).andThen fun state => ?_
  refine (idle_route p m graph).andThen fun decision => ?_
  refine (idle_execute hload p m graph state decision).attempt.andThen fun outcome => ?_
  cases outcome with
  | ok guarded => exact Action.idle_result _
  | error f =>
    dsimp only
    split
    · exact (idle_note m graph decision none start).andThen fun _ => Action.idle_fail _
    · exact Action.idle_fail _

end Recover

end Idle

/-! ### Trying again -/

section Retry

variable [Clocked ε] {α γ : Type} {same : World ε → World ε → Prop} [Slight same]
  {P : Pact (World ε) γ} {x : Action (World ε) α} {I : γ → Prop} {K : γ → α → Prop}

theorem leads_tryAgain (hidle : P.Ignores same) (hx : P.Leads I x (Ending I K))
    (operation : String) (left attempt : Nat) :
    P.Leads I (Recovery.tryAgain operation x left attempt) (Ending I K) := by
  have hgiveUp (last : Option Fault) : P.Leads I (Recovery.giveUp operation last)
      (Ending I K) := by
    refine Pact.leads_idle_andThen hidle (idle_noteStats _) (fun _ _ => ?_) fun _ _ h => h
    refine Pact.leads_idle_andThen hidle Action.idle_view (fun _ _ => ?_) fun _ _ h => h
    exact Pact.leads_finished fun _ h => h
  induction left generalizing attempt with
  | zero => exact hgiveUp none
  | succ left ih =>
    refine Pact.leads_idle_andThen hidle (idle_noteStats _) (fun _ _ => ?_) fun _ _ h => h
    refine hx.attempt.andThen (fun outcome => ?_) fun _ _ h => ?_
    · cases outcome with
      | ok a =>
        refine Pact.Leads.weaken (I := fun n => K n a) ?_ fun n ⟨o, hn, ho⟩ => ?_
        · refine (Pact.leads_of_idle hidle (idle_noteStats _)).andThen (fun _ => ?_) ?_
          · exact Pact.leads_finished fun _ h => h.1
          · rintro n e ⟨-, hfail⟩
            exact nomatch Action.mayEnd_update hfail
        · rw [← Except.ok.inj ho] at hn
          exact hn
      | error f =>
        refine Pact.Leads.weaken (I := I) ?_ fun n ⟨o, hn, ho⟩ => ?_
        · dsimp only
          split_ifs
          · refine Pact.leads_idle_andThen hidle (idle_noteStats _) (fun _ _ => ?_) fun _ _ h => h
            exact hgiveUp _
          · refine Pact.leads_idle_andThen hidle (idle_noteStats _) (fun _ _ => ?_) fun _ _ h => h
            refine Pact.leads_idle_andThen hidle (idle_backOff _) (fun _ _ => ?_) fun _ _ h => h
            exact ih (attempt + 1)
          · exact Pact.leads_finished fun _ h => h
        · rw [← Except.ok.inj ho] at hn
          exact hn
    · obtain ⟨o, -, ho⟩ := h
      exact nomatch ho

/-- What is tried again keeps its pact, if each try does. -/
theorem leads_withRetry (hidle : P.Ignores same) (hx : P.Leads I x (Ending I K))
    (operation : String) : P.Leads I (Recovery.withRetry operation x) (Ending I K) :=
  Pact.leads_idle_andThen hidle Action.idle_view
    (fun _ _ => leads_tryAgain hidle hx operation _ 0) fun _ _ h => h

end Retry

end Parley.Turn
