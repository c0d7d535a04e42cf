import Parley.Proofs.Outcomes.Clocks
import Parley.Proofs.Recovery.Retries
import Parley.Proofs.Storage.Faces
import Parley.Proofs.Turn.Failures
import Parley.Proofs.Turn.Faults

/-!
# Parley.Proofs.Turn.Figures — one record for each message that counts

A message records its figures when it has its reply, or when the baseline engine fails; failures before
that record nothing, and so does an attempt that is given up since somebody else changed the session.
One failure comes after it: the lead of the reply cannot be found.  `Booking` lists what a step of an
errand may do to the figures, with a `Tally` of what the errand recorded.  `leads_process_accounting`:
a message has recorded its figures once when it returns, and when it fails it has done so just if the
baseline engine failed, or else the lead cannot be found.  `accounted_of_run`: after any run of errands,
the events of a tenant are as many as its messages that returned or failed with the baseline engine, and
those that were lost in this way; and a comparison of the paths divides them up.
-/

namespace Parley

/-- The baseline engine failed. -/
def Fault.ofBaseline : Fault → Bool
  | baselineFailed _ => true
  | _ => false

theorem Fault.ofBaseline_of_family {f : Fault} (h : f.family ≠ .service) : f.ofBaseline = false := by
  cases f with
  | baselineFailed wording => exact absurd rfl h
  | _ => rfl

theorem Fault.ofBaseline_of_isLimit {f : Fault} (h : f.isLimit = true) : f.ofBaseline = false :=
  f.ofBaseline_of_family fun hfamily => by
    rcases Fault.family_of_isLimit h with h | h <;> exact nomatch hfamily.symm.trans h

theorem Fault.ofBaseline_of_ne {f : Fault} (h : ∀ wording, f ≠ .baselineFailed wording) :
    f.ofBaseline = false := by
  cases f with
  | baselineFailed wording => exact absurd rfl (h wording)
  | _ => rfl

namespace Turn

open Parley.Action (Sure)
open Conversation (State)
open Outcomes (Collector CollectorConfig Filter Stamped)
open Pact (Ending)
open Recovery (Guarded)
open Routing (Decision Router)
open Stages (findLead)
open Storage (Store)
open Template (FlowGraph Registry)
open Time (Clocked Moment Seconds)

/-! ### Failures of others -/

section Spares

variable {σ α β : Type}

/-- Whatever the action fails with, it is no failure of the baseline engine. -/
def Spares (x : Action σ α) : Prop := ∀ f, x.MayEnd (.error f) → f.ofBaseline = false

variable {x : Action σ α}

theorem spares_of_sure (h : Sure x) : Spares x := fun f hf => absurd hf (h f)

theorem spares_fail {f : Fault} (h : f.ofBaseline = false) : Spares (Action.fail f : Action σ α) := by
  intro e he
  rw [Except.error.inj (Action.mayEnd_fail.mp he)]
  exact h

theorem spares_ofExcept {o : Except Fault α} (h : ∀ f, o = .error f → f.ofBaseline = false) :
    Spares (Action.ofExcept o : Action σ α) :=
  fun f hf => h f (Action.mayEnd_ofExcept.mp hf).symm

theorem Spares.andThen {f : α → Action σ β} (h : Spares x)
    (hf : ∀ a, x.MayEnd (.ok a) → Spares (f a)) : Spares (x.andThen f) := by
  intro e he
  rcases Action.mayEnd_andThen.mp he with ⟨a, ha, he⟩ | ⟨e', hx, he⟩
  · exact hf a ha e he
  · rw [Except.error.inj he]
    exact h e' hx

theorem sure_attempt (x : Action σ α) : Sure x.attempt := by
  intro e he
  obtain ⟨o, -, ho⟩ := Action.mayEnd_attempt.mp he
  exact nomatch ho

theorem sure_andThen_result (h : Sure x) (f : α → β) : Sure (x.andThen fun a => Action.result (f a)) :=
  h.andThen fun _ => Action.sure_result _

section Retry

variable [Clocked σ] [Holds σ Recovery.RetryPolicy]

omit [Clocked σ] in
theorem sure_noteStats (f : Recovery.RetryStats → Recovery.RetryStats) :
    Sure (Recovery.noteStats f : Action σ Unit) := Action.sure_ofState _

omit [Holds σ Recovery.RetryPolicy] in
theorem sure_wait (span : Seconds) : Sure (Action.wait span : Action σ Unit) := by
  intro e he
  obtain ⟨w, he⟩ := Action.mayEnd_look.mp he
  split_ifs at he
  · exact Action.sure_pause _ _ e he
  · exact Action.sure_pause _ _ e he

theorem spares_backOff (attempt : Nat) : Spares (Recovery.backOff attempt : Action σ Unit) := by
  refine (spares_of_sure (Action.sure_look _)).andThen fun policy _ => ?_
  refine Spares.andThen (spares_ofExcept fun f hf => ?_) fun delay _ => ?_
  · exact Fault.ofBaseline_of_family (Recovery.family_of_retryDelay hf)
  · exact spares_of_sure ((sure_noteStats _).andThen fun _ => sure_wait _)

theorem spares_tryAgain (hx : Spares x) (operation : String) (left attempt : Nat) :
    Spares (Recovery.tryAgain operation x left attempt) := by
  have hgiveUp (last : Option Fault) : Spares (Recovery.giveUp operation last : Action σ α) :=
    (spares_of_sure (sure_noteStats _)).andThen fun _ _ =>
      (spares_of_sure (Action.sure_look _)).andThen fun _ _ => spares_fail rfl
  induction left generalizing attempt with
  | zero => exact hgiveUp none
  | succ left ih =>
    refine (spares_of_sure (sure_noteStats _)).andThen fun _ _ => ?_
    refine (spares_of_sure (sure_attempt x)).andThen fun outcome houtcome => ?_
    obtain ⟨o, hended, ho⟩ := Action.mayEnd_attempt.mp houtcome
    obtain rfl := Except.ok.inj ho
    cases outcome with
    | ok a => exact spares_of_sure (sure_andThen_result (sure_noteStats _) _)
    | error f =>
      dsimp only
      split_ifs
      · exact (spares_of_sure (sure_noteStats _)).andThen fun _ _ => hgiveUp _
      · exact (spares_of_sure (sure_noteStats _)).andThen fun _ _ =>
          (spares_backOff attempt).andThen fun _ _ => ih (attempt + 1)
      · exact spares_fail (hx f hended)

/-- What is tried again fails as it did before, or as the retries do. -/
theorem spares_withRetry (hx : Spares x) (operation : String) :
    Spares (Recovery.withRetry operation x) :=
  (spares_of_sure (Action.sure_look _)).andThen fun _ _ => spares_tryAgain hx operation _ 0

end Retry

end Spares

variable {ε : Type} [Clocked ε] {p : Processor ε} {m : Inbound} {graph : FlowGraph} {α : Type}

section Parts

theorem ofBaseline_of_ofStore {f : Fault} (h : Storage.OfStore f) : f.ofBaseline = false :=
  Fault.ofBaseline_of_ne fun wording hf =>
    Storage.not_ofStore_baselineFailed wording (hf ▸ h)

omit [Clocked ε] in
/-- A call of the store that fails with faults of the store. -/
theorem spares_call {f : Store → Except Fault α × Store}
    (h : ∀ s e, (f s).1 = .error e → Storage.OfStore e) :
    Spares (Action.tryPart f : Action (World ε) α) := by
  intro e he
  rcases Action.mayEnd_andThen.mp he with ⟨o, ho, he⟩ | ⟨e', hpart, -⟩
  · obtain ⟨w, ho⟩ := Action.mayEnd_look.mp ho
    have houtcome := Except.ok.inj (Action.mayEnd_result.mp (Action.mayEnd_put.mp ho))
    rw [Action.mayEnd_ofExcept] at he
    exact ofBaseline_of_ofStore (h _ e (houtcome.symm.trans he.symm))
  · exact absurd hpart (Action.sure_ofState _ e')

theorem ofBaseline_of_fetch {r : Registry} {templateId : String} {f : Fault}
    (h : r.fetch templateId = .error f) : f.ofBaseline = false := by
  unfold Registry.fetch at h
  split at h
  · exact Except.error.inj h ▸ rfl
  · exact Except.error.inj h ▸ rfl
  · rcases exceptBind_eq_error.mp h with h | ⟨version, -, h⟩
    · rcases exceptBind_eq_error.mp h with h | ⟨_, -, h⟩
      · exact Fault.ofBaseline_of_family (Template.family_of_documentFields h)
      · exact nomatch h
    · split at h
      · exact nomatch h
      · rcases exceptBind_eq_error.mp h with h | ⟨_, -, h⟩
        · rcases Template.refusal_or_family_of_error h with ⟨_, _, _, rfl, -⟩ | hfamily
          · rfl
          · exact Fault.ofBaseline_of_family hfamily
        · exact nomatch h

omit [Clocked ε] in
theorem spares_graphOf (templateId : String) :
    Spares (graphOf templateId : Action (World ε) FlowGraph) := by
  refine (spares_of_sure (Action.sure_look _)).andThen fun registry _ => ?_
  refine Spares.andThen (spares_ofExcept fun f hf => ofBaseline_of_fetch hf) fun found _ => ?_
  exact spares_of_sure (sure_andThen_result (Action.sure_ofState _) _)

omit [Clocked ε] in
theorem spares_reconcile (key : Conversation.SessionKey) (now : Moment) (loaded : Option State) :
    Spares (loaded.mapM fun s => liftM (reconcile graph key now s) :
      Action (World ε) (Option State)) := by
  cases loaded with
  | none => exact spares_of_sure (Action.sure_result _)
  | some s =>
    refine Spares.andThen (spares_ofExcept fun f hf => ?_) fun _ _ =>
      spares_of_sure (Action.sure_result _)
    have hplace : ∃ kind, f = .unhashable kind := by
      unfold reconcile at hf
      split_ifs at hf with hflow
      · rcases exceptBind_eq_error.mp hf with hf | ⟨_, -, hf⟩
        · cases hplace : s.currentNodeId with
          | list items | object fields =>
            rw [hplace] at hf
            exact ⟨_, (Except.error.inj hf).symm⟩
          | null | bool _ | int _ | real _ | text _ =>
            rw [hplace] at hf
            exact nomatch hf
        · exact nomatch hf
      · exact nomatch hf
    obtain ⟨kind, rfl⟩ := hplace
    rfl

theorem spares_route : Spares (route p m graph) := by
  have hstray {β : Type} {o : Except Fault β} (h : ∀ f, o = .error f → Stray f) :
      Spares (Action.ofExcept o : Action (World ε) β) :=
    spares_ofExcept fun f hf => Fault.ofBaseline_of_family (h f hf).family
  refine (spares_of_sure (Action.sure_look _)).andThen fun clock _ => ?_
  refine (spares_of_sure (Action.sure_ofState _)).andThen fun found _ => ?_
  cases found with
  | some decision => exact spares_of_sure (Action.sure_result _)
  | none =>
    refine (spares_of_sure (Action.sure_look _)).andThen fun now _ => ?_
    refine (spares_of_sure (Action.sure_look _)).andThen fun metrics _ => ?_
    refine Spares.andThen (hstray fun f => stray_of_performance) fun performance _ => ?_
    refine Spares.andThen (spares_ofExcept fun f hf => ?_) fun analysis _ => ?_
    · refine Fault.ofBaseline_of_family ?_
      rw [family_of_analyze hf]
      exact fun hfamily => nomatch hfamily
    refine Spares.andThen (hstray fun f => stray_of_live) fun live _ => ?_
    exact spares_of_sure (Action.sure_ofState _)

end Parts

/-! ### Steps -/

/-- What an errand has noted: its latest reading of the clock, and the figures that it recorded. -/
structure Tally where
  read : Option Moment
  entry : Option (Stamped Outcomes.Outcome)

def Tally.fresh : Tally := ⟨none, none⟩

/-- The same figures of messages are kept. -/
structure SameFigures (w w' : World ε) : Prop where
  outcomes : w'.metrics.outcomes = w.metrics.outcomes
  config : w'.metrics.config = w.metrics.config

namespace SameFigures

omit [Clocked ε] in
theorem refl (w : World ε) : SameFigures w w := ⟨rfl, rfl⟩

omit [Clocked ε] in
theorem trans {u v w : World ε} (h : SameFigures u v) (h' : SameFigures v w) : SameFigures u w :=
  ⟨h'.outcomes.trans h.outcomes, h'.config.trans h.config⟩

omit [Clocked ε] in
theorem kept {w w' : World ε} (h : SameFigures w w') (tenant : String) :
    w'.metrics.kept tenant = w.metrics.kept tenant := by
  unfold Collector.kept
  rw [h.outcomes]

instance : Slight (ε := ε) SameFigures := ⟨fun _ _ _ _ _ ho hc => ⟨ho, hc⟩⟩

instance : Unlocked (ε := ε) SameFigures := ⟨fun _ _ => ⟨rfl, rfl⟩⟩

end SameFigures

/-- What an errand may do about the figures.  Only a message records some, those of its tenant, once,
at the moment of its latest reading; and a fallback only if it was routed to the enhanced engine. -/
inductive Booking : Errand → Tally → World ε → Tally → World ε → Prop
  | idle {e : Errand} {n : Tally} {w w' : World ε} : SameFigures w w' → Booking e n w n w'
  | read {e : Errand} {n : Tally} {w : World ε} :
    Booking e n w { n with read := some (Clocked.clock w).now } w
  | enter {m : Inbound} {n : Tally} {w : World ε} {o : Outcomes.Outcome} {moment : Moment} :
    n.read = some moment → n.entry = none → o.tenantId = m.tenantId →
    (o.fallback = true → o.routed = .enhanced) →
    Booking (.request (.message m)) n w { n with entry := some ⟨moment, o⟩ }
      { w with metrics := w.metrics.recordOutcome o (some moment) }

/-- An errand relies on nothing. -/
def accounting (e : Errand) : Pact (World ε) Tally := ⟨fun _ _ => True, Booking e⟩

theorem ignores_accounting (e : Errand) : (accounting (ε := ε) e).Ignores SameFigures :=
  ⟨SameFigures.refl, SameFigures.trans, fun _ h => .idle h⟩

/-- Figures of the tenant were recorded. -/
def Tally.enteredFor (tenant : String) (n : Tally) : Bool :=
  n.entry.any fun x => x.value.tenantId = tenant

/-- Nothing was recorded so far. -/
def Tally.IsBlank (n : Tally) : Prop := n.entry.isSome = false

/-- What has a result has recorded figures, or has not; what fails has done so just if the baseline
engine failed. -/
def Ends (recorded : Bool) (n : Tally) : Except Fault α → Prop
  | .ok _ => n.entry.isSome = recorded
  | .error f => n.entry.isSome = f.ofBaseline

section Message

variable {e : Errand} {x : Action (World ε) α} {recorded : Bool}

/-- What changes no figures, and then something else. -/
theorem leads_spared_andThen {β : Type} {f : α → Action (World ε) β} (hi : x.Idle SameFigures)
    (hs : Spares x)
    (hf : ∀ a, x.MayEnd (.ok a) → (accounting e).Leads Tally.IsBlank (f a) (Ends recorded)) :
    (accounting e).Leads Tally.IsBlank (x.andThen f) (Ends recorded) :=
  Pact.leads_idle_bind (ignores_accounting e) hi hf fun _ f hn hfail => hn.trans (hs f hfail).symm

theorem leads_retried (hi : x.Idle SameFigures) (hs : Spares x) (operation : String) :
    (accounting e).Leads Tally.IsBlank (Recovery.withRetry operation x) (Ends false) := by
  have hx : (accounting e).Leads Tally.IsBlank x
      (Ending Tally.IsBlank fun n _ => n.IsBlank) := by
    refine (Pact.leads_of_idle (ignores_accounting e) hi).mono fun n o hn => ?_
    cases o <;> exact hn.1
  refine (leads_withRetry (ignores_accounting e) hx operation).mayEnd.mono fun n o hn => ?_
  cases o with
  | ok a => exact hn.1
  | error f => exact hn.1.trans (spares_withRetry hs operation f hn.2).symm

/-- Figures are recorded without fail. -/
theorem leads_note {decision : Decision} {guarded : Option Guarded} {start : Seconds}
    (hrouted : ∀ g, guarded = some g → g.recovered.isSome = true → decision.path = .enhanced) :
    (accounting (.request (.message m))).Leads Tally.IsBlank
      (note m graph decision guarded start : Action (World ε) Unit)
      (Ending (fun _ => False) fun n _ => n.entry.isSome = true) := by
  have hclock : (accounting (.request (.message m))).Leads Tally.IsBlank
      (Action.clock : Action (World ε) Time.Clock)
      (Ending (fun _ => False) fun n clock => n.IsBlank ∧ n.read = some clock.now) :=
    Pact.leads_look fun n w hn _ => ⟨_, .read, hn, rfl⟩
  refine hclock.bind (fun clock => Pact.leads_ofState fun n w hn _ => ?_) fun _ h => h
  refine ⟨_, .enter hn.2 (Option.not_isSome_iff_eq_none.mp (Bool.eq_false_iff.mp hn.1)) rfl
    fun hfallback => ?_, rfl⟩
  cases guarded with
  | none => exact nomatch hfallback
  | some g => exact hrouted g rfl hfallback

/-- Only what was routed to the enhanced engine is recovered. -/
def Settled.Routed (s : Settled) : Prop :=
  s.guarded.recovered.isSome = true → s.decision.path = .enhanced

/-- What a message settled on: a recovery only of the enhanced engine, and a reply to it. -/
structure Settled.Sound (p : Processor ε) (m : Inbound) (s : Settled) : Prop where
  routed : s.Routed
  replies : ∃ state, RepliesWith p m state ∧ findLead state = findLead s.guarded.reply.state

theorem routed_of_work {start : Seconds} {base state : Option State} {settled : Settled}
    (h : (work p m graph start base).MayEnd (.ok (state, settled))) : settled.Routed := by
  obtain ⟨now, -, h⟩ := Action.mayEnd_andThen_ok.mp h
  obtain ⟨state', hstate, h⟩ := Action.mayEnd_andThen_ok.mp h
  obtain ⟨decision, -, h⟩ := Action.mayEnd_andThen_ok.mp h
  obtain ⟨outcome, hout, h⟩ := Action.mayEnd_andThen_ok.mp h
  obtain ⟨o, hexecute, ho⟩ := Action.mayEnd_attempt.mp hout
  rw [Except.ok.inj ho] at h
  cases o with
  | error f =>
    dsimp only at h
    split at h
    · obtain ⟨-, -, h⟩ := Action.mayEnd_andThen_ok.mp h
      exact nomatch Action.mayEnd_fail.mp h
    · exact nomatch Action.mayEnd_fail.mp h
  | ok guarded =>
    obtain ⟨rfl, rfl⟩ := Prod.mk.inj (Except.ok.inj (Action.mayEnd_result.mp h))
    intro hrecovered
    unfold execute at hexecute
    cases hpath : decision.path with
    | enhanced => rfl
    | baseline =>
      rw [hpath] at hexecute
      obtain ⟨reply, -, hended⟩ := Action.mayEnd_andThen_ok.mp hexecute
      rw [Except.ok.inj (Action.mayEnd_result.mp hended)] at hrecovered
      exact nomatch hrecovered

theorem sound_of_tryRepeatedly {start : Seconds} {left attempt : Nat} {settled : Settled}
    (h : (tryRepeatedly p m graph start left attempt).MayEnd (.ok settled)) : settled.Sound p m := by
  have htried {attempt : Nat} {settled : Settled}
      (h : (tryOnce p m graph start attempt).MayEnd (.ok (some settled))) : settled.Sound p m := by
    obtain ⟨base, -, h⟩ := Action.mayEnd_andThen_ok.mp h
    obtain ⟨⟨state, worked⟩, hwork, h⟩ := Action.mayEnd_andThen_ok.mp h
    have hrouted : worked.Routed := routed_of_work hwork
    have hreplies : RepliesWith p m worked.guarded.reply.state :=
      ⟨graph, base, state, worked.guarded, answered_of_work hwork, rfl⟩
    dsimp only at h
    split_ifs at h
    · rw [Option.some.inj (Except.ok.inj (Action.mayEnd_result.mp h))]
      exact ⟨hrouted, _, hreplies, rfl⟩
    · obtain ⟨saved, -, h⟩ := Action.mayEnd_andThen_ok.mp h
      split_ifs at h
      · rw [Option.some.inj (Except.ok.inj (Action.mayEnd_result.mp h))]
        exact ⟨hrouted, _, hreplies, (findLead_adopt saved _).symm⟩
      · exact nomatch Except.ok.inj (Action.mayEnd_result.mp h)
  induction left generalizing attempt with
  | zero => exact nomatch Action.mayEnd_fail.mp h
  | succ left ih =>
    obtain ⟨settled?, honce, h⟩ := Action.mayEnd_andThen_ok.mp h
    cases settled? with
    | none => exact ih h
    | some found =>
      rw [Except.ok.inj (Action.mayEnd_result.mp h)]
      exact htried honce

omit [Clocked ε] in
/-- A call of the store. -/
theorem SameFigures.idle_call (f : Store → Except Fault α × Store) :
    (Action.tryPart f : Action (World ε) α).Idle SameFigures :=
  (Action.idle_onPart fun _ => ⟨rfl, rfl⟩).andThen fun _ => Action.idle_ofExcept _

theorem leads_work (start : Seconds) (loaded : Option State) :
    (accounting (.request (.message m))).Leads Tally.IsBlank (work p m graph start loaded)
      (Ends false) := by
  refine leads_spared_andThen idle_now (spares_of_sure (Action.sure_look _)) fun now _ => ?_
  refine leads_spared_andThen (idle_reconcile graph m.key now loaded) (spares_reconcile m.key now loaded)
    fun state _ => ?_
  refine leads_spared_andThen (idle_route p m graph) spares_route fun decision _ => ?_
  refine leads_spared_andThen (idle_execute (fun _ _ _ => ⟨rfl, rfl⟩) p m graph state decision).attempt
    (spares_of_sure (sure_attempt _)) fun outcome _ => ?_
  cases outcome with
  | ok guarded => exact Pact.leads_finished fun _ hn => hn
  | error f =>
    dsimp only
    split
    · refine (leads_note fun _ hg => nomatch (hg : none = some _)).andThen
        (fun _ => Pact.leads_finished fun _ hn => hn) fun _ _ hn => hn.elim
    · rename_i hother
      refine Pact.leads_finished fun n hn => hn.trans (Fault.ofBaseline_of_ne fun wording hf => ?_).symm
      exact hother wording hf

theorem leads_load_accounting (attempt : Nat) :
    (accounting (.request (.message m))).Leads Tally.IsBlank
      (load m attempt : Action (World ε) (Option State)) (Ends false) := by
  unfold load
  split
  · refine leads_spared_andThen (Action.idle_ofExcept _) (spares_ofExcept fun f hf => ?_)
      fun copied _ => Pact.leads_finished fun _ hn => hn
    exact Fault.ofBaseline_of_isLimit (State.isLimit_of_copy hf)
  · refine leads_retried (idle_now.andThen fun now => SameFigures.idle_call _) ?_ _
    exact (spares_of_sure (Action.sure_look _)).andThen fun now _ =>
      spares_call fun _ _ => Storage.ofStore_load

/-- An attempt records nothing, unless the baseline engine fails. -/
theorem leads_tryOnce_accounting (start : Seconds) (attempt : Nat) :
    (accounting (.request (.message m))).Leads Tally.IsBlank (tryOnce p m graph start attempt)
      (Ends false) := by
  refine (leads_load_accounting attempt).andThen (fun loaded => ?_) fun _ _ hn => hn
  refine (leads_work start loaded).andThen (fun ⟨state, settled⟩ => ?_) fun _ _ hn => hn
  dsimp only
  split_ifs
  · exact Pact.leads_finished fun _ hn => hn
  · have hsave : (accounting (.request (.message m))).Leads Tally.IsBlank
        (save state settled.guarded.reply : Action (World ε) Storage.Saved) (Ends false) :=
      leads_retried (SameFigures.idle_call _) (spares_call fun _ _ => Storage.ofStore_save) _
    refine hsave.andThen (fun saved => ?_) fun _ _ hn => hn
    split_ifs <;> exact Pact.leads_finished fun _ hn => hn

/-- However often a message is tried, it records nothing, unless the baseline engine fails. -/
theorem leads_tryRepeatedly_accounting (start : Seconds) (left attempt : Nat) :
    (accounting (.request (.message m))).Leads Tally.IsBlank
      (tryRepeatedly p m graph start left attempt) (Ends false) := by
  induction left generalizing attempt with
  | zero => exact Pact.leads_finished fun _ hn => hn
  | succ left ih =>
    refine (leads_tryOnce_accounting start attempt).andThen (fun settled? => ?_) fun _ _ hn => hn
    cases settled? with
    | some settled => exact Pact.leads_finished fun _ hn => hn
    | none => exact ih (attempt + 1)

/-- What is done under a lock ends as it does without one, or finds the lock busy. -/
theorem leads_underLock {L : Tally → Except Fault α → Prop} (name : String) (span : Option Number)
    (hx : (accounting e).Leads Tally.IsBlank x L)
    (hbusy : ∀ n, n.IsBlank → L n (.error (Session.busy name))) :
    (accounting e).Leads Tally.IsBlank (Session.whileHolding name span x) L := by
  have hidle := ignores_accounting (ε := ε) e
  have henter : (Action.onPart fun s : Session.Locks => s.enter name :
      Action (World ε) Session.Ticket).Idle SameFigures := Action.idle_onPart fun _ => ⟨rfl, rfl⟩
  refine Pact.leads_idle_bind hidle henter (fun t _ => ?_) fun n f _ hfail =>
    absurd hfail (Action.sure_ofState _ f)
  have hbody : (accounting e).Leads Tally.IsBlank
      ((Session.acquire t span).andThen fun held =>
        if held then x else Action.fail (Session.busy name)) L := by
    refine Pact.leads_idle_bind hidle (idle_acquire t span) (fun held _ => ?_) fun n f _ hfail =>
      absurd hfail (sure_acquire t span f)
    cases held with
    | true => exact hx
    | false => exact Pact.leads_finished hbusy
  refine Pact.Leads.ensuring hbody fun o => ?_
  have hleave : (Action.update fun s : Session.Locks => (s.giveUp t).leave t :
      Action (World ε) Unit).Idle SameFigures := Action.idle_update fun _ => ⟨rfl, rfl⟩
  exact (Pact.leads_of_idle hidle hleave).mono fun n o' hn => ⟨Action.mayEnd_update hn.2, hn.1⟩

/-- The message has a reply, and its lead cannot be found. -/
def Unshown (p : Processor ε) (m : Inbound) (f : Fault) : Prop :=
  ∃ state, RepliesWith p m state ∧ findLead state = .error f

/-- What has a result has recorded figures; what fails has done so just if the baseline engine failed, or
the lead cannot be found. -/
def EndsLate (p : Processor ε) (m : Inbound) (n : Tally) : Except Fault α → Prop
  | .ok _ => n.entry.isSome = true
  | .error f => n.entry.isSome = f.ofBaseline ∨ n.entry.isSome = true ∧ Unshown p m f

/-- Advances are scheduled, or the lead cannot be found; no figures are recorded any more. -/
theorem leads_schedule_accounting {settled : Settled} (hs : settled.Sound p m) :
    (accounting e).Leads (fun n => n.entry.isSome = true)
      (schedule settled.guarded : Action (World ε) Unit) (EndsLate p m) := by
  have hpass : (accounting e).Leads (fun n => n.entry.isSome = true)
      (Action.tryPart (fun l : Stages.Ledger =>
        Stages.passOn l settled.guarded.reply.state settled.guarded.reply.stages) :
          Action (World ε) _) (EndsLate p m) := by
    refine Pact.leads_tryPart fun n w hn _ => ⟨n, .idle ⟨rfl, rfl⟩, ?_⟩
    unfold Stages.passOn
    cases hlead : findLead settled.guarded.reply.state with
    | ok lead => exact hn
    | error f =>
      obtain ⟨state, hreplies, hsame⟩ := hs.replies
      exact .inr ⟨hn, state, hreplies, hsame.trans hlead⟩
  refine hpass.andThen (fun advances => ?_) fun n f hn => hn
  exact Pact.leads_ofState fun n w hn _ => ⟨n, .idle ⟨rfl, rfl⟩, hn⟩

/-- **A message records its figures once when it returns**, and when it fails it has done so just if the
baseline engine failed, or the lead of its reply cannot be found. -/
theorem leads_process_accounting :
    (accounting (.request (.message m))).Leads Tally.IsBlank (process p m) (EndsLate p m) := by
  have hidle := ignores_accounting (ε := ε) (.request (.message m))
  have hspared {β : Type} {x : Action (World ε) β} {f : β → Action (World ε) Outcome}
      (hi : x.Idle SameFigures) (hs : Spares x)
      (hf : ∀ b, x.MayEnd (.ok b) → (accounting (.request (.message m))).Leads Tally.IsBlank (f b)
        (EndsLate p m)) :
      (accounting (.request (.message m))).Leads Tally.IsBlank (x.andThen f) (EndsLate p m) :=
    Pact.leads_idle_bind hidle hi hf fun _ f hn hfail => .inl (hn.trans (hs f hfail).symm)
  refine hspared idle_reading (spares_of_sure (Action.sure_look _)) fun start _ => ?_
  refine hspared (idle_graphOf (fun _ _ => ⟨rfl, rfl⟩) m.templateId) (spares_graphOf m.templateId)
    fun graph _ => ?_
  have htries : (accounting (.request (.message m))).Leads Tally.IsBlank
      (tryRepeatedly p m graph start p.attempts.toNat 0)
      fun n o => Ends false n o ∧ ∀ settled, o = .ok settled → settled.Sound p m := by
    refine (leads_tryRepeatedly_accounting start _ 0).mayEnd.mono fun n o hn => ⟨hn.1, ?_⟩
    rintro settled rfl
    exact sound_of_tryRepeatedly hn.2
  refine (leads_underLock m.lockName p.lockSpan htries fun n hn => ⟨hn, fun _ h => nomatch h⟩).andThen
    (fun settled => ?_) fun _ _ hn => .inl hn.1
  refine Pact.Leads.weaken (I := fun n => n.IsBlank ∧ settled.Sound p m) ?_ fun n hn =>
    ⟨hn.1, hn.2 settled rfl⟩
  refine Pact.leads_of_fact fun hsound => ?_
  have hnote : (accounting (.request (.message m))).Leads Tally.IsBlank
      (note m graph settled.decision (some settled.guarded) start : Action (World ε) Unit)
      (Ending (fun _ => False) fun n _ => n.entry.isSome = true) := by
    refine leads_note fun g hg => ?_
    rw [← Option.some.inj hg]
    exact hsound.routed
  refine hnote.andThen (fun _ => ?_) fun _ _ hn => hn.elim
  -- the figures are recorded, and only the lead can be missing
  refine (leads_schedule_accounting hsound).andThen (fun _ => ?_) fun _ _ hn => hn
  refine Pact.leads_idle_bind hidle idle_reading (fun _ _ => ?_) fun _ f _ hfail =>
    absurd hfail (Action.sure_look _ f)
  exact Pact.leads_finished fun _ hn => hn

theorem leads_reset_accounting :
    (accounting e).Leads Tally.IsBlank (reset p m) fun n _ => n.IsBlank := by
  have hdelete : (accounting e).Leads Tally.IsBlank
      (Action.tryPart (Store.delete m.key) : Action (World ε) Bool)
      (Ending Tally.IsBlank fun n _ => n.IsBlank) := by
    refine (Pact.leads_of_idle (ignores_accounting e) (SameFigures.idle_call _)).mono fun n o hn => ?_
    cases o <;> exact hn.1
  refine leads_underLock m.lockName p.lockSpan ?_ fun _ hn => hn
  refine (leads_withRetry (ignores_accounting e) hdelete _).mono fun n o hn => ?_
  cases o <;> exact hn

end Message

/-! ### Errands -/

/-- What an errand has recorded in the end: a message its figures, and any other one none. -/
def Errand.Settles (p : Processor ε) (e : Errand) (n : Tally) (o : Except Fault α) : Prop :=
  match e with
  | request (.message m) => EndsLate p m n o
  | _ => n.IsBlank

theorem leads_serve_accounting (e : Errand) :
    (accounting e).Leads Tally.IsBlank (e.serve p) (e.Settles p) := by
  cases e with
  | register templateId t =>
    refine Pact.leads_idle_bind (ignores_accounting _)
      (idle_putTemplate (fun _ _ => ⟨rfl, rfl⟩) templateId t) (fun _ _ => ?_) fun _ _ hn _ => hn
    exact Pact.leads_finished fun _ hn => hn
  | request r =>
    cases r with
    | message m =>
      refine leads_process_accounting.andThen (fun outcome => ?_) fun _ _ hn => hn
      exact Pact.leads_finished fun _ hn => hn
    | reset m =>
      refine leads_reset_accounting.andThen (fun _ => ?_) fun _ _ hn => hn
      exact Pact.leads_finished fun _ hn => hn

/-! ### Runs -/

section Run

/-- It is a message of the tenant that returned, or that failed with the baseline engine. -/
def Errand.countsFor (tenant : String) : Errand → Action (World ε) (Option Outcome) → Bool
  | request (.message m), .finished (.ok _) => m.tenantId = tenant
  | request (.message m), .finished (.error f) => m.tenantId = tenant && f.ofBaseline
  | _, _ => false

/-- How many messages of the tenant returned, or failed with the baseline engine. -/
def counted (tenant : String) (errands : List Errand)
    (tasks : List (Action (World ε) (Option Outcome))) : Nat :=
  (errands.zip tasks).countP fun job => job.1.countsFor tenant job.2

/-- It is a message of the tenant that failed since the lead of its reply cannot be found. -/
def Lost (p : Processor ε) (tenant : String) (errands : List Errand)
    (tasks : List (Action (World ε) (Option Outcome))) (i : Nat) : Prop :=
  ∃ m f, errands[i]? = some (.request (.message m)) ∧ m.tenantId = tenant ∧
    tasks[i]? = some (.finished (.error f)) ∧ Unshown p m f

/-- All messages of the tenant are over. -/
def AllOver (tenant : String) (errands : List Errand)
    (tasks : List (Action (World ε) (Option Outcome))) : Prop :=
  ∀ (i : Nat) (m : Inbound) (x : Action (World ε) (Option Outcome)),
    errands[i]? = some (.request (.message m)) → m.tenantId = tenant → tasks[i]? = some x →
      x.isOver = true

/-- In some step, the clock read the moment. -/
def ReadIn (trace : List (Crew.Move (World ε))) (moment : Moment) : Prop :=
  ∃ v ∈ trace, (Clocked.clock v.before).now = moment

/-- The log has what the errands have noted, in the order of recording, and the tenant's window comes
of it. -/
structure Booked (config : CollectorConfig) (tenant : String) (errands : List Errand)
    (notes : List Tally) (trace : List (Crew.Move (World ε))) (w : World ε)
    (log : List (Stamped Outcomes.Outcome)) : Prop where
  length : notes.length = errands.length
  configured : w.metrics.config = config
  kept : w.metrics.kept tenant = ((Collector.new config).recordAll log).kept tenant
  noted : (notes.filterMap Tally.entry).Perm log
  owned : ∀ (i : Nat) (n : Tally) (x : Stamped Outcomes.Outcome), notes[i]? = some n →
    n.entry = some x → ∃ m, errands[i]? = some (.request (.message m)) ∧
      x.value.tenantId = m.tenantId
  read : ∀ n ∈ notes, ∀ moment, n.read = some moment → ReadIn trace moment
  dated : ∀ x ∈ log, ReadIn trace x.moment
  routed : ∀ x ∈ log, x.value.fallback = true → x.value.routed = .enhanced

variable {config : CollectorConfig} {tenant : String} {errands : List Errand} {notes : List Tally}
  {trace : List (Crew.Move (World ε))} {w w' : World ε} {log : List (Stamped Outcomes.Outcome)}
  {i : Nat} {n n' : Tally} {e : Errand}

theorem ReadIn.append {moment : Moment} (h : ReadIn trace moment)
    (more : List (Crew.Move (World ε))) : ReadIn (trace ++ more) moment := by
  obtain ⟨v, hv, hread⟩ := h
  exact ⟨v, List.mem_append_left more hv, hread⟩

theorem readIn_now (trace : List (Crew.Move (World ε))) (i : Nat) (w w' : World ε) :
    ReadIn (trace ++ Crew.record i w w') (Clocked.clock w).now :=
  ⟨⟨i, w, w'⟩, List.mem_append_right trace List.mem_cons_self, rfl⟩

omit [Clocked ε] in
/-- What one entry of a list contributes changes when the entry does. -/
theorem filterMap_set {γ β : Type} (f : γ → Option β) {l : List γ} {i : Nat} {a : γ}
    (h : l[i]? = some a) (b : γ) : ∃ xs ys, l.filterMap f = xs ++ ((f a).toList ++ ys) ∧
      (l.set i b).filterMap f = xs ++ ((f b).toList ++ ys) := by
  obtain ⟨hi, hget⟩ := List.getElem?_eq_some_iff.mp h
  obtain ⟨before, after, hsplit, -, hset⟩ := @List.exists_of_set _ i b l hi
  have hone (c : γ) : (before ++ c :: after).filterMap f =
      before.filterMap f ++ ((f c).toList ++ after.filterMap f) := by
    rw [List.filterMap_append, List.filterMap_cons]
    cases f c <;> rfl
  rw [hget] at hsplit
  exact ⟨_, _, (congrArg (List.filterMap f) hsplit).trans (hone a), by rw [hset]; exact hone b⟩

theorem booked_start (hfresh : w.metrics.kept tenant = []) :
    Booked w.metrics.config tenant errands (errands.map fun _ => .fresh) [] w [] := by
  have hblank (n : Tally) (hn : n ∈ errands.map fun _ => Tally.fresh) : n = .fresh := by
    obtain ⟨e, -, rfl⟩ := List.mem_map.mp hn
    rfl
  refine ⟨List.length_map _, rfl, hfresh, ?_, fun i n x hn hx => ?_, fun n hn moment hread => ?_,
    fun _ h => absurd h List.not_mem_nil, fun _ h => absurd h List.not_mem_nil⟩
  · rw [List.filterMap_eq_nil_iff.mpr fun n hn => by rw [hblank n hn]; rfl]
  · rw [hblank n (List.mem_of_getElem? hn)] at hx
    exact nomatch hx
  · rw [hblank n hn] at hread
    exact nomatch hread

namespace Booked

variable (h : Booked config tenant errands notes trace w log)
include h

theorem errandOf (hn : notes[i]? = some n) : ∃ e, errands[i]? = some e :=
  Crew.entry_of_note h.length hn

/-- A step in which nothing is recorded. -/
theorem aside (hn : notes[i]? = some n) (hsame : SameFigures w w') (hentry : n'.entry = n.entry)
    (hread : ∀ moment, n'.read = some moment →
      n.read = some moment ∨ (Clocked.clock w).now = moment) :
    Booked config tenant errands (notes.set i n') (trace ++ Crew.record i w w') w' log := by
  refine ⟨(List.length_set ..).trans h.length, hsame.config.trans h.configured,
    (hsame.kept tenant).trans h.kept, ?_, fun j k x hk hx => ?_, fun k hk moment hmoment => ?_,
    fun x hx => (h.dated x hx).append _, h.routed⟩
  · obtain ⟨xs, ys, hbefore, hafter⟩ := filterMap_set Tally.entry hn n'
    rw [hafter, hentry, ← hbefore]
    exact h.noted
  · rcases Session.of_getElem?_set hk with ⟨rfl, rfl⟩ | ⟨-, hk⟩
    · exact h.owned i n x hn (hentry ▸ hx)
    · exact h.owned j k x hk hx
  · rcases List.mem_or_eq_of_mem_set hk with hk | rfl
    · exact (h.read k hk moment hmoment).append _
    · rcases hread moment hmoment with hbefore | rfl
      · exact (h.read n (List.mem_of_getElem? hn) moment hbefore).append _
      · exact readIn_now trace i w w'

/-- The step in which a message records its figures. -/
theorem enter {m : Inbound} {o : Outcomes.Outcome} {moment : Moment}
    (he : errands[i]? = some (.request (.message m))) (hn : notes[i]? = some n)
    (hread : n.read = some moment) (hblank : n.entry = none) (htenant : o.tenantId = m.tenantId)
    (hrouted : o.fallback = true → o.routed = .enhanced)
    (hw : w' = { w with metrics := w.metrics.recordOutcome o (some moment) }) :
    Booked config tenant errands (notes.set i { n with entry := some ⟨moment, o⟩ })
      (trace ++ Crew.record i w w') w' (log ++ [⟨moment, o⟩]) := by
  subst hw
  have hlog : ((Collector.new config).recordAll log).config = config :=
    Collector.config_recordAll _ log
  have hconfig := h.configured.trans hlog.symm
  refine ⟨(List.length_set ..).trans h.length, h.configured, ?_, ?_, fun j k x hk hx => ?_,
    fun k hk moment' hmoment => ?_, fun x hx => ?_, fun x hx => ?_⟩
  · rw [Collector.recordAll_concat]
    exact Collector.kept_recordCall_congr hconfig h.kept ⟨o, some moment⟩
  · obtain ⟨xs, ys, hbefore, hafter⟩ :=
      filterMap_set Tally.entry hn { n with entry := some ⟨moment, o⟩ }
    have hnoted := h.noted
    rw [hbefore, hblank] at hnoted
    rw [hafter]
    exact List.perm_middle.trans ((hnoted.cons _).trans (List.perm_append_singleton _ _).symm)
  · rcases Session.of_getElem?_set hk with ⟨rfl, rfl⟩ | ⟨-, hk⟩
    · rw [← Option.some.inj hx]
      exact ⟨m, he, htenant⟩
    · exact h.owned j k x hk hx
  · rcases List.mem_or_eq_of_mem_set hk with hk | rfl
    · exact (h.read k hk moment' hmoment).append _
    · exact (h.read n (List.mem_of_getElem? hn) moment' hmoment).append _
  · rcases List.mem_append.mp hx with hx | hx
    · exact (h.dated x hx).append _
    · rw [List.mem_singleton.mp hx]
      exact (h.read n (List.mem_of_getElem? hn) moment hread).append _
  · rcases List.mem_append.mp hx with hx | hx
    · exact h.routed x hx
    · rw [List.mem_singleton.mp hx]
      exact hrouted

/-- **Every step of an errand is booked.** -/
theorem step (he : errands[i]? = some e) (hn : notes[i]? = some n) (ha : Booking e n w n' w') :
    ∃ log', Booked config tenant errands (notes.set i n') (trace ++ Crew.record i w w') w' log' := by
  cases ha with
  | idle hsame => exact ⟨log, h.aside hn hsame rfl fun _ hread => .inl hread⟩
  | read => exact ⟨log, h.aside hn (.refl w) rfl fun _ hread => .inr (Option.some.inj hread)⟩
  | enter hread hblank htenant hrouted =>
    exact ⟨_, h.enter he hn hread hblank htenant hrouted rfl⟩

theorem others (hsame : SameFigures w w') : Booked config tenant errands notes trace w' log :=
  ⟨h.length, hsame.config.trans h.configured, (hsame.kept tenant).trans h.kept, h.noted, h.owned,
    h.read, h.dated, h.routed⟩

/-- Only a message of the tenant records figures for it. -/
theorem enteredFor_iff (he : errands[i]? = some e) (hn : notes[i]? = some n) :
    n.enteredFor tenant = true ↔
      ∃ m, e = .request (.message m) ∧ m.tenantId = tenant ∧ n.entry.isSome = true := by
  unfold Tally.enteredFor
  cases hentry : n.entry with
  | none =>
    refine ⟨fun hentered => (nomatch hentered), ?_⟩
    rintro ⟨-, -, -, hentered⟩
    exact nomatch hentered
  | some entry =>
    obtain ⟨m, hm, htenant⟩ := h.owned i n entry hn hentry
    obtain rfl := Option.some.inj (he.symm.trans hm)
    refine ⟨fun hentered => ⟨m, rfl, htenant ▸ of_decide_eq_true hentered, rfl⟩, ?_⟩
    rintro ⟨m', hsame, hours, -⟩
    obtain rfl := Request.message.inj (Errand.request.inj hsame)
    exact decide_eq_true (htenant.trans hours)

/-- A message that counts has recorded its figures, and one that has done so counts or is lost. -/
theorem counts_or_lost (he : errands[i]? = some e) (hn : notes[i]? = some n)
    {x : Action (World ε) (Option Outcome)} (hended : ∀ o, x = .finished o → e.Settles p n o)
    (hover : ∀ m, e = .request (.message m) → m.tenantId = tenant → x.isOver = true) :
    (e.countsFor tenant x = true → n.enteredFor tenant = true) ∧
      (n.enteredFor tenant = true → e.countsFor tenant x = true ∨
        ∃ m f, e = .request (.message m) ∧ m.tenantId = tenant ∧ x = .finished (.error f) ∧
          Unshown p m f) := by
  rw [h.enteredFor_iff he hn]
  refine ⟨fun hcounts => ?_, ?_⟩
  · unfold Errand.countsFor at hcounts
    split at hcounts
    · exact ⟨_, rfl, of_decide_eq_true hcounts, hended _ rfl⟩
    · obtain ⟨htenant, hbaseline⟩ := Bool.and_eq_true_iff.mp hcounts
      refine ⟨_, rfl, of_decide_eq_true htenant, ?_⟩
      rcases hended _ rfl with hsame | ⟨hentered, -⟩
      · exact hsame.trans hbaseline
      · exact hentered
    · exact nomatch hcounts
  · rintro ⟨m, rfl, htenant, hentered⟩
    obtain ⟨o, rfl⟩ : ∃ o, x = .finished o := by
      cases x with
      | finished o => exact ⟨o, rfl⟩
      | look _ | put _ _ | pause _ _ => exact nomatch hover m rfl htenant
    cases o with
    | ok outcome => exact .inl (decide_eq_true htenant)
    | error f =>
      rcases hended _ rfl with hsame | ⟨-, hunshown⟩
      · exact .inl (Bool.and_eq_true_iff.mpr ⟨decide_eq_true htenant, hsame.symm.trans hentered⟩)
      · exact .inr ⟨m, f, rfl, htenant, rfl, hunshown⟩

end Booked

variable {start : World ε} {c : Crew (World ε) (World ε) (Option Outcome)}

/-- In any run of errands all figures are booked. -/
theorem booked_of_run (hfresh : start.metrics.kept tenant = [])
    (hrun : Crew.Run Places.whole SameFigures Crew.record ⟨start, errands.map (·.serve p)⟩ trace c) :
    ∃ notes, (∃ log, Booked start.metrics.config tenant errands notes trace c.world log) ∧
      Crew.Aligned (Crew.pactsOf errands accounting)
        (Crew.endsOf errands (Errand.Settles p)) notes c.tasks := by
  have hready : Crew.Aligned (Crew.pactsOf errands accounting)
      (Crew.endsOf errands (Errand.Settles p))
      (errands.map fun _ => .fresh) (errands.map (·.serve p)) :=
    Crew.aligned_map fun e _ => leads_serve_accounting e .fresh rfl
  let inv (notes : List Tally) (trace : List (Crew.Move (World ε))) (w : World ε) : Prop :=
    ∃ log, Booked start.metrics.config tenant errands notes trace w log
  have hstart : inv (errands.map fun _ => .fresh) [] start := ⟨[], booked_start hfresh⟩
  have hkept : ∃ notes, inv notes trace c.world ∧ Crew.Aligned (Crew.pactsOf errands accounting)
      (Crew.endsOf errands (Errand.Settles p)) notes c.tasks := by
    refine Crew.keeps hstart hready (fun h hn => ?_) (fun h hn hm => ?_) (fun h hothers => ?_) hrun
    · obtain ⟨log, h⟩ := h
      obtain ⟨e, he⟩ := h.errandOf hn
      rw [Crew.pactsOf_eq he]
      trivial
    · obtain ⟨log, h⟩ := h
      obtain ⟨e, he⟩ := h.errandOf hn
      rw [Crew.pactsOf_eq he] at hm
      exact h.step he hn hm
    · obtain ⟨log, h⟩ := h
      exact ⟨log, h.others hothers⟩
  exact hkept

omit [Clocked ε] in
/-- The places in a list where something is true are as many as its items of which it is. -/
theorem exists_places {γ : Type} (P : γ → Bool) (l : List γ) :
    ∃ places : List Nat, places.Nodup ∧ places.length = l.countP P ∧
      ∀ i ∈ places, ∃ a, l[i]? = some a ∧ P a = true := by
  refine ⟨(l.zipIdx.filter fun a => P a.1).map Prod.snd, ?_, ?_, fun i hi => ?_⟩
  · have hall : (l.zipIdx.map Prod.snd).Nodup := by
      rw [List.zipIdx_map_snd]
      exact List.nodup_range'
    exact hall.sublist (List.filter_sublist.map _)
  · rw [List.length_map, ← List.countP_eq_length_filter]
    exact (List.countP_map (l := l.zipIdx)).symm.trans (congrArg _ (List.zipIdx_map_fst 0 l))
  · obtain ⟨⟨a, place⟩, hmem, rfl⟩ := List.mem_map.mp hi
    obtain ⟨hmem, hP⟩ := List.mem_filter.mp hmem
    exact ⟨a, List.mem_zipIdx_iff_getElem?.mp hmem, hP⟩

/-- When all messages of the tenant are over, the log has one entry for each one that counts, and one for
each that is lost. -/
theorem length_of_booked (h : Booked config tenant errands notes trace w log)
    {tasks : List (Action (World ε) (Option Outcome))} (hlength : tasks.length = errands.length)
    (haligned : Crew.Aligned (Crew.pactsOf errands accounting)
      (Crew.endsOf errands (Errand.Settles p)) notes tasks)
    (hover : AllOver tenant errands tasks) :
    ∃ lost : List Nat, lost.Nodup ∧ (∀ i ∈ lost, Lost p tenant errands tasks i) ∧
      (log.filter fun x => x.value.tenantId = tenant).length =
        counted tenant errands tasks + lost.length := by
  let jobs := notes.zip (errands.zip tasks)
  let entered (job : Tally × Errand × Action (World ε) (Option Outcome)) : Bool :=
    job.1.enteredFor tenant
  let counts (job : Tally × Errand × Action (World ε) (Option Outcome)) : Bool :=
    job.2.1.countsFor tenant job.2.2
  have hjob {i : Nat} {n : Tally} {e : Errand} {x : Action (World ε) (Option Outcome)}
      (hi : jobs[i]? = some (n, e, x)) : errands[i]? = some e ∧ tasks[i]? = some x ∧
        (counts (n, e, x) = true → entered (n, e, x) = true) ∧
        (entered (n, e, x) = true → counts (n, e, x) = true ∨
          ∃ m f, e = .request (.message m) ∧ m.tenantId = tenant ∧ x = .finished (.error f) ∧
            Unshown p m f) := by
    obtain ⟨hn, hex⟩ := List.getElem?_zip_eq_some.mp hi
    obtain ⟨he, hx⟩ := List.getElem?_zip_eq_some.mp hex
    refine ⟨he, hx, h.counts_or_lost he hn (fun o ho => ?_) fun m hm htenant => ?_⟩
    · obtain ⟨n', hn', hready⟩ := haligned i x hx
      obtain rfl := Option.some.inj (hn.symm.trans hn')
      subst ho
      exact hready e he
    · exact hover i m x (hm ▸ he) htenant hx
  obtain ⟨lost, hnodup, hcount, hlost⟩ := exists_places (fun job => entered job && !counts job) jobs
  refine ⟨lost, hnodup, fun i hi => ?_, ?_⟩
  · obtain ⟨⟨n, e, x⟩, hi, hlate⟩ := hlost i hi
    obtain ⟨he, hx, -, hcases⟩ := hjob hi
    obtain ⟨hentered, hcounts⟩ := Bool.and_eq_true_iff.mp hlate
    rcases hcases hentered with hcounted | ⟨m, f, rfl, htenant, rfl, hunshown⟩
    · rw [hcounted] at hcounts
      exact nomatch hcounts
    · exact ⟨m, f, he, htenant, hx, hunshown⟩
  have hall : jobs.countP entered = jobs.countP counts + lost.length := by
    rw [List.countP_eq_countP_filter_add jobs entered counts, List.countP_filter, List.countP_filter,
      hcount]
    congr 1
    refine List.countP_congr fun job hmem => ?_
    obtain ⟨i, hi⟩ := List.mem_iff_getElem?.mp hmem
    refine Bool.and_eq_true_iff.trans ⟨And.right, fun hcounted => ⟨?_, hcounted⟩⟩
    exact (hjob hi).2.2.1 hcounted
  have hentries : (log.filter fun x => x.value.tenantId = tenant).length = jobs.countP entered := by
    have hnotes : jobs.map Prod.fst = notes := List.map_fst_zip (by
      rw [List.length_zip, h.length, hlength, Nat.min_self])
    rw [← List.countP_eq_length_filter, ← h.noted.countP_eq, List.countP_filterMap]
    refine Eq.trans (List.countP_congr fun n _ => ?_)
      ((congrArg (List.countP (Tally.enteredFor tenant)) hnotes.symm).trans List.countP_map)
    unfold Tally.enteredFor
    cases n.entry <;> simp
  have hcounted : jobs.countP counts = counted tenant errands tasks := by
    have hpairs : jobs.map Prod.snd = errands.zip tasks := List.map_snd_zip (by
      rw [List.length_zip, h.length, hlength, Nat.min_self])
    unfold counted
    rw [← hpairs, List.countP_map]
    rfl
  rw [hentries, hall, hcounted]

/-- **The figures of a tenant account for its messages**, whatever else is going on: resets,
registrations of templates, messages of others, and others who change anything but these figures, so
that attempts fail, conflict and are made again.  When all messages of the tenant are over, in a run
that lies within the window, and if there is room enough, its events are as many as its messages that
returned or failed with the baseline engine, and those that were lost: they failed since the lead of
their reply cannot be found.  Each fallback among the events is one of the enhanced engine.  A comparison
of the engines divides up what is told of both together, be it of all templates or of one. -/
theorem accounted_of_run {now windowStart : Moment} (hfresh : start.metrics.kept tenant = [])
    (hrun : Crew.Run Places.whole SameFigures Crew.record ⟨start, errands.map (·.serve p)⟩ trace c)
    (hover : AllOver tenant errands c.tasks) (hnow : now.isNaive = false)
    (hcutoff : Outcomes.cutoff start.metrics.config.windowSeconds now = .ok windowStart)
    (hwindow : ∀ v ∈ trace,
      Outcomes.InWindow start.metrics.config now (Clocked.clock v.before).now) :
    (∃ events, c.world.metrics.events now tenant .everything = .ok events ∧
        (∀ x ∈ events, x.value.fallback = true → x.value.routed = .enhanced) ∧
        ∃ lost : List Nat, lost.Nodup ∧ (∀ i ∈ lost, Lost p tenant errands c.tasks i) ∧
          ((counted tenant errands c.tasks + lost.length : Nat) ≤
              start.metrics.config.maxEventsPerTenant →
            events.length = counted tenant errands c.tasks + lost.length)) ∧
      ∀ templateId, ∃ both baseline enhanced,
        c.world.metrics.aggregated now tenant { Filter.everything with templateId := templateId } =
            .ok both ∧
          c.world.metrics.compare now tenant templateId =
            .ok [(.baseline, baseline), (.enhanced, enhanced)] ∧
          Outcomes.Adds both baseline enhanced ∧ baseline.fallbacks = 0 := by
  obtain ⟨notes, ⟨log, h⟩, haligned⟩ := booked_of_run hfresh hrun
  have hlength : c.tasks.length = errands.length := hrun.length_tasks.trans (List.length_map _)
  obtain ⟨lost, hnodup, hlost, hcount⟩ := length_of_booked h hlength haligned hover
  have hin : ∀ x ∈ log, Outcomes.InWindow start.metrics.config now x.moment := by
    intro x hx
    obtain ⟨v, hv, hread⟩ := h.dated x hx
    exact hread ▸ hwindow v hv
  -- none of the log is too old, and the last of it is kept
  have hkept := h.kept.trans (Outcomes.Collector.kept_of_inWindow hin hcutoff tenant)
  have hmem {x : Stamped Outcomes.Outcome} (hx : x ∈ c.world.metrics.kept tenant) : x ∈ log := by
    rw [hkept] at hx
    exact (List.mem_filter.mp ((Outcomes.lastEntries_suffix _ _).subset hx)).1
  have hown : Outcomes.cutoff c.world.metrics.config.windowSeconds now = .ok windowStart := by
    rw [h.configured]
    exact hcutoff
  have hevents (templateId : Option String) :=
    have haware : { Filter.everything with templateId := templateId }.Aware :=
      ⟨fun _ hs => (nomatch hs), fun _ hs => (nomatch hs)⟩
    Outcomes.Collector.events_of_aware hown hnow (fun x hx => (hin x (hmem hx)).aware) haware
  refine ⟨⟨_, hevents none, fun x hx => ?_, lost, hnodup, hlost, fun hroom => ?_⟩, fun templateId => ?_⟩
  · exact h.routed x (hmem (List.mem_filter.mp hx).1)
  · rw [List.filter_eq_self.mpr fun x hx => ?_, hkept, Outcomes.lastEntries_of_le (by omega), hcount]
    have hyoung := (hin x (hmem hx)).since windowStart hcutoff
    exact decide_eq_true ⟨hyoung, fun _ hs => (nomatch hs), fun _ hs => (nomatch hs),
      fun _ hs => (nomatch hs), fun _ hs => (nomatch hs), fun _ hs => (nomatch hs)⟩
  · obtain ⟨hboth, hcompared⟩ := Outcomes.Collector.compare_of_events (hevents templateId)
    refine ⟨_, _, _, hboth, hcompared, Outcomes.adds_paths _, ?_⟩
    refine List.countP_eq_zero.mpr fun o ho hfallback => ?_
    obtain ⟨hlisted, hbaseline⟩ := List.mem_filter.mp ho
    obtain ⟨x, hx, rfl⟩ := List.mem_map.mp hlisted
    have henhanced := h.routed x (hmem (List.mem_filter.mp hx).1) hfallback
    exact nomatch henhanced.symm.trans (of_decide_eq_true hbaseline)

end Run

/-! ### Greetings at noon -/

section Greetings

open Outcomes.Collector (noon windowOf)

/-- It is noon, and the next three saves fail. -/
def noonSite : World Time.Clock :=
  { shakySite with surroundings := ⟨0, 0, noon⟩, metrics := .new (windowOf 3600) }

/-- The first message cannot store its reply, and the second one comes after it. -/
def noonRun : List (Crew.Move (World Time.Clock)) ×
    Crew (World Time.Clock) (World Time.Clock) (Option Outcome) :=
  (Crew.mk noonSite (greetingTwice.map (·.serve greeter))).drive Places.whole Crew.record
    (List.replicate 80 0 ++ List.replicate 80 1)

/-- One message counts, and its fallback is one of the enhanced engine. -/
theorem accounted_of_run_greetings : ∃ trace c,
    Crew.Run Places.whole SameFigures Crew.record
      ⟨noonSite, greetingTwice.map (·.serve greeter)⟩ trace c ∧
    AllOver "acme" greetingTwice c.tasks ∧ counted "acme" greetingTwice c.tasks = 1 ∧
    (∃ events, c.world.metrics.events noon "acme" .everything = .ok events ∧ events.length = 1) ∧
    ∃ both baseline enhanced, c.world.metrics.aggregated noon "acme" .everything = .ok both ∧
      c.world.metrics.compare noon "acme" none = .ok [(.baseline, baseline), (.enhanced, enhanced)] ∧
        Outcomes.Adds both baseline enhanced ∧ baseline.fallbacks = 0 := by
  have hrun : Crew.Run Places.whole SameFigures Crew.record
      ⟨noonSite, greetingTwice.map (·.serve greeter)⟩ noonRun.1 noonRun.2 := Crew.run_drive _
  have hover : AllOver "acme" greetingTwice noonRun.2.tasks := by
    have hall : noonRun.2.tasks.all Action.isOver = true := by decide +kernel
    exact fun _ _ _ _ _ hx => List.all_eq_true.mp hall _ (List.mem_of_getElem? hx)
  have hcount : counted "acme" greetingTwice noonRun.2.tasks = 1 := by decide +kernel
  have hclock : (noonRun.1.all fun v => (Clocked.clock v.before).now = noon) = true := by
    decide +kernel
  have hnoon : Outcomes.InWindow noonSite.metrics.config noon noon :=
    ⟨rfl, rfl, fun windowStart hcutoff => by rw [← Except.ok.inj hcutoff]; decide, le_refl _⟩
  have hwindow : ∀ v ∈ noonRun.1,
      Outcomes.InWindow noonSite.metrics.config noon (Clocked.clock v.before).now := by
    intro v hv
    rw [of_decide_eq_true (List.all_eq_true.mp hclock v hv)]
    exact hnoon
  have hfresh : noonSite.metrics.kept "acme" = [] := rfl
  obtain ⟨⟨events, hevents, -, lost, -, hlost, hlength⟩, hcompared⟩ :=
    accounted_of_run hfresh hrun hover rfl rfl hwindow
  have hnone : lost = [] := by
    refine List.eq_nil_iff_forall_not_mem.mpr fun i hi => ?_
    obtain ⟨m, f, -, -, hx, state, -, hlead⟩ := hlost i hi
    have hlimits : noonRun.2.tasks.all (fun x => !(x.fault?.any Fault.isLimit)) = true := by
      decide +kernel
    have hlimit := List.all_eq_true.mp hlimits _ (List.mem_of_getElem? hx)
    rw [show (Action.finished (.error f) : Action (World Time.Clock) (Option Outcome)).fault? = some f
      from rfl, Option.any_some, Stages.isLimit_of_findLead hlead] at hlimit
    exact nomatch hlimit
  rw [hnone, hcount] at hlength
  exact ⟨_, _, hrun, hover, hcount, ⟨events, hevents, hlength (by decide)⟩, hcompared none⟩

/-- **A message that fails after its figures are recorded**, and not since the baseline engine did: its
lead has too many digits. -/
theorem unaccounted_of_failed :
    let site := { towerSite with
      surroundings := ⟨0, 0, noon⟩, metrics := Collector.new (windowOf 3600) }
    let (answer, w) := (process greeter climb).run site
    answer.map (·.state.version) = .error (.tooLong none) ∧
      (w.metrics.events noon "acme" .everything).map List.length = .ok 1 := by
  decide +kernel

end Greetings

end Turn

end Parley
