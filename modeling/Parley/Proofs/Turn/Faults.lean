import Parley.Proofs.Recovery.Recorded
import Parley.Proofs.Turn.Regular
import Parley.Proofs.Turn.Stored

/-!
# Parley.Proofs.Turn.Faults — what a message may fail with

A message fails with a fault that callers are told about, or with a `Stray` one, which has nothing to do
with the message: the metrics cannot be read, the names of variables have no order, or a limit is met
in copying or writing the state or its lead.  That is so if the state that the message brings along is
`Fit`; any other one may have a place that cannot be looked up, or ids that no name can be made of.
Whatever comes of a message, it leaves the world regular.
-/

namespace Parley.Turn

open Parley.Action (Comes Lawful)
open Complexity (Thresholds)
open Conversation (Interpreter State)
open Outcomes (Collector)
open Recovery (FallbackContext FallbackOptions Guard Guarded Incident Manager)
open Routing (Decision)
open Storage (Store)
open Template (FlowGraph Registry)
open Time (Clocked Moment Seconds)

/-! ### Figures -/

/-- Figures can be set in relation to each limit. -/
structure Usable (t : Thresholds) : Prop where
  maxNodes : t.maxNodes.isZero = false
  maxInputFraction : t.maxInputFraction.isZero = false
  maxBranching : t.maxBranching.isZero = false
  maxChainLength : t.maxChainLength.isZero = false
  maxDropRate : t.maxDropRate.isZero = false
  maxErrorRate : t.maxErrorRate.isZero = false
  maxResponseMs : t.maxResponseMs.isZero = false

section Figures

variable {t : Thresholds}

theorem exists_of_bind {α β : Type} {x : Except Fault α} {f : α → Except Fault β}
    (hx : ∃ a, x = .ok a) (hf : ∀ a, ∃ b, f a = .ok b) : ∃ b, x >>= f = .ok b := by
  obtain ⟨a, ha⟩ := hx
  obtain ⟨b, hb⟩ := hf a
  exact ⟨b, exceptBind_eq_ok.mpr ⟨a, ha, hb⟩⟩

theorem exists_of_divide {b : Number} (h : b.isZero = false) (a : Number) :
    ∃ q, Complexity.divide a b = .ok q := by
  unfold Complexity.divide
  rw [h]
  exact ⟨a / b, rfl⟩

theorem exists_of_clipRatio {b : Number} (h : b.isZero = false) (a : Number) :
    ∃ share, Complexity.clipRatio a b = .ok share := by
  obtain ⟨q, hq⟩ := exists_of_divide h a
  unfold Complexity.clipRatio
  rw [hq]
  exact ⟨Scalar.clip q, rfl⟩

/-- A measure that is not known does not have to be taken. -/
theorem exists_of_measures {limit : Number} (h : limit.isZero = false) (modules : List Capability)
    (issue : Number → String) (value : Option Number) :
    ∃ found, (value.toList.mapM fun v =>
      Complexity.limitedMeasure v limit modules (issue v)) = .ok found := by
  have hmeasure (v : Number) :
      ∃ found, Complexity.limitedMeasure v limit modules (issue v) = .ok found :=
    exists_of_bind (exists_of_divide h v) fun q =>
      exists_of_bind (exists_of_divide rfl q) fun _ => ⟨_, rfl⟩
  cases value with
  | none => exact ⟨[], rfl⟩
  | some v => exact exists_of_bind (hmeasure v) fun found => ⟨[found], rfl⟩

/-- With usable thresholds there is a verdict on every template. -/
theorem Usable.exists_of_analyze (h : Usable t) (graph : FlowGraph)
    (performance : Option Complexity.Performance) :
    ∃ analysis, Complexity.analyze t graph performance = .ok analysis := by
  have hstructural : ∃ score, Complexity.structuralScore t (Complexity.measure graph) =
      .ok score :=
    exists_of_bind (exists_of_clipRatio h.maxNodes _) fun _ =>
      exists_of_bind (exists_of_clipRatio h.maxInputFraction _) fun _ =>
        exists_of_bind (exists_of_clipRatio h.maxBranching _) fun _ =>
          exists_of_bind (exists_of_clipRatio h.maxChainLength _) fun _ => ⟨_, rfl⟩
  have hmeasures (p : Complexity.Performance) : ∃ ms, Complexity.measures t p = .ok ms :=
    exists_of_bind (exists_of_measures h.maxDropRate _ _ p.dropRate) fun _ =>
      exists_of_bind (exists_of_measures h.maxErrorRate _ _ p.errorRate) fun _ =>
        exists_of_bind (exists_of_measures h.maxResponseMs _ _ p.averageResponseMs) fun _ =>
          ⟨_, rfl⟩
  refine exists_of_bind hstructural fun structural => ?_
  cases performance with
  | none => exact ⟨_, rfl⟩
  | some p => exact exists_of_bind (hmeasures p) fun _ => ⟨_, rfl⟩

theorem family_of_divide {a b : Number} {f : Fault} (h : Complexity.divide a b = .error f) :
    f.family = .division := by
  unfold Complexity.divide at h
  split_ifs at h
  rw [← Except.error.inj h]
  rfl

theorem family_of_clipRatio {a b : Number} {f : Fault} (h : Complexity.clipRatio a b = .error f) :
    f.family = .division := by
  unfold Complexity.clipRatio at h
  cases hdivide : Complexity.divide a b with
  | ok q =>
    rw [hdivide] at h
    exact nomatch h
  | error e =>
    rw [hdivide] at h
    rw [← Except.error.inj h]
    exact family_of_divide hdivide

theorem family_of_measures {p : Complexity.Performance} {f : Fault}
    (h : Complexity.measures t p = .error f) : f.family = .division := by
  have hmeasure {value limit : Number} {modules : List Capability} {issue : String}
      (h : Complexity.limitedMeasure value limit modules issue = .error f) :
      f.family = .division := by
    rcases exceptBind_eq_error.mp h with h | ⟨_, -, h⟩
    · exact family_of_divide h
    rcases exceptBind_eq_error.mp h with h | ⟨_, -, h⟩
    · exact family_of_divide h
    · exact nomatch h
  have hlisted {values : List Number} {limit : Number} {modules : List Capability}
      {issue : Number → String} (h : (values.mapM fun v =>
        Complexity.limitedMeasure v limit modules (issue v)) = .error f) :
      f.family = .division := by
    obtain ⟨_, -, h⟩ := exists_of_mapM_eq_error h
    exact hmeasure h
  rcases exceptBind_eq_error.mp h with h | ⟨_, -, h⟩
  · exact hlisted h
  rcases exceptBind_eq_error.mp h with h | ⟨_, -, h⟩
  · exact hlisted h
  rcases exceptBind_eq_error.mp h with h | ⟨_, -, h⟩
  · exact hlisted h
  · exact nomatch h

/-- Whatever the thresholds are, all that can go wrong with a verdict is a division by zero. -/
theorem family_of_analyze {graph : FlowGraph} {performance : Option Complexity.Performance}
    {f : Fault} (h : Complexity.analyze t graph performance = .error f) : f.family = .division := by
  have hstructural {s : Complexity.Signals} (h : Complexity.structuralScore t s = .error f) :
      f.family = .division := by
    rcases exceptBind_eq_error.mp h with h | ⟨_, -, h⟩
    · exact family_of_clipRatio h
    rcases exceptBind_eq_error.mp h with h | ⟨_, -, h⟩
    · exact family_of_clipRatio h
    rcases exceptBind_eq_error.mp h with h | ⟨_, -, h⟩
    · exact family_of_clipRatio h
    rcases exceptBind_eq_error.mp h with h | ⟨_, -, h⟩
    · exact family_of_clipRatio h
    · exact nomatch h
  rcases exceptBind_eq_error.mp h with h | ⟨_, -, h⟩
  · exact hstructural h
  cases performance with
  | none => exact nomatch h
  | some p =>
    rcases exceptBind_eq_error.mp h with h | ⟨_, -, h⟩
    · exact family_of_measures h
    · exact nomatch h

end Figures

/-! ### Stray faults -/

/-- A fault that has nothing to do with the message: the window of the metrics begins at no date, moments
of their outcomes are of two kinds, or names of variables are, or a limit is met. -/
inductive Stray : Fault → Prop
  | undated {window : Number} {now : Moment} {f : Fault} :
    Outcomes.cutoff window now = .error f → Stray f
  | mixed : Stray .mixedClocks
  | unordered : Stray Recovery.noOrder
  | limited {f : Fault} : f.isLimit = true → Stray f

/-- A span or a date that is out of range is no fault of a service. -/
theorem family_of_cutoff {window : Number} {now : Moment} {f : Fault}
    (h : Outcomes.cutoff window now = .error f) : f.family ≠ .service := by
  have hbounded {n : Int} {limit : Int} (h : (if -limit < n && n < limit then .ok n
      else .error (.tooLarge "days outside the range of a span") : Except Fault Int) = .error f) :
      f.family ≠ .service := by
    split_ifs at h
    rw [← Except.error.inj h]
    exact fun hfamily => nomatch hfamily
  have hspan (h : Time.spanMicros window = .error f) : f.family ≠ .service := by
    unfold Time.spanMicros at h
    dsimp only at h
    split at h
    · exact hbounded h
    · split at h
      · split_ifs at h <;> (rw [← Except.error.inj h]; exact fun hfamily => nomatch hfamily)
      · exact hbounded h
  rcases exceptBind_eq_error.mp h with h | ⟨_, -, h⟩
  · exact hspan h
  · unfold Moment.shift at h
    dsimp only at h
    split_ifs at h
    rw [← Except.error.inj h]
    exact fun hfamily => nomatch hfamily

theorem Stray.family {f : Fault} (h : Stray f) : f.family ≠ .service := by
  cases h with
  | undated hcutoff => exact family_of_cutoff hcutoff
  | mixed => exact fun hfamily => nomatch hfamily
  | unordered => exact fun hfamily => nomatch hfamily
  | limited hlimit =>
    intro hfamily
    rcases Fault.family_of_isLimit hlimit with h | h <;> exact nomatch hfamily.symm.trans h

theorem stray_of_unheard {before stored : Option State} {f : Fault}
    (h : Recovery.Unheard before stored f) : Stray f := by
  cases h with
  | mixed => exact .unordered
  | limited _ hmeets => exact .limited hmeets.1

theorem mixedClocks_of_before {a b : Moment} {f : Fault} (h : a.before b = .error f) :
    f = .mixedClocks := by
  unfold Moment.before Moment.order at h
  split_ifs at h
  · cases h
  · exact (Except.error.inj h).symm

/-- Outcomes that are asked for without bounds of their own are found, or a stray fault. -/
theorem stray_of_events {c : Collector} {now : Moment} {tenant : String} {filter : Outcomes.Filter}
    {f : Fault} (hstart : filter.start = none) (hfinish : filter.finish = none)
    (h : c.events now tenant filter = .error f) : Stray f := by
  have hselects {lower : Moment} {e : Outcomes.Stamped Outcomes.Outcome} {f : Fault}
      (h : Collector.selects filter lower e = .error f) : Stray f := by
    unfold Collector.selects at h
    rcases exceptBind_eq_error.mp h with h | ⟨early, -, h⟩
    · rw [mixedClocks_of_before h]
      exact .mixed
    · rw [hfinish] at h
      cases early <;> cases h
  have hfiltered {lower : Moment} {events found : List (Outcomes.Stamped Outcomes.Outcome)}
      {f : Fault}
      (h : events.filterAuxM (Collector.selects filter lower) found = .error f) : Stray f := by
    induction events generalizing found with
    | nil => cases h
    | cons e more ih =>
      rcases exceptBind_eq_error.mp h with h | ⟨_, -, h⟩
      · exact hselects h
      · exact ih h
  unfold Collector.events at h
  rcases exceptBind_eq_error.mp h with h | ⟨windowStart, -, h⟩
  · exact .undated h
  rw [hstart] at h
  rcases exceptBind_eq_error.mp h with h | ⟨lower, -, h⟩
  · cases h
  rcases exceptBind_eq_error.mp h with h | ⟨_, -, h⟩
  · exact hfiltered h
  · cases h

theorem stray_of_performance {c : Collector} {now : Moment} {tenant templateId : String} {f : Fault}
    (h : c.performance now tenant templateId = .error f) : Stray f := by
  rcases exceptBind_eq_error.mp h with h | ⟨a, -, h⟩
  · rcases exceptBind_eq_error.mp h with h | ⟨_, -, h⟩
    · exact stray_of_events rfl rfl h
    · cases h
  · split_ifs at h

theorem stray_of_live {c : Collector} {now : Moment} {tenant templateId : String} {f : Fault}
    (h : c.live now tenant templateId = .error f) : Stray f := by
  rcases exceptBind_eq_error.mp h with h | ⟨_, -, h⟩
  · exact stray_of_events rfl rfl h
  · cases h

/-- A fault that callers are told about, or a stray one. -/
def Expected (f : Fault) : Prop := Answerable f ∨ Stray f

variable {ε : Type} [Clocked ε] {p : Processor ε} {i : Interpreter} {m : Inbound}
  {graph : FlowGraph} {base state : Option State} {guarded : Guarded}

theorem lawful_route (ht : Usable p.thresholds) :
    Lawful Regular (route p m graph) Stray fun _ => True := by
  refine Action.lawful_idle_andThen idle_clock (Action.sure_look _) fun clock _ => ?_
  refine Action.lawful_idle_andThen
    (Action.idle_onPart fun _ => Minor.of_parts rfl rfl rfl rfl rfl) (Action.sure_ofState _)
    fun found _ => ?_
  cases found with
  | some decision => exact Action.lawful_result trivial
  | none =>
    refine Action.lawful_idle_andThen idle_now (Action.sure_look _) fun now _ => ?_
    refine Action.lawful_idle_andThen Action.idle_view (Action.sure_look _) fun metrics _ => ?_
    refine Lawful.andThen (K := fun _ => True) (Action.lawful_ofExcept ?_) fun performance _ => ?_
    · cases hperformance : metrics.performance now m.tenantId m.templateId with
      | ok performance => trivial
      | error f => exact stray_of_performance hperformance
    obtain ⟨analysis, hanalysis⟩ := ht.exists_of_analyze graph performance
    refine Lawful.andThen (K := fun _ => True) (Action.lawful_ofExcept ?_) fun analysis _ => ?_
    · rw [hanalysis]
      trivial
    refine Lawful.andThen (K := fun _ => True) (Action.lawful_ofExcept ?_) fun live _ => ?_
    · cases hlive : metrics.live now m.tenantId m.templateId with
      | ok live => trivial
      | error f => exact stray_of_live hlive
    refine Action.lawful_of_idle
      (Action.idle_onPart fun _ => Minor.of_parts rfl rfl rfl rfl rfl) fun o ho => ?_
    cases o with
    | ok decision => trivial
    | error f => exact absurd ho (Action.sure_ofState _ f)

/-! ### Engines and recovery -/

section Execute

variable {c : FallbackContext} {o : FallbackOptions} {name : String} {incident : Incident}

theorem lawful_askStore (hkey : c.key.join = .ok name) :
    Lawful Regular (Manager.askStore c : Action (World ε) _) Stray fun _ => True := by
  refine Action.lawful_idle_andThen idle_now (Action.sure_look _) fun now _ => ?_
  refine (lawful_loading (F := fun _ => False) hkey now).attempt.andThen fun stored hstored => ?_
  cases stored with
  | error f => exact hstored.elim
  | ok stored =>
    refine Lawful.andThen (K := fun _ => True) (Action.lawful_ofExcept ?_) fun matching _ => ?_
    · cases hmatch : Recovery.matchesStored c.before stored with
      | ok matching => trivial
      | error f => exact stray_of_unheard (Recovery.unheard_of_matchesStored hmatch)
    · cases matching <;> exact Action.lawful_result trivial

/-- What happened is noted without a failure. -/
theorem lawful_noted {manager : Manager ε} {start : Seconds} {preserved leadOk : Bool}
    {actions : List Recovery.RecoveryAction} {succeeded : Bool} {α : Type}
    {next : Recovery.FallbackEvent → Action (World ε) α} {F : Fault → Prop} {K : α → Prop}
    (hnext : ∀ e, Lawful Regular (next e) F K) :
    Lawful Regular ((Manager.event c incident start preserved leadOk actions succeeded).andThen
      fun e => (manager.emit e).andThen fun _ => next e) F K := by
  refine Action.lawful_idle_andThen (idle_clock.andThen fun _ => Action.idle_result _)
    ((Action.sure_look _).andThen fun _ => Action.sure_result _) fun e _ => ?_
  refine Action.lawful_idle_andThen ?_ ?_ fun _ _ => hnext e
  · refine Action.Idle.andThen (Action.idle_update fun _ => Minor.of_parts rfl rfl rfl rfl rfl)
      fun _ => ?_
    split_ifs
    · exact Action.idle_update fun _ => Minor.of_parts rfl rfl rfl rfl rfl
    · exact Action.idle_result _
  · refine (Action.sure_ofState _).andThen fun _ => ?_
    split_ifs
    · exact Action.sure_ofState _
    · exact Action.sure_result _

/-- The baseline engine fails in one way only. -/
theorem lawful_baseline {baseline : Engine ε} (hb : baseline = Engine.baseline i)
    (message : Message) :
    Lawful Regular (Action.inside (baseline message) : Action (World ε) Conversation.Reply)
      (fun f => ∃ wording, f = .baselineFailed wording) fun _ => True := by
  refine Action.lawful_of_idle (idle_inside _) fun outcome houtcome => ?_
  cases outcome with
  | ok reply => trivial
  | error f =>
    have hfault := Action.mayEnd_of_inside houtcome
    rw [hb] at hfault
    exact Recovery.fault_of_baseline hfault

theorem lawful_recover {manager : Manager ε} (hb : manager.baseline = Engine.baseline i)
    (hkey : c.key.join = .ok name) (incident : Incident) :
    Lawful Regular (manager.recover c incident o) Expected fun _ => True := by
  have hchecked : Lawful Regular (manager.checkState o c) Expected fun _ => True := by
    unfold Manager.checkState
    split_ifs
    · exact (lawful_askStore hkey).mono (fun _ => .inr) fun _ h => h
    · exact Action.lawful_result trivial
  refine Action.lawful_idle_andThen idle_reading (Action.sure_look _) fun start _ => ?_
  refine hchecked.andThen fun ⟨preserved, kept⟩ _ => ?_
  refine Lawful.andThen (K := fun _ => True) (Action.lawful_ofExcept ?_) fun before _ => ?_
  · cases hcopied : c.before.mapM State.copy with
    | ok before => trivial
    | error f => exact .inr (.limited (State.isLimit_of_mapM_copy hcopied))
  refine (lawful_baseline hb _).attempt.andThen fun outcome houtcome => ?_
  cases outcome with
  | ok reply =>
    have hstages : Lawful Regular (manager.checkStages o reply : Action (World ε) _) Expected
        fun _ => True := by
      unfold Manager.checkStages
      split_ifs
      · exact Action.lawful_idle_andThen Action.idle_view (Action.sure_look _) fun _ _ =>
          Action.lawful_result trivial
      · exact Action.lawful_result trivial
    refine hstages.andThen fun ⟨leadOk, staged⟩ _ => ?_
    exact lawful_noted fun _ => Action.lawful_result trivial
  | error f =>
    obtain ⟨wording, rfl⟩ := houtcome
    exact lawful_noted fun _ => Action.lawful_fail (.inl rfl)

theorem lawful_run {g : Guard ε} (hb : g.manager.baseline = Engine.baseline i)
    (hkey : c.key.join = .ok name) (modules : List Capability) :
    Lawful Regular (g.run c modules o) Expected fun _ => True := by
  have hfall {c : FallbackContext} (hkey : c.key.join = .ok name) (incident : Incident) :
      Lawful Regular (g.fallBack c o incident) Expected fun _ => True :=
    (lawful_recover hb hkey incident).andThen fun _ _ => Action.lawful_result trivial
  refine Lawful.andThen (K := fun _ => True) ?_ fun _ _ => Action.lawful_result trivial
  refine Lawful.andThen (K := fun _ => True) (Action.lawful_ofExcept ?_) fun copied _ => ?_
  · cases hcopied : c.before.mapM State.copy with
    | ok copied => trivial
    | error f => exact .inr (.limited (State.isLimit_of_mapM_copy hcopied))
  have hhand : (Recovery.Objects.hand Recovery.Objects.copy
      (g.primary ({ c with before := copied }.message modules))).Idle
        fun v w : World ε × Recovery.Objects => Leaves Regular v.1 w.1 :=
    Action.idle_through fun _ _ => Minor.of_parts rfl rfl rfl rfl rfl
  -- what has a limit never fails
  have hsure : Action.Sure ((Action.within (Seconds.ofNumber g.limit)
      (Recovery.Objects.hand Recovery.Objects.copy
        (g.primary ({ c with before := copied }.message modules)))).withOwn
          (Recovery.Objects.ofTurn c.before copied) : Action (World ε) _) := by
    intro e he
    obtain ⟨t, ht⟩ := Action.mayEnd_within (Action.mayEnd_of_withOwn_error he)
    exact nomatch ht
  refine Action.lawful_idle_andThen ((hhand.within _).withOwn _) hsure
    fun ⟨outcome, objects⟩ _ => ?_
  refine Lawful.andThen (K := fun _ => True) ?_ fun _ _ => Action.lawful_result trivial
  cases outcome with
  | late elapsed =>
    refine hfall ?_ _
    exact hkey
  | failed f =>
    refine hfall ?_ _
    exact hkey
  | done reply =>
    unfold Guard.conclude
    dsimp only
    split_ifs
    · refine hfall ?_ _
      exact hkey
    · exact Action.lawful_result trivial

theorem lawful_execute (hb : p.guard.manager.baseline = Engine.baseline i) (decision : Decision) :
    Lawful Regular (execute p m graph state decision) Expected fun _ => True := by
  have hkey : (m.context graph state).key.join = .ok m.lockName := m.key_join
  unfold execute
  cases decision.path with
  | enhanced => exact lawful_run hb hkey decision.modules
  | baseline =>
    have hbaseline := (lawful_baseline hb ((m.context graph state).message [])).mono
      (G := Expected) (fun f ⟨_, hf⟩ => .inl (by rw [hf]; rfl)) fun _ h => h
    exact hbaseline.andThen fun _ _ => Action.lawful_result trivial

end Execute

/-! ### Messages -/

/-- A state that the message brings along can be looked up and stored, if it is one of the template. -/
def Inbound.Fair (m : Inbound) : Prop :=
  ∀ s, m.prior = some s → s.flowId = .text m.templateId → s.Fit

/-- What a message may fail with, if it is fair. -/
def Allowed (m : Inbound) (f : Fault) : Prop := m.Fair → Expected f

/-- The message loaded the state, or brought it along. -/
def Loaded (m : Inbound) (base : Option State) : Prop :=
  ∀ s, base = some s → s.Fit ∨ m.prior = some s

omit [Clocked ε] in
theorem Loaded.fit {s : State} (h : Loaded m (some s)) (hfair : m.Fair)
    (hflow : s.flowId = .text m.templateId) : s.Fit := by
  rcases h s rfl with hfit | hprior
  · exact hfit
  · exact hfair s hprior hflow

omit [Clocked ε] in
theorem hashable_of_lookup {place : Value} {found : Option Template.FlowNode}
    (h : graph.lookup place = .ok found) : place.hashable = true := by
  cases place with
  | list items => cases h
  | object fields => cases h
  | null | bool _ | int _ | real _ | text _ => rfl

omit [Clocked ε] in
/-- A state that is not taken for one of the graph or another one has a place that cannot be looked
up. -/
theorem not_hashable_of_reconcile {key : Conversation.SessionKey} {now : Moment} {s : State}
    {f : Fault} (h : reconcile graph key now s = .error f) :
    s.flowId = .text graph.id ∧ s.currentNodeId.hashable = false := by
  unfold reconcile at h
  by_cases hflow : s.flowId = .text graph.id
  · refine ⟨hflow, ?_⟩
    cases hplace : s.currentNodeId with
    | list items => rfl
    | object fields => rfl
    | null | bool _ | int _ | real _ | text _ =>
      rw [if_pos hflow, hplace] at h
      cases h
  · rw [if_neg hflow] at h
    cases h

theorem lawful_load (attempt : Nat) :
    Lawful Regular (load m attempt : Action (World ε) (Option State)) (Allowed m) (Loaded m) := by
  unfold load
  split
  · rename_i state hprior
    refine Lawful.andThen (K := fun copied => copied = state) (Action.lawful_ofExcept ?_)
      fun copied hcopied => Action.lawful_result fun s hs => .inr ?_
    · cases hcopy : state.copy with
      | ok copied => exact (State.copy_eq_ok.mp hcopy).2
      | error f => exact fun _ => .inr (.limited (State.isLimit_of_copy hcopy))
    · rw [hprior, ← hcopied, hs]
  · refine lawful_withRetry _ (G := fun _ => False) ?_ (fun _ hf => hf.elim) fun _ _ => .inl rfl
    refine Action.lawful_idle_andThen idle_now (Action.sure_look _) fun now _ => ?_
    exact (lawful_loading m.key_join now).mono (fun _ hf => hf) fun base hbase s hs =>
      .inl (hbase s hs)

section Graph

variable (hg : graph.Closed) (hid : graph.id = m.templateId)
include hid

omit [Clocked ε] in
theorem lawful_reconcile (hbase : Loaded m base) (now : Moment) :
    Lawful Regular (base.mapM fun s => liftM (reconcile graph m.key now s) :
      Action (World ε) (Option State)) (Allowed m) fun _ => True := by
  cases base with
  | none => exact Action.lawful_result trivial
  | some s =>
    refine Lawful.andThen (K := fun _ => True) (Action.lawful_ofExcept ?_) fun _ _ =>
      Action.lawful_result trivial
    cases hreconcile : reconcile graph m.key now s with
    | ok s' => trivial
    | error f =>
      intro hfair
      obtain ⟨hflow, hplace⟩ := not_hashable_of_reconcile hreconcile
      have hfit := hbase.fit hfair (hflow.trans (by rw [hid]))
      exact nomatch hplace.symm.trans hfit.placed

theorem lawful_work (ht : Usable p.thresholds)
    (hb : p.guard.manager.baseline = Engine.baseline i) (hbase : Loaded m base) (start : Seconds) :
    Lawful Regular (work p m graph start base) (Allowed m) fun _ => True := by
  have hexpected {f : Fault} (hf : Expected f) : Allowed m f := fun _ => hf
  refine Action.lawful_idle_andThen idle_now (Action.sure_look _) fun now _ => ?_
  refine (lawful_reconcile hid hbase now).andThen fun state _ => ?_
  refine ((lawful_route ht).mono (fun f hf => hexpected (.inr hf)) fun _ h => h).andThen
    fun decision _ => ?_
  refine (lawful_execute hb decision).attempt.andThen fun outcome houtcome => ?_
  cases outcome with
  | ok guarded => exact Action.lawful_result trivial
  | error f =>
    dsimp only
    split
    · refine Action.lawful_idle_andThen (idle_note m graph decision none start) ?_ fun _ _ =>
        Action.lawful_fail (hexpected houtcome)
      exact (Action.sure_look _).andThen fun _ => Action.sure_ofState _
    · exact Action.lawful_fail (hexpected houtcome)

include hg

/-- The state of a reply has its place in the graph, and a name if the message is fair. -/
theorem storable_of_answered (hb : p.guard.manager.baseline = Engine.baseline i)
    (hwalks : GuardsWalks p.guard) (hbase : Loaded m base)
    (h : Answered p m graph base state guarded) :
    guarded.reply.state.currentNodeId.hashable = true ∧
      (m.Fair → ∃ name, guarded.reply.state.key.join = .ok name) := by
  obtain ⟨⟨working, hstarts, hwalk⟩, -⟩ := walk_of_answered hb hg hwalks h
  obtain ⟨-, hkey⟩ := conversation_of_walk hwalk
  have hworking : (∃ node, graph.lookup working.currentNodeId = .ok (some node)) ∧
      (m.Fair → ∃ name, working.key.join = .ok name) := by
    cases hresumed : resumed graph base with
    | some s =>
      obtain ⟨rfl, hflow, hplace⟩ := eq_of_resumed hresumed
      rw [hstarts.goesOn s hresumed]
      exact ⟨hplace, fun hfair => (hbase.fit hfair (hflow.trans (by rw [hid]))).named⟩
    | none =>
      obtain ⟨now, rfl⟩ := hstarts.anew hresumed
      obtain ⟨node, hnode⟩ := Option.isSome_iff_exists.mp hg.entered
      exact ⟨⟨node, congrArg Except.ok hnode⟩, fun _ => ⟨m.lockName, m.key_join⟩⟩
  obtain ⟨node, hnode⟩ := hwalk.placed hworking.1
  refine ⟨hashable_of_lookup hnode, fun hfair => ?_⟩
  rw [hkey]
  exact hworking.2 hfair

variable (ht : Usable p.thresholds) (hb : p.guard.manager.baseline = Engine.baseline i)
  (hwalks : GuardsWalks p.guard)
include ht hb hwalks

theorem lawful_tryOnce (start : Seconds) (attempt : Nat) :
    Lawful Regular (tryOnce p m graph start attempt) (Allowed m) fun _ => True := by
  refine (lawful_load attempt).andThen fun base hbase => ?_
  refine (lawful_work hid ht hb hbase start).mayEnd.andThen fun ⟨state, settled⟩ hended => ?_
  obtain ⟨hplace, hnamed⟩ :=
    storable_of_answered hg hid hb hwalks hbase (answered_of_work hended.2)
  dsimp only
  split_ifs with hcompleted
  · exact Action.lawful_result trivial
  · have hsave : Lawful Regular (save state settled.guarded.reply :
        Action (World ε) Storage.Saved) (Allowed m) fun _ => True := by
      refine lawful_withRetry _
        (G := fun f => settled.guarded.reply.state.key.join = .error f ∨ f.isLimit = true)
        (lawful_saving hplace (fun _ => .inl) (fun _ => .inr) _) (fun f hf => ?_)
        fun _ _ => .inl rfl
      rcases hf with hf | hlimit
      · refine ⟨?_, fun hfair => ?_⟩
        · obtain ⟨position, kind, rfl⟩ := Conversation.join_eq_error hf
          rfl
        · obtain ⟨name, hname⟩ := hnamed hfair
          exact nomatch hname.symm.trans hf
      · refine ⟨?_, fun _ => .inr (.limited hlimit)⟩
        cases f with
        | storePersistence => exact nomatch hlimit
        | _ => rfl
    refine hsave.andThen fun saved _ => ?_
    split_ifs <;> exact Action.lawful_result trivial

theorem lawful_tryRepeatedly (start : Seconds) (left attempt : Nat) :
    Lawful Regular (tryRepeatedly p m graph start left attempt) (Allowed m) fun _ => True := by
  induction left generalizing attempt with
  | zero => exact Action.lawful_fail fun _ => .inl rfl
  | succ left ih =>
    refine (lawful_tryOnce hg hid ht hb hwalks start attempt).andThen fun settled? _ => ?_
    cases settled? with
    | some settled => exact Action.lawful_result trivial
    | none => exact ih (attempt + 1)

end Graph

omit [Clocked ε] in
/-- A message comes to a graph, or fails with a fault that callers are told about. -/
theorem lawful_graphOf (templateId : String) :
    Lawful Regular (graphOf templateId : Action (World ε) FlowGraph) Answerable
      fun graph => graph.Closed ∧ graph.id = templateId := by
  refine (Action.lawful_view (K := Servable) fun w hw => hw.registry).andThen
    fun registry hservable => ?_
  refine Lawful.andThen (K := fun found => registry.fetch templateId = .ok found)
    (Action.lawful_ofExcept ?_) fun ⟨graph, registry'⟩ hfetch => ?_
  · cases hfetch : registry.fetch templateId with
    | error f =>
      refine hservable.refused templateId f ?_
      unfold Registry.serves
      rw [hfetch]
      rfl
    | ok found => rfl
  · have hserves := Registry.serves_of_fetch hfetch
    have hupdate : (Action.update fun _ : Registry => registry' : Action (World ε) Unit).Idle
        (Leaves Regular) := Action.idle_update fun w hw => ⟨hw.store, hservable.fetch hfetch⟩
    refine Action.lawful_idle_andThen hupdate (Action.sure_ofState _) fun _ _ => ?_
    exact Action.lawful_result ⟨hservable.closed.serves hserves, hservable.named _ _ hserves⟩

omit [Clocked ε] in
/-- The advances are scheduled, unless the lead cannot be shown. -/
theorem lawful_schedule (guarded : Guarded) :
    Lawful Regular (schedule guarded : Action (World ε) Unit) (Allowed m) fun _ => True := by
  refine Lawful.andThen (K := fun _ => True) (Action.lawful_tryPart fun w hw =>
    ⟨⟨hw.store, hw.registry⟩, ?_⟩) fun advances _ => ?_
  · unfold Stages.passOn
    cases hlead : Stages.findLead guarded.reply.state with
    | ok lead => trivial
    | error f => exact fun _ => .inr (.limited (Stages.isLimit_of_findLead hlead))
  · exact Action.lawful_of_idle (Action.idle_ofState fun _ => Regular.of_same rfl rfl)
      fun o ho => by
        cases o with
        | ok _ => trivial
        | error f => exact absurd ho (Action.sure_ofState _ f)

/-- **A fair message fails with faults that callers are told about, or with stray ones**, and any
message leaves the world regular. -/
theorem lawful_process (ht : Usable p.thresholds)
    (hb : p.guard.manager.baseline = Engine.baseline i) (hwalks : GuardsWalks p.guard) :
    Lawful Regular (process p m) (Allowed m) fun _ => True := by
  refine Action.lawful_idle_andThen idle_reading (Action.sure_look _) fun start _ => ?_
  refine ((lawful_graphOf m.templateId).mono (fun f hf _ => .inl hf) fun _ h => h).andThen
    fun graph hgraph => ?_
  have htries := lawful_tryRepeatedly hgraph.1 hgraph.2 ht hb hwalks start p.attempts.toNat 0
  refine (lawful_whileHolding m.lockName p.lockSpan htries fun _ => .inl rfl).andThen
    fun settled _ => ?_
  refine Action.lawful_idle_andThen (idle_note m graph _ _ start)
    ((Action.sure_look _).andThen fun _ => Action.sure_ofState _) fun _ _ => ?_
  refine (lawful_schedule settled.guarded).andThen fun _ _ => ?_
  refine Action.lawful_idle_andThen idle_reading (Action.sure_look _) fun _ _ => ?_
  exact Action.lawful_result trivial

end Parley.Turn
