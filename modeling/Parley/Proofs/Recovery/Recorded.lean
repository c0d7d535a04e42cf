import Parley.Proofs.Action.Pact
import Parley.Proofs.Conversation.Safety
import Parley.Proofs.Document.Canonical
import Parley.Proofs.Recovery.Replay
import Parley.Proofs.Storage.Swapping

/-!
# Parley.Proofs.Recovery.Recorded — what the metrics get to know of a failed turn

Whatever the enhanced engine of a guard does, the turn ends in one of three ways: with its reply, with
one of the baseline, or with a failure of the baseline; and in the latter two the metrics get one
event.  `recorded_of_run`: so it is, but where the variables of the state cannot be put in order, or
where a limit is met with the state.  Then nothing is done by the baseline, and nobody hears of it.
-/

namespace Parley.Recovery

open Conversation (Interpreter Reply State)
open Outcomes (Collector)
open Storage (IsMemory Store inMemory)
open Time (Clock Clocked Moment Seconds)

variable {ε : Type}

/-! ### States that cannot be compared -/

/-- The states have one version, and the variables of one of them cannot be put in order. -/
def Incomparable (before stored : Option State) : Prop :=
  ∃ s r, before = some s ∧ stored = some r ∧ s.version ≠ 0 ∧ r.version = s.version ∧
    (s.uniform = false ∨ r.uniform = false)

/-- The fault of variables without an order. -/
def noOrder : Fault := .notOrdered "<" "str" "int"

/-- A limit is met with the state: in copying it, or in writing its content. -/
def Meets (s : State) (f : Fault) : Prop :=
  f.isLimit = true ∧ (s.copy = .error f ∨ Document.composeSorted s.content = .error f)

/-- How a turn fails that nobody hears of: the states cannot be compared, or a limit is met with one of
them. -/
inductive Unheard (before stored : Option State) : Fault → Prop
  | mixed : Incomparable before stored → Unheard before stored noOrder
  | limited {s : State} {f : Fault} : before = some s ∨ stored = some s → Meets s f →
    Unheard before stored f

/-- It is not for the baseline that a turn fails so. -/
theorem Unheard.ne_baselineFailed {before stored : Option State} {f : Fault}
    (h : Unheard before stored f) (wording : String) : f ≠ .baselineFailed wording := by
  rintro rfl
  cases h with
  | limited _ hmeets => exact nomatch hmeets.1

theorem signature_eq_error {s : State} {f : Fault} (h : s.signature = .error f) :
    (s.uniform = false ∧ f = noOrder) ∨ Meets s f := by
  unfold State.signature at h
  split_ifs at h with huniform
  · have hcompose := exceptMap_eq_error.mp h
    exact .inr ⟨Document.isLimit_of_compose hcompose, .inr hcompose⟩
  · exact .inl ⟨Bool.eq_false_iff.mpr huniform, (Except.error.inj h).symm⟩

/-- The comparison with the stored state fails only where there is no order, or at a limit. -/
theorem unheard_of_matchesStored {before stored : Option State} {f : Fault}
    (h : matchesStored before stored = .error f) : Unheard before stored f := by
  unfold matchesStored at h
  cases before with
  | none => exact nomatch h
  | some s =>
    dsimp only at h
    split_ifs at h with hnew
    cases stored with
    | none => exact nomatch h
    | some r =>
      dsimp only at h
      split_ifs at h with hversion
      rcases exceptBind_eq_error.mp h with hr | ⟨_, -, h⟩
      · rcases signature_eq_error hr with ⟨hmixed, rfl⟩ | hmeets
        · exact .mixed ⟨s, r, rfl, rfl, hnew, hversion, .inr hmixed⟩
        · exact .limited (.inr rfl) hmeets
      · rcases exceptBind_eq_error.mp h with hs | ⟨_, -, h⟩
        · rcases signature_eq_error hs with ⟨hmixed, rfl⟩ | hmeets
          · exact .mixed ⟨s, r, rfl, rfl, hnew, hversion, .inl hmixed⟩
          · exact .limited (.inl rfl) hmeets
        · exact nomatch h

/-- A state that cannot be copied is at a limit. -/
theorem unheard_of_mapM_copy {before : Option State} (stored : Option State) {f : Fault}
    (h : before.mapM State.copy = .error f) : Unheard before stored f := by
  cases before with
  | none => exact nomatch h
  | some s =>
    have hcopy := exceptMap_eq_error.mp (show s.copy.map some = .error f from h)
    exact .limited (.inl rfl) ⟨State.isLimit_of_copy hcopy, .inl hcopy⟩

/-- Numbers that are short enough and little nesting keep a state from its limits. -/
theorem not_meets {s : State} (hcalls : s.copyCalls ≤ Limits.calls)
    (hbrief : s.content.brief = true) (hroom : s.content.nesting ≤ Limits.room) (f : Fault) :
    ¬ Meets s f := by
  rintro ⟨-, h | h⟩
  · exact nomatch h.symm.trans (State.copy_eq_ok.mpr ⟨hcalls, rfl⟩)
  · exact nomatch h.symm.trans (Document.composeSorted_eq_ok.mpr ⟨⟨hbrief, hroom⟩, rfl⟩)

/-- Where the names of all variables are texts and no limit is met, every turn is heard of. -/
theorem not_unheard {before stored : Option State} {f : Fault}
    (hb : ∀ s, before = some s → s.slots = [] ∧ ∀ f, ¬ Meets s f)
    (hs : ∀ r, stored = some r → r.slots = [] ∧ ∀ f, ¬ Meets r f) : ¬ Unheard before stored f := by
  have huniform {s : State} (h : s.slots = []) : s.uniform = true := by
    unfold State.uniform
    rw [h]
    exact Bool.or_true _
  rintro (⟨s, r, hbefore, hstored, -, -, h | h⟩ | ⟨h | h, hmeets⟩)
  · exact absurd (huniform (hb s hbefore).1) (Bool.eq_false_iff.mp h)
  · exact absurd (huniform (hs r hstored).1) (Bool.eq_false_iff.mp h)
  · exact (hb _ h).2 _ hmeets
  · exact (hs _ h).2 _ hmeets

/-! ### What is recorded -/

/-- An event tells of a turn, and whether the baseline did it. -/
structure FallbackEvent.Tells (e : FallbackEvent) (c : FallbackContext) (succeeded : Bool) :
    Prop where
  tenant : e.tenantId = c.key.tenant
  session : e.sessionId = c.key.session
  template : e.templateId = c.templateId
  succeeded : e.succeeded = succeeded

/-- The metrics get one event, which tells of the turn. -/
def Told (c : FallbackContext) (succeeded : Bool) (before after : Collector) : Prop :=
  ∃ e : FallbackEvent, e.Tells c succeeded ∧ after = before.recordFallback e (some e.timestamp)

/-- A recovery gives a reply or a failure of the baseline, and the metrics get one event. -/
inductive Recounted (c : FallbackContext) (before after : Collector) :
    Except Fault Recovered → Prop
  | recovered {r : Recovered} : Told c true before after → Recounted c before after (.ok r)
  | refused {wording : String} : Told c false before after →
    Recounted c before after (.error (.baselineFailed wording))

/-- A guarded turn gives the engine's reply, of which the metrics get no event; or a reply of the
baseline or a failure of the baseline, and the metrics get one event. -/
inductive Concluded (c : FallbackContext) (before after : Collector) :
    Except Fault Guarded → Prop
  | own {reply : Reply} : reply.degraded = false → after = before →
    Concluded c before after (.ok ⟨reply, .enhanced, none⟩)
  | recovered {r : Recovered} : Told c true before after →
    Concluded c before after (.ok ⟨r.reply, .baseline, some r⟩)
  | refused {wording : String} : Told c false before after →
    Concluded c before after (.error (.baselineFailed wording))

/-! ### What leaves the metrics alone -/

/-- Store and metrics are the same. -/
def Untold (w w' : World ε) : Prop := w'.store = w.store ∧ w'.metrics = w.metrics

/-- The metrics are the same. -/
def Unmeasured (w w' : World ε) : Prop := w'.metrics = w.metrics

section Quiet

variable [Clocked ε] {α : Type} {x : Action (World ε) α}

theorem untold_of_run (h : x.Idle Untold) (w : World ε) : Untold w (x.run w).2 :=
  Action.same_of_run w (fun _ => ⟨rfl, rfl⟩)
    (fun h h' => ⟨h'.1.trans h.1, h'.2.trans h.2⟩) (fun _ _ => ⟨rfl, rfl⟩) h

/-- An engine knows neither store nor metrics. -/
theorem untold_inside (x : Action ε α) (w : World ε) :
    Untold w ((x.inside : Action (World ε) α).run w).2 := by
  have hidle : (x.inside : Action (World ε) α).Idle Untold :=
    Action.idle_through fun _ _ => ⟨rfl, rfl⟩
  exact untold_of_run hidle w

end Quiet

/-! ### Recoveries -/

section Recover

variable [Clocked ε] {m : Manager ε} {c : FallbackContext} {o : FallbackOptions} {w : World ε}
  {name : String}

theorem fault_of_baseline {i : Interpreter} {msg : Message} {f : Fault}
    (h : (Engine.baseline i msg : Action ε Reply).MayEnd (.error f)) :
    ∃ wording, f = .baselineFailed wording := by
  obtain ⟨outcome, hstep, h⟩ | ⟨e, hattempt, -⟩ := Action.mayEnd_andThen.mp h
  · cases outcome with
    | ok reply => exact nomatch Action.mayEnd_result.mp h
    | error cause => exact ⟨_, Except.error.inj (Action.mayEnd_fail.mp h)⟩
  · obtain ⟨o', -, ho⟩ := Action.mayEnd_attempt.mp hattempt
    exact nomatch ho

/-- A store of the process fails to load only with a failure of its own. -/
theorem persistence_of_load {s : Store} (hstore : IsMemory s) {key : Conversation.SessionKey}
    (hkey : key.join = .ok name) {now : Moment} {f : Fault} (h : (s.load now key).1 = .error f) :
    ∃ operation record cause, f = .storePersistence operation record cause := by
  obtain ⟨memory, hmemory⟩ := hstore
  unfold Store.load at h
  split_ifs at h
  · unfold Store.outageFault at h
    rw [hkey] at h
    exact ⟨_, _, _, (Except.error.inj h).symm⟩
  · rw [hmemory] at h
    dsimp only [Storage.Backing.load] at h
    rw [Storage.Memory.load_eq hkey] at h
    exact nomatch h

/-- The stored state is compared, and nothing is recorded; there is an answer, unless the turn will not
be heard of. -/
theorem askStore_spec (hstore : IsMemory w.store) (hkey : c.key.join = .ok name) :
    Unmeasured w ((Manager.askStore c).run w).2 ∧
      ((∃ answer, ((Manager.askStore c).run w).1 = .ok answer) ∨
        ∃ f, Unheard c.before (inMemory w.store name) f ∧
          ((Manager.askStore c).run w).1 = .error f) := by
  obtain ⟨-, -, hloaded⟩ := Storage.load_isMemory hstore (Clocked.clock w).now c.key
  let load : Action (World ε) (Option State) :=
    Action.tryPart (Store.load (Clocked.clock w).now c.key)
  have hload : load.run w = ((w.store.load (Clocked.clock w).now c.key).1,
      { w with store := (w.store.load (Clocked.clock w).now c.key).2 }) := rfl
  have hrun : (Manager.askStore c).run w = (load.attempt.andThen _).run w := rfl
  rw [hrun, Action.run_attempt_andThen, hload]
  dsimp only
  cases hanswer : (w.store.load (Clocked.clock w).now c.key).1 with
  | error f =>
    obtain ⟨operation, record, cause, rfl⟩ := persistence_of_load hstore hkey hanswer
    exact ⟨rfl, .inl ⟨_, rfl⟩⟩
  | ok stored =>
    rw [hloaded stored name hkey hanswer]
    dsimp only
    cases hmatch : matchesStored c.before (inMemory w.store name) with
    | error f => exact ⟨rfl, .inr ⟨f, unheard_of_matchesStored hmatch, rfl⟩⟩
    | ok matching =>
      cases matching with
      | true => exact ⟨rfl, .inl ⟨_, rfl⟩⟩
      | false => exact ⟨rfl, .inl ⟨_, rfl⟩⟩

/-- The stored state is checked, unless the turn will not be heard of. -/
theorem checkState_spec (hstore : IsMemory w.store) (hkey : c.key.join = .ok name) :
    Unmeasured w ((m.checkState o c).run w).2 ∧
      ((∃ answer, ((m.checkState o c).run w).1 = .ok answer) ∨
        ∃ f, Unheard c.before (inMemory w.store name) f ∧
          ((m.checkState o c).run w).1 = .error f) := by
  unfold Manager.checkState
  split_ifs
  · exact askStore_spec hstore hkey
  · exact ⟨rfl, .inl ⟨_, rfl⟩⟩

/-- The baseline's failures are failures of the baseline. -/
theorem outcome_of_baseline {i : Interpreter} (hb : m.baseline = Engine.baseline i) (msg : Message)
    (w : World ε) :
    (∃ reply, (((m.baseline msg).inside : Action (World ε) Reply).run w).1 = .ok reply) ∨
      ∃ wording, (((m.baseline msg).inside : Action (World ε) Reply).run w).1 =
        .error (.baselineFailed wording) := by
  have hend := Action.mayEnd_of_inside (Action.mayEnd_run ((m.baseline msg).inside) w)
  cases houtcome : (((m.baseline msg).inside : Action (World ε) Reply).run w).1 with
  | ok reply => exact .inl ⟨reply, rfl⟩
  | error f =>
    rw [houtcome, hb] at hend
    obtain ⟨wording, rfl⟩ := fault_of_baseline hend
    exact .inr ⟨wording, rfl⟩

theorem run_emit (hm : m.hasMetrics = true) (e : FallbackEvent) (w : World ε) :
    (m.emit e).run w = (.ok (), { w with
      journal := w.journal.note e
      metrics := w.metrics.recordFallback e (some e.timestamp) }) := by
  unfold Manager.emit
  rw [hm]
  rfl

/-- To make up an event and record it tells the metrics of the turn. -/
theorem recounted_of_record (hm : m.hasMetrics = true) {i : Incident} {start : Seconds}
    {preserved leadOk succeeded : Bool} {actions : List RecoveryAction}
    {next : FallbackEvent → Action (World ε) Recovered}
    (hnext : ∀ e w', Told c succeeded w.metrics w'.metrics →
      Recounted c w.metrics ((next e).run w').2.metrics ((next e).run w').1) :
    let recorded := (Manager.event c i start preserved leadOk actions succeeded).andThen fun e =>
      (m.emit e).andThen fun _ => next e
    Recounted c w.metrics (recorded.run w).2.metrics (recorded.run w).1 := by
  intro recorded
  obtain ⟨e, htells, hevent⟩ : ∃ e : FallbackEvent, e.Tells c succeeded ∧
      (Manager.event c i start preserved leadOk actions succeeded).run w = (.ok e, w) :=
    ⟨_, ⟨rfl, rfl, rfl, rfl⟩, rfl⟩
  have hemit := run_emit hm e w
  have hrun : recorded.run w = (next e).run ((m.emit e).run w).2 := by
    rw [Action.run_andThen_of_ok _ _ w (congrArg Prod.fst hevent), hevent,
      Action.run_andThen_of_ok _ _ w (congrArg Prod.fst hemit)]
  rw [hrun, hemit]
  exact hnext e _ ⟨e, htells, rfl⟩

theorem run_checkStages (m : Manager ε) (o : FallbackOptions) (reply : Reply) (w : World ε) :
    ∃ answer, (m.checkStages o reply).run w = (.ok answer, w) := by
  unfold Manager.checkStages
  split_ifs
  · exact ⟨_, rfl⟩
  · exact ⟨_, rfl⟩

/-- **What is recounted of a recovery**, once the stored state is checked. -/
theorem recounted_of_recover {i : Interpreter} (hb : m.baseline = Engine.baseline i)
    (hm : m.hasMetrics = true) (incident : Incident) {answer : Bool × RecoveryAction}
    (hcheck : ((m.checkState o c).run w).1 = .ok answer)
    (hsame : Unmeasured w ((m.checkState o c).run w).2)
    (hcopy : c.before.mapM State.copy = .ok c.before) :
    Recounted c w.metrics ((m.recover c incident o).run w).2.metrics
      ((m.recover c incident o).run w).1 := by
  have hrun : (m.recover c incident o).run w = ((m.checkState o c).andThen _).run w := rfl
  rw [hrun, Action.run_andThen_of_ok _ _ w hcheck, ← hsame]
  generalize ((m.checkState o c).run w).2 = w₁
  obtain ⟨preserved, kept⟩ := answer
  dsimp only
  rw [hcopy]
  -- the baseline works in the surroundings, whatever it comes to
  have hbase := (untold_inside (m.baseline (c.message [])) w₁).2
  rw [← hbase]
  show Recounted c _ (Action.run (Action.andThen (Action.attempt _) _) w₁).2.metrics
    (Action.run (Action.andThen (Action.attempt _) _) w₁).1
  rw [Action.run_attempt_andThen]
  rcases outcome_of_baseline hb (c.message []) w₁ with ⟨reply, houtcome⟩ | ⟨wording, houtcome⟩
  · rw [houtcome]
    generalize (((m.baseline (c.message [])).inside : Action (World ε) Reply).run w₁).2 = w₂
    obtain ⟨⟨leadOk, staged⟩, hstages⟩ := run_checkStages m o reply w₂
    dsimp only
    rw [Action.bind_eq, Action.run_andThen_of_ok _ _ w₂ (congrArg Prod.fst hstages), hstages]
    exact recounted_of_record hm fun e w' htold => .recovered htold
  · rw [houtcome]
    exact recounted_of_record hm fun e w' htold => .refused htold

/-- Without an answer about the stored state, there is no recovery. -/
theorem recover_of_error (incident : Incident) {f : Fault}
    (hcheck : ((m.checkState o c).run w).1 = .error f) :
    (m.recover c incident o).run w = (.error f, ((m.checkState o c).run w).2) :=
  Action.run_andThen_of_error (m.checkState o c) _ w hcheck

end Recover

/-! ### Guarded turns -/

section Guard

variable [Clocked ε] {g : Guard ε} {c : FallbackContext} {o : FallbackOptions} {w : World ε}
  {name : String}

/-- How a turn ends that is left to the baseline. -/
theorem concluded_of_fallBack {i : Interpreter} (hb : g.manager.baseline = Engine.baseline i)
    (hm : g.manager.hasMetrics = true) (hstore : IsMemory w.store) (hkey : c.key.join = .ok name)
    (hcopy : c.before.mapM State.copy = .ok c.before) (incident : Incident) :
    Concluded c w.metrics ((g.fallBack c o incident).run w).2.metrics
        ((g.fallBack c o incident).run w).1 ∨
      ∃ f, Unheard c.before (inMemory w.store name) f ∧
        ((g.fallBack c o incident).run w).1 = .error f ∧
        ((g.fallBack c o incident).run w).2.metrics = w.metrics := by
  have hrun : (g.fallBack c o incident).run w =
      ((g.manager.recover c incident o).andThen _).run w := rfl
  obtain ⟨hsame, ⟨answer, hcheck⟩ | ⟨f, hunheard, hcheck⟩⟩ :=
    checkState_spec (m := g.manager) (o := o) hstore hkey
  · have hrecounted := recounted_of_recover hb hm incident hcheck hsame hcopy
    left
    cases houtcome : ((g.manager.recover c incident o).run w).1 with
    | ok r =>
      rw [houtcome] at hrecounted
      rw [hrun, Action.run_andThen_of_ok _ _ w houtcome]
      cases hrecounted with
      | recovered htold => exact .recovered htold
    | error f =>
      rw [houtcome] at hrecounted
      rw [hrun, Action.run_andThen_of_error _ _ w houtcome]
      cases hrecounted with
      | refused htold => exact .refused htold
  · have hfailed := recover_of_error incident hcheck
    right
    rw [hrun, Action.run_andThen_of_error _ _ w (congrArg Prod.fst hfailed), hfailed]
    exact ⟨f, hunheard, rfl, hsame⟩

/-- The engine at work, with its copy of the state, within its limit. -/
def Guard.trial (g : Guard ε) (c : FallbackContext) (modules : List Capability) :
    Action (World ε) (Action.Timed Reply × Objects) :=
  (Action.within (Seconds.ofNumber g.limit)
    (Objects.hand Objects.copy (g.primary (c.message modules)))).withOwn
      (Objects.ofTurn c.before c.before)

/-- The engine knows its surroundings and its copy of the state, and nothing of the metrics. -/
theorem untold_trial (g : Guard ε) (c : FallbackContext) (modules : List Capability) (w : World ε) :
    Untold w ((g.trial c modules).run w).2 := by
  have hhand : (Objects.hand Objects.copy (g.primary (c.message modules))).Idle
      fun v w : World ε × Objects => Untold v.1 w.1 := Action.idle_through fun _ _ => ⟨rfl, rfl⟩
  exact untold_of_run ((hhand.within _).withOwn _) w

/-- The trial never fails, and leaves the state of the turn alone. -/
theorem outcome_of_trial (g : Guard ε) (c : FallbackContext) (modules : List Capability)
    (w : World ε) : ∃ outcome objects, ((g.trial c modules).run w).1 = .ok (outcome, objects) ∧
      Objects.read objects Objects.original = c.before := by
  have hend := Action.mayEnd_run (g.trial c modules) w
  cases houtcome : ((g.trial c modules).run w).1 with
  | error f =>
    rw [houtcome] at hend
    obtain ⟨t, ht⟩ := Action.mayEnd_within (Action.mayEnd_of_withOwn_error hend)
    exact nomatch ht
  | ok out =>
    rw [houtcome] at hend
    exact ⟨out.1, out.2, rfl, (kept_of_hand hend).1⟩

/-- After the trial, a turn is what is concluded from its outcome. -/
theorem run_of_trial {modules : List Capability} {outcome : Action.Timed Reply} {objects : Objects}
    (hcopy : c.before.mapM State.copy = .ok c.before)
    (h : ((g.trial c modules).run w).1 = .ok (outcome, objects)) :
    (g.run c modules o).run w =
      (g.conclude { c with before := Objects.read objects Objects.original } o outcome).run
        ((g.trial c modules).run w).2 := by
  have hkeeping : g.runKeeping c modules o =
      (g.trial c modules).andThen fun trial =>
        (g.conclude { c with before := Objects.read trial.2 Objects.original } o trial.1).andThen
          fun guarded => Action.result (guarded, Objects.read trial.2 Objects.original) := by
    unfold Guard.runKeeping
    rw [hcopy]
    rfl
  have hrun : (g.run c modules o).run w =
      ((g.runKeeping c modules o).andThen fun out => Action.result out.1).run w := rfl
  rw [hrun, Action.run_andThen_result, hkeeping, Action.run_andThen_of_ok _ _ w h]
  dsimp only [Action.bind_eq]
  show (Except.map Prod.fst (Action.run (Action.andThen _ fun guarded =>
    Action.result (guarded, Objects.read objects Objects.original)) _).1,
      (Action.run (Action.andThen _ fun guarded =>
        Action.result (guarded, Objects.read objects Objects.original)) _).2) = _
  rw [Action.run_andThen_result]
  refine Prod.ext ?_ rfl
  cases ((g.conclude { c with before := Objects.read objects Objects.original } o outcome).run
    ((g.trial c modules).run w).2).1 <;> rfl

/-- A turn whose state cannot be copied does nothing. -/
theorem run_of_uncopied {modules : List Capability} {f : Fault}
    (hcopy : c.before.mapM State.copy = .error f) :
    (g.run c modules o).run w = (.error f, w) := by
  unfold Guard.run Guard.runKeeping
  rw [hcopy]
  rfl

/-- A guarded turn is concluded, unless nobody hears of it. -/
theorem concluded_or_unheard {i : Interpreter} (hb : g.manager.baseline = Engine.baseline i)
    (hm : g.manager.hasMetrics = true) (modules : List Capability) (hstore : IsMemory w.store)
    (hkey : c.key.join = .ok name) :
    Concluded c w.metrics ((g.run c modules o).run w).2.metrics ((g.run c modules o).run w).1 ∨
      ∃ f, Unheard c.before (inMemory w.store name) f ∧
        ((g.run c modules o).run w).1 = .error f ∧
        ((g.run c modules o).run w).2.metrics = w.metrics := by
  cases hcopied : c.before.mapM State.copy with
  | error f =>
    rw [run_of_uncopied hcopied]
    exact .inr ⟨f, unheard_of_mapM_copy _ hcopied, rfl, rfl⟩
  | ok copied =>
    have hcopy := (State.mapM_copy_eq_ok hcopied).2
    obtain ⟨outcome, objects, htrial, hbefore⟩ := outcome_of_trial g c modules w
    obtain ⟨hkept, hsilent⟩ := untold_trial g c modules w
    rw [run_of_trial hcopy htrial, hbefore]
    have hfall (incident : Incident) :=
      concluded_of_fallBack (o := o) hb hm (hkept.symm ▸ hstore) hkey hcopy incident
    rw [hkept, hsilent] at hfall
    cases outcome with
    | late elapsed => exact hfall _
    | failed f => exact hfall _
    | done reply =>
      unfold Guard.conclude
      dsimp only
      split_ifs with hdegraded
      · exact hfall _
      · exact .inl (.own (Bool.eq_false_iff.mpr hdegraded) hsilent)

/-- **What the metrics get to know of a guarded turn.**  The enhanced engine may do anything.  Either
its reply counts, and the metrics get no event; or the turn gives a reply of the baseline, or fails
with a failure of the baseline, and the metrics get one event, which tells of this turn.  The turn
fails in another way, and the metrics get nothing, only where the stored state and that of the turn
have one version, and the variables of one of them have names of both kinds; or where one of the two
cannot be copied, or its content cannot be written, for a limit.  That never happens where all names
are texts, as they are in conversations whose questions keep no answer under a number, and no limit is
met. -/
theorem recorded_of_run (g : Guard ε) (i : Interpreter)
    (hb : g.manager.baseline = Engine.baseline i) (hm : g.manager.hasMetrics = true)
    (c : FallbackContext) (modules : List Capability) (o : FallbackOptions) {w : World ε}
    (hstore : IsMemory w.store) (hkey : c.key.join = .ok name) :
    (Concluded c w.metrics ((g.run c modules o).run w).2.metrics ((g.run c modules o).run w).1 ∨
      ∃ f, Unheard c.before (inMemory w.store name) f ∧
        ((g.run c modules o).run w).1 = .error f ∧
        ((g.run c modules o).run w).2.metrics = w.metrics) ∧
    ((∀ s, c.before = some s → s.slots = [] ∧ ∀ f, ¬ Meets s f) →
      (∀ s, inMemory w.store name = some s → s.slots = [] ∧ ∀ f, ¬ Meets s f) →
      Concluded c w.metrics ((g.run c modules o).run w).2.metrics ((g.run c modules o).run w).1) := by
  have hends := concluded_or_unheard (o := o) hb hm modules hstore hkey
  refine ⟨hends, fun hbefore hheld => ?_⟩
  rcases hends with h | ⟨f, hunheard, -⟩
  · exact h
  · exact absurd hunheard (not_unheard hbefore hheld)

end Guard

/-- An engine that always fails, with all the rest behind it. -/
def failingGuard : Guard Clock :=
  ⟨scribbler, ⟨Engine.baseline {}, .default, true, true, false⟩, 5⟩

/-- The first answer of a conversation that is not stored yet; the engine wipes its state, and the
baseline does the turn. -/
theorem recorded_of_run_answering :
    failingGuard.manager.baseline = Engine.baseline {} ∧ IsMemory freshWorld.store ∧
      answering.key.join = .ok "acme:ann:1" ∧
      Concluded answering freshWorld.metrics
        ((failingGuard.run answering [] {}).run freshWorld).2.metrics
        ((failingGuard.run answering [] {}).run freshWorld).1 := by
  have hstore : IsMemory freshWorld.store := ⟨_, rfl⟩
  have hkey : answering.key.join = .ok "acme:ann:1" := rfl
  have hconcluded := (recorded_of_run failingGuard {} rfl rfl answering [] {} hstore hkey).2
    (fun s hs => Option.some.inj hs ▸ ⟨rfl, not_meets (by decide) (by decide) (by decide)⟩)
    fun s hs => nomatch hs
  exact ⟨rfl, hstore, hkey, hconcluded⟩

/-! ### A number for a name -/

section Quiz

open Conversation (Exchange Move)

/-- Three questions.  The answer to the first one is kept under a number. -/
def quiz : Value :=
  .object [("id", .text "quiz"), ("entryNodeId", .text "age"), ("nodes", .list [
    .object [("id", .text "age"), ("type", .text "input"), ("content", .text "How old are you?"),
      ("variableName", .int 5), ("next", .text "name")],
    .object [("id", .text "name"), ("type", .text "input"), ("content", .text "Your name?"),
      ("variableName", .text "name"), ("next", .text "city")],
    .object [("id", .text "city"), ("type", .text "input"), ("content", .text "Your city?"),
      ("variableName", .text "city"), ("next", .text "bye")],
    .object [("id", .text "bye"), ("type", .text "end"), ("content", .text "Thanks!")]])]

def quizAnswers : List Move :=
  [.message (some "30") none ⟨1, none⟩, .message (some "Ann") none ⟨2, none⟩]

/-- Stores one state after the other, each in the place of the one before. -/
def storeAll (store : Store) (states : List State) : Store :=
  (states.foldl (fun (store, version) s => ((store.save s version).2, version + 1)) (store, 0)).1

/-- The next answer in a conversation, all of which is stored. -/
def nextAnswer (graph : Template.FlowGraph) (exchanges : List Exchange) : FallbackContext where
  graph := graph
  key := Conversation.caller
  templateId := "quiz"
  before := exchanges.getLast?.map fun e =>
    { e.reply.state with version := (exchanges.length : Int) }
  text := some "Paris"

def quizWorld (exchanges : List Exchange) : World Clock :=
  { freshWorld with store := storeAll freshWorld.store (exchanges.map fun e => e.reply.state) }

/-- **A failed turn that nobody hears of.**  A conversation in an accepted template, kept by the store
of the process: with an answer under a number and one under a text, the next turn fails, not with a
failure of the baseline, and the metrics get no event. -/
theorem unrecorded_quiz : ∃ graph exchanges,
    Template.readGraph quiz .null .null = .ok graph ∧
      ({} : Interpreter).converse graph Conversation.caller (some "hi") ⟨0, none⟩ quizAnswers =
        (exchanges, none) ∧
      ((failingGuard.run (nextAnswer graph exchanges) [] {}).run (quizWorld exchanges)).1 =
          .error noOrder ∧
        ((failingGuard.run (nextAnswer graph exchanges) [] {}).run
          (quizWorld exchanges)).2.metrics.fallbackEvents "acme" 10 = [] := by
  have h : ((Template.readGraph quiz .null .null).toOption.any fun graph =>
      let course := ({} : Interpreter).converse graph Conversation.caller (some "hi") ⟨0, none⟩
        quizAnswers
      let turn := (failingGuard.run (nextAnswer graph course.1) [] {}).run (quizWorld course.1)
      course.2.isNone && (match turn.1 with
        | .ok _ => false
        | .error f => f = noOrder) &&
          decide (turn.2.metrics.fallbackEvents "acme" 10 = [])) = true := by decide +kernel
  obtain ⟨graph, hread, h⟩ := exists_of_any h
  obtain ⟨h, hevents⟩ := Bool.and_eq_true_iff.mp h
  obtain ⟨hnone, hfault⟩ := Bool.and_eq_true_iff.mp h
  refine ⟨graph, _, hread, Prod.ext rfl (Option.isNone_iff_eq_none.mp hnone), ?_,
    of_decide_eq_true hevents⟩
  split at hfault
  · exact nomatch hfault
  · rename_i f hturn
    exact hturn.trans (congrArg Except.error (of_decide_eq_true hfault))

end Quiz

end Parley.Recovery
