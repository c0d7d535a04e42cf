import Parley.Proofs.Action.Endings
import Parley.Proofs.Conversation.Frame
import Parley.Recovery.Guard

/-!
# Parley.Proofs.Recovery.Replay — a failed turn is done again as if for the first time

The enhanced engine of a guard may do anything: reply, fail, take too long, and write to the state
that it is handed.  `replays_of_runKeeping`: what the guard gives in the end is the engine's own
reply, or that of the plain interpreter on the state as it was; and that state is left alone.
-/

namespace Parley.Recovery

open Conversation (Interpreter Reply State)
open Time (Clocked Seconds)

variable {ε α : Type}

/-! ### The object that is handed out -/

section Hand

variable {address : Nat} {objects objects' : Objects}

theorem read_set (h : address < objects.length) (state : Option State) :
    Objects.read (objects.set address state) address = state := by
  unfold Objects.read
  rw [List.getElem?_set_self h]
  rfl

/-- Whatever an engine does within a limit, it changes no object but the one that it is handed. -/
theorem mayLeave_upTo_hand [Clocked ε] {y : Action (Handed ε) α} {start limit : Seconds}
    {t : Action.Timed α} (ha : address < objects.length)
    (h : ((Objects.hand address y).upTo start limit).MayLeave objects (.ok t) objects') :
    (∀ other, other ≠ address → objects'[other]? = objects[other]?) ∧
      ∀ o, t = .ofOutcome o → ∃ object, y.MayLeave (Objects.read objects address) o object := by
  induction y generalizing objects with
  | finished outcome =>
    obtain ⟨ht, rfl⟩ := Action.mayLeave_finished h
    refine ⟨fun _ _ => rfl, fun o ho => ⟨Objects.read objects' address, ?_⟩⟩
    rw [Action.Timed.ofOutcome_inj (ho.symm.trans (Except.ok.inj ht))]
    exact .finished outcome _
  | look next ih =>
    obtain ⟨w, h⟩ := Action.mayLeave_look h
    obtain ⟨hframe, hown⟩ := ih (w.surroundings, Objects.read objects address) ha h
    refine ⟨hframe, fun o ho => ?_⟩
    obtain ⟨object, hy⟩ := hown o ho
    exact ⟨object, .look w.surroundings hy⟩
  | put part next ih =>
    obtain ⟨w, h⟩ := Action.mayLeave_look h
    have hlength : address < (objects.set address part.2).length := by rwa [List.length_set]
    obtain ⟨hframe, hown⟩ := ih hlength (Action.mayLeave_put h)
    refine ⟨fun other ho => ?_, fun o ho => ?_⟩
    · rw [hframe other ho, List.getElem?_set_ne ho.symm]
    · obtain ⟨object, hy⟩ := hown o ho
      rw [read_set ha] at hy
      exact ⟨object, .put hy⟩
  | pause wake next ih =>
    unfold Objects.hand Action.through Action.upTo at h
    split_ifs at h
    · obtain ⟨hframe, hown⟩ := ih ha (Action.mayLeave_pause h)
      refine ⟨hframe, fun o ho => ?_⟩
      obtain ⟨object, hy⟩ := hown o ho
      exact ⟨object, .pause hy⟩
    · obtain ⟨w, h⟩ := Action.mayLeave_look (Action.mayLeave_pause h)
      split_ifs at h
      · obtain ⟨hframe, hown⟩ := ih ha h
        refine ⟨hframe, fun o ho => ?_⟩
        obtain ⟨object, hy⟩ := hown o ho
        exact ⟨object, .pause hy⟩
      · obtain ⟨ht, rfl⟩ := Action.mayLeave_finished h
        refine ⟨fun _ _ => rfl, fun o ho => ?_⟩
        rw [Except.ok.inj ht] at ho
        cases o <;> cases ho

/-- An engine works on the copy: the original stays as it was, and what is in time is an ending of the
engine. -/
theorem kept_of_hand [Clocked ε] {y : Action (Handed ε) α} {span : Seconds} {before : Option State}
    {t : Action.Timed α}
    (h : ((Action.within span (Objects.hand Objects.copy y)).withOwn
      (Objects.ofTurn before before)).MayEnd (.ok (t, objects))) :
    Objects.read objects Objects.original = before ∧
      ∀ o, t = .ofOutcome o → ∃ object, y.MayLeave before o object := by
  rcases Action.mayLeave_within (Action.mayEnd_withOwn.mp h) with
    ⟨rfl, elapsed, rfl⟩ | ⟨start, limit, hupTo⟩
  · exact ⟨rfl, fun o ho => by cases o <;> exact nomatch ho⟩
  · obtain ⟨hframe, hown⟩ := mayLeave_upTo_hand Nat.one_lt_two hupTo
    exact ⟨congrArg Option.join (hframe Objects.original Nat.zero_ne_one), hown⟩

end Hand

/-! ### The baseline behind a guard -/

section Baseline

variable [Clocked ε]

theorem step_of_baseline {i : Interpreter} {m : Message} {reply : Reply}
    (h : (Engine.baseline i m : Action ε Reply).MayEnd (.ok reply)) :
    ∃ now : Time.Moment, now.Proper ∧ i.step m.graph m.state m.text m.session now = .ok reply := by
  obtain ⟨now, hnow, h⟩ := Action.mayEnd_andThen_ok.mp (Action.mayEnd_mapFault_ok.mp h)
  exact ⟨now, Action.proper_of_now hnow, (Action.mayEnd_ofExcept.mp h).symm⟩

theorem run_baseline {i : Interpreter} {m : Message} {reply : Reply} (w : ε)
    (h : i.step m.graph m.state m.text m.session (Clocked.clock w).now = .ok reply) :
    ((Engine.baseline i m : Action ε Reply).run w).1 = .ok reply := by
  simp [Engine.baseline, Engine.interpret, Action.mapFault, Action.recover, Action.now,
    Action.andThen, Action.attempt, Action.result, Action.ofExcept, Action.run, h]

/-- A recovery gives a reply of its baseline. -/
theorem baseline_of_recover {m : Manager ε} {c : FallbackContext} {i : Incident}
    {o : FallbackOptions} {r : Recovered} (h : (m.recover c i o).MayEnd (.ok r)) :
    (m.baseline (c.message [])).MayEnd (.ok r.reply) := by
  obtain ⟨start, -, h⟩ := Action.mayEnd_andThen_ok.mp h
  obtain ⟨⟨preserved, kept⟩, -, h⟩ := Action.mayEnd_andThen_ok.mp h
  obtain ⟨before, hbefore, h⟩ := Action.mayEnd_andThen_ok.mp h
  obtain ⟨rfl, -⟩ := State.mapM_copy_eq_ok (Action.mayEnd_ofExcept.mp hbefore).symm
  obtain ⟨outcome, hbase, h⟩ := Action.mayEnd_andThen_ok.mp h
  obtain ⟨o', hbase, ho⟩ := Action.mayEnd_attempt.mp hbase
  rw [Except.ok.inj ho] at h
  cases o' with
  | ok reply =>
    obtain ⟨⟨leadOk, staged⟩, -, h⟩ := Action.mayEnd_andThen_ok.mp h
    obtain ⟨e, -, h⟩ := Action.mayEnd_andThen_ok.mp h
    obtain ⟨-, -, h⟩ := Action.mayEnd_andThen_ok.mp h
    rw [Except.ok.inj (Action.mayEnd_result.mp h)]
    exact Action.mayEnd_of_inside hbase
  | error f =>
    dsimp only at h
    split at h
    · obtain ⟨e, -, h⟩ := Action.mayEnd_andThen_ok.mp h
      obtain ⟨-, -, h⟩ := Action.mayEnd_andThen_ok.mp h
      exact nomatch Action.mayEnd_fail.mp h
    · exact nomatch Action.mayEnd_fail.mp h

variable {g : Guard ε} {i : Interpreter} {c : FallbackContext} {o : FallbackOptions}

/-- Where the reply of a guard comes from: with a recovery it is the interpreter's, and without one
it is the engine's own, and not degraded. -/
structure Origin (g : Guard ε) (i : Interpreter) (c : FallbackContext)
    (modules : List Capability) (guarded : Guarded) : Prop where
  replayed : guarded.recovered.isSome = true → guarded.path = .baseline ∧
    ∃ now : Time.Moment, now.Proper ∧
      i.step c.graph c.before c.text (some c.key) now = .ok guarded.reply
  own : guarded.recovered = none → guarded.path = .enhanced ∧ guarded.reply.degraded = false ∧
    ∃ object, (g.primary (c.message modules)).MayLeave c.before (.ok guarded.reply) object

theorem origin_of_fallBack (hb : g.manager.baseline = Engine.baseline i) {incident : Incident}
    {modules : List Capability} {guarded : Guarded}
    (h : (g.fallBack c o incident).MayEnd (.ok guarded)) : Origin g i c modules guarded := by
  obtain ⟨r, hrecover, hend⟩ := Action.mayEnd_andThen_ok.mp h
  have hbase := baseline_of_recover hrecover
  rw [hb] at hbase
  have hreplayed := step_of_baseline hbase
  rw [Except.ok.inj (Action.mayEnd_result.mp hend)]
  exact ⟨fun _ => ⟨rfl, hreplayed⟩, fun hnone => nomatch hnone⟩

/-- Whatever came of the enhanced engine, the guard's reply has its origin in it or in the
interpreter. -/
theorem origin_of_conclude (hb : g.manager.baseline = Engine.baseline i)
    {modules : List Capability} {guarded : Guarded} {outcome : Action.Timed Reply}
    (howned : ∀ reply, outcome = .done reply →
      ∃ object, (g.primary (c.message modules)).MayLeave c.before (.ok reply) object)
    (h : (g.conclude c o outcome).MayEnd (.ok guarded)) : Origin g i c modules guarded := by
  cases outcome with
  | late elapsed => exact origin_of_fallBack hb h
  | failed f => exact origin_of_fallBack hb h
  | done reply =>
    unfold Guard.conclude at h
    dsimp only at h
    cases hd : reply.degraded with
    | true =>
      rw [if_pos hd] at h
      exact origin_of_fallBack hb h
    | false =>
      rw [if_neg (by rw [hd]; exact Bool.false_ne_true)] at h
      rw [Except.ok.inj (Action.mayEnd_result.mp h)]
      exact ⟨fun hsome => (nomatch hsome), fun _ => ⟨rfl, hd, howned reply rfl⟩⟩

/-- A guarded turn leaves alone the state that it starts with. -/
theorem origin_of_runKeeping (hb : g.manager.baseline = Engine.baseline i)
    {modules : List Capability} {guarded : Guarded} {after : Option State}
    (h : (g.runKeeping c modules o).MayEnd (.ok (guarded, after))) :
    after = c.before ∧ Origin g i c modules guarded := by
  obtain ⟨copied, hcopied, h⟩ := Action.mayEnd_andThen_ok.mp h
  obtain ⟨rfl, -⟩ := State.mapM_copy_eq_ok (Action.mayEnd_ofExcept.mp hcopied).symm
  obtain ⟨⟨outcome, objects⟩, hwork, h⟩ := Action.mayEnd_andThen_ok.mp h
  obtain ⟨guarded', hconclude, hend⟩ := Action.mayEnd_andThen_ok.mp h
  obtain ⟨rfl, rfl⟩ := Prod.mk.inj (Except.ok.inj (Action.mayEnd_result.mp hend))
  obtain ⟨hsame, hown⟩ := kept_of_hand hwork
  rw [hsame] at hconclude
  exact ⟨hsame, origin_of_conclude hb (fun reply hr => hown (.ok reply) hr) hconclude⟩

end Baseline

/-! ### The whole turn -/

section Turn

variable [Clocked ε]

/-- **A guarded turn replays from the state as it was.**  Whatever the enhanced engine does, and
whatever others do meanwhile: the state that the turn started with is left alone; with a recovery
the reply is that of the plain interpreter on that state, and at any moment the baseline gives this
reply but for the times in it; without a recovery it is the engine's own, and not degraded. -/
theorem replays_of_runKeeping (g : Guard ε) (i : Interpreter)
    (hb : g.manager.baseline = Engine.baseline i) (c : FallbackContext)
    (modules : List Capability) (o : FallbackOptions) {guarded : Guarded} {after : Option State}
    (h : (g.runKeeping c modules o).MayEnd (.ok (guarded, after))) :
    after = c.before ∧
      (guarded.recovered.isSome = true → guarded.path = .baseline ∧
        (∃ now, i.step c.graph c.before c.text (some c.key) now = .ok guarded.reply) ∧
        ∀ w : ε, ∃ reply, ((Engine.baseline i (c.message [])).run w).1 = .ok reply ∧
          guarded.reply.Agrees reply) ∧
      (guarded.recovered = none → guarded.path = .enhanced ∧ guarded.reply.degraded = false ∧
        ∃ object,
          (g.primary (c.message modules)).MayLeave c.before (.ok guarded.reply) object) := by
  obtain ⟨hafter, horigin⟩ := origin_of_runKeeping hb h
  refine ⟨hafter, fun hsome => ?_, horigin.own⟩
  obtain ⟨hpath, now, -, hstep⟩ := horigin.replayed hsome
  refine ⟨hpath, ⟨now, hstep⟩, fun w => ?_⟩
  obtain ⟨reply, hreply, hagrees⟩ := i.step_agrees c.graph hstep (Clocked.clock w).now
  exact ⟨reply, run_baseline w hreply, hagrees⟩

end Turn

/-! ### An engine that scribbles -/

section Scribbler

def question : Template.FlowNode :=
  ⟨"ask", .input, "Your name?", [], some "bye", [], none, .null, .text "name", .null, none, [],
    .null, []⟩

def farewell : Template.FlowNode :=
  ⟨"bye", .terminal, "Bye, {name}!", [], none, [], none, .null, .null, .null, none, [], .null, []⟩

/-- A question and a farewell. -/
def greeting : Template.FlowGraph :=
  ⟨"greeting", "1", "ask", [("ask", question), ("bye", farewell)], .null, .null, []⟩

/-- The question was asked. -/
def waiting : State where
  flowId := .text "greeting"
  tenantId := .text "acme"
  userId := .text "ann"
  sessionId := .text "1"
  currentNodeId := .text "ask"
  context := []
  history := [.text "ask"]
  startedAt := ⟨0, none⟩
  lastUpdatedAt := ⟨0, none⟩
  completed := false
  version := 1

/-- The answer comes. -/
def answering : FallbackContext := ⟨greeting, waiting.key, "greeting", some waiting, some "Ann"⟩

/-- An engine that wipes the state that it is handed out, and then fails. -/
def scribbler : Engine (Handed Time.Clock) := fun _ =>
  Action.look fun w => Action.put (w.1, none) (Action.fail (.surprise "boom"))

def scribblerGuard : Guard Time.Clock :=
  ⟨scribbler, ⟨Engine.baseline {}, .default, false, false, false⟩, 5⟩

/-- A world in which nothing has happened yet. -/
def freshWorld : World Time.Clock where
  surroundings := ⟨0, 0, ⟨0, none⟩⟩
  store := .ofMemory .empty
  metrics := .new .default
  ledger := .new Stages.Ledger.defaultMaxEntries
  journal := .new 10
  retry := ⟨.default, .empty, 0⟩
  registry := .empty
  router := .new .default
  locks := .empty
  advances := []

theorem recovers_scribblerGuard : ∃ guarded after,
    (scribblerGuard.runKeeping answering [] {}).MayEnd (.ok (guarded, after)) ∧
      guarded.recovered.isSome = true := by
  have hrun : ((scribblerGuard.runKeeping answering [] {}).run freshWorld).1.toOption.any
      (·.1.recovered.isSome) = true := by decide +kernel
  have hend := Action.mayEnd_run (scribblerGuard.runKeeping answering [] {}) freshWorld
  obtain ⟨out, houtcome, hrun⟩ := exists_of_any hrun
  rw [houtcome] at hend
  exact ⟨out.1, out.2, hend, hrun⟩

/-- The scribbler's answer is taken by the interpreter, and the question's state is not wiped. -/
theorem replays_of_runKeeping_scribbler : ∃ guarded after,
    (scribblerGuard.runKeeping answering [] {}).MayEnd (.ok (guarded, after)) ∧
      after = some waiting ∧ guarded.path = .baseline ∧
      (∃ now, Interpreter.step {} greeting (some waiting) (some "Ann") (some waiting.key) now =
        .ok guarded.reply) ∧
      ∀ w : Time.Clock, ∃ reply,
        ((Engine.baseline {} (answering.message [])).run w).1 = .ok reply ∧
          guarded.reply.Agrees reply := by
  obtain ⟨guarded, after, hend, hsome⟩ := recovers_scribblerGuard
  obtain ⟨hafter, hreplayed, -⟩ := replays_of_runKeeping scribblerGuard {} rfl answering [] {} hend
  obtain ⟨hpath, hstep, hagain⟩ := hreplayed hsome
  exact ⟨guarded, after, hend, hafter, hpath, hstep, hagain⟩

end Scribbler

end Parley.Recovery
