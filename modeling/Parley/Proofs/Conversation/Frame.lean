import Mathlib.Tactic.SplitIfs
import Parley.Conversation.Interpreter

/-!
# Parley.Proofs.Conversation.Frame — changes of a reply that a run does not notice

`Reply.Framing change`: what nodes do to a reply, they do to the changed reply in the same way.  It
is enough to say this of the few operations that nodes are made of; `Framing.run` is what follows for
a whole run.

An interpreter reads the clock for the two times of a state and for nothing else, so that other times
are such a change.  `step_agrees`: at two moments it gives the same reply, but for these times.
-/

namespace Parley.Conversation

open Template (FlowGraph FlowNode)
open Time (Moment)

namespace Reply

/-- A change of replies that the operations of nodes neither see nor undo. -/
structure Framing (change : Reply → Reply) : Prop where
  context (r : Reply) : (change r).state.context = r.state.context
  say (r : Reply) (node : FlowNode) (text : String) :
    (change r).say node text = change (r.say node text)
  setContext (r : Reply) (context : Fields Value) :
    (change r).setContext context = change (r.setContext context)
  keep (r : Reply) (name answer : Value) :
    ((change r).state.keep name answer).map
        (fun s => { change r with state := s, captured := some true }) =
      (r.state.keep name answer).map
        fun s => change { r with state := s, captured := some true }
  finish (r : Reply) : (change r).finish = change r.finish
  enter (r : Reply) (node : FlowNode) : (change r).enter node = change (r.enter node)
  degrade (r : Reply) (wording : String) : (change r).degrade wording = change (r.degrade wording)

namespace Framing

variable {change : Reply → Reply} (h : Framing change) (r : Reply) (node : FlowNode)
include h

theorem prompt : (change r).prompt node = (r.prompt node).map change := by
  unfold Reply.prompt
  rw [h.context]
  cases node.fill r.state.context with
  | error fault => rfl
  | ok text => exact congrArg Except.ok (h.say r node text)

theorem follow :
    (change r).follow node = ((r.follow node).1, change (r.follow node).2) := by
  unfold Reply.follow
  split
  · rw [h.finish]
  · rfl

theorem executeMessage :
    (change r).executeMessage node =
      (r.executeMessage node).map fun out => (out.1, change out.2) := by
  unfold Reply.executeMessage
  rw [h.context]
  cases applyMutations node r.state.context with
  | error fault => rfl
  | ok context =>
    dsimp only [bind, Except.bind]
    cases node.fill context with
    | error fault => rfl
    | ok text =>
      dsimp only [Except.map]
      rw [h.setContext, h.say, h.follow]

theorem executeInput (text : String) :
    (change r).executeInput node text =
      (r.executeInput node text).map fun out => (out.1, change out.2) := by
  have hstore (r : Reply) : r.executeInput node text =
      ((r.state.keep (node.variableName.orElse (.text node.id)) (.text text)).map
        fun s => { r with state := s, captured := some true }).map (·.follow node) := by
    unfold Reply.executeInput
    cases r.state.keep (node.variableName.orElse (.text node.id)) (.text text) <;> rfl
  rw [hstore, hstore, h.keep]
  cases r.state.keep (node.variableName.orElse (.text node.id)) (.text text) with
  | error fault => rfl
  | ok state => exact congrArg Except.ok (h.follow _ node)

theorem executeCondition (text : String) :
    (change r).executeCondition node text =
      (r.executeCondition node text).map fun out => (out.1, change out.2) := by
  unfold Reply.executeCondition
  rw [h.context]
  cases firstBranch text r.state.context node.branches with
  | error fault => rfl
  | ok target =>
    cases target with
    | some target => rfl
    | none =>
      cases hf : node.fallback with
      | some target => simp only [bind, Except.bind, Except.map]
      | none =>
        simp only [bind, Except.bind, h.prompt]
        cases r.prompt node <;> rfl

theorem execute (text : Option String) :
    (change r).execute node text =
      (r.execute node text).map fun out => (out.1, change out.2) := by
  unfold Reply.execute
  cases node.kind with
  | message | action => exact h.executeMessage r node
  | input =>
    cases text with
    | none => rfl
    | some text => exact h.executeInput r node text
  | condition =>
    cases text with
    | none => rfl
    | some text => exact h.executeCondition r node text
  | terminal =>
    dsimp only
    rw [h.finish]
    rfl

theorem arrive :
    (change r).arrive node = (r.arrive node).map fun out => (out.1, change out.2) := by
  unfold Reply.arrive
  dsimp only
  rw [h.enter, h.prompt]
  split_ifs
  · cases (r.enter node).prompt node <;> rfl
  · cases (r.enter node).prompt node with
    | error fault => rfl
    | ok r' => exact congrArg (fun r => Except.ok (true, r)) (h.finish r')
  · rfl

/-- **A run does not notice the change.** -/
theorem run (graph : FlowGraph) (limit : Nat) (text : Option String) :
    (change r).run graph limit node text = (r.run graph limit node text).map change := by
  induction limit generalizing r node text with
  | zero =>
    show Except.ok ((change r).degrade tooManySteps) = .ok (change (r.degrade tooManySteps))
    rw [h.degrade]
  | succ limit ih =>
    unfold Reply.run
    rw [h.execute]
    cases r.execute node text with
    | error fault =>
      dsimp only [Except.map]
      rw [h.degrade]
    | ok out =>
      obtain ⟨target, r'⟩ := out
      cases target with
      | none => rfl
      | some id =>
        dsimp only [Except.map]
        cases graph.node? id with
        | none => rfl
        | some next =>
          dsimp only
          rw [h.arrive]
          cases r'.arrive next with
          | error fault => rfl
          | ok out =>
            dsimp only [bind, Except.bind, Except.map]
            split_ifs
            · rfl
            · exact ih _ _ _

theorem enterAndRun (i : Interpreter) (graph : FlowGraph) :
    i.enterAndRun graph node (change r) = (i.enterAndRun graph node r).map change := by
  unfold Interpreter.enterAndRun
  rw [h.arrive]
  cases r.arrive node with
  | error fault => rfl
  | ok out =>
    dsimp only [bind, Except.bind, Except.map]
    split_ifs
    · rfl
    · exact h.run _ _ _ _ _

/-! Replies that the change leaves as they are -/

variable {r} (hr : change r = r)
include hr

theorem execute_fixed {text : Option String} {out : Option String × Reply}
    (hout : r.execute node text = .ok out) : change out.2 = out.2 := by
  have hchanged := h.execute r node text
  rw [hr, hout] at hchanged
  exact (congrArg Prod.snd (Except.ok.inj hchanged)).symm

theorem arrive_fixed {out : Bool × Reply} (hout : r.arrive node = .ok out) :
    change out.2 = out.2 := by
  have hchanged := h.arrive r node
  rw [hr, hout] at hchanged
  exact (congrArg Prod.snd (Except.ok.inj hchanged)).symm

theorem run_fixed {graph : FlowGraph} {limit : Nat} {text : Option String} {r' : Reply}
    (hrun : r.run graph limit node text = .ok r') : change r' = r' := by
  have hchanged := h.run r node graph limit text
  rw [hr, hrun] at hchanged
  exact (Except.ok.inj hchanged).symm

end Framing

end Reply

/-! ### Replies that differ in times only -/

/-- The reply with other times. -/
def Reply.retime (started updated : Moment) (r : Reply) : Reply :=
  { r with state := { r.state with startedAt := started, lastUpdatedAt := updated } }

/-- The replies differ at most in the times of the state. -/
def Reply.Agrees (r r' : Reply) : Prop :=
  r' = r.retime r'.state.startedAt r'.state.lastUpdatedAt

namespace Reply

variable {started updated : Moment} {r r' r'' : Reply}

theorem Agrees.refl (r : Reply) : r.Agrees r := rfl

theorem agrees_iff (started updated : Moment) :
    r.Agrees r' ↔ r.retime started updated = r'.retime started updated := by
  unfold Agrees
  constructor
  · intro h
    rw [h]
    rfl
  · intro h
    have hback : ∀ p : Reply, p = (p.retime started updated).retime p.state.startedAt
        p.state.lastUpdatedAt := fun _ => rfl
    rw [hback r', ← h]
    rfl

theorem Agrees.symm (h : r.Agrees r') : r'.Agrees r :=
  (agrees_iff r.state.startedAt r.state.startedAt).mpr ((agrees_iff _ _).mp h).symm

theorem Agrees.trans (h : r.Agrees r') (h' : r'.Agrees r'') : r.Agrees r'' :=
  (agrees_iff r.state.startedAt r.state.startedAt).mpr
    (((agrees_iff _ _).mp h).trans ((agrees_iff _ _).mp h'))

/-- No node looks at the times. -/
theorem framing_retime : Framing (retime started updated) where
  context r := rfl
  say r node text := by
    unfold say
    split_ifs <;> rfl
  setContext r context := rfl
  keep r name answer := by
    unfold State.keep
    split
    · rfl
    · split_ifs <;> rfl
  finish r := rfl
  enter r node := rfl
  degrade r wording := rfl

end Reply

namespace Interpreter

variable (i : Interpreter) (graph : FlowGraph)

/-- At another moment a message comes to the same but for the times. -/
theorem step_retime (state : Option State) (text : Option String) (session : Option SessionKey)
    (now now' started updated : Moment) :
    (i.step graph state text session now').map (Reply.retime started updated) =
      (i.step graph state text session now).map (Reply.retime started updated) := by
  have htouch (x : Except Fault Reply) :
      (x.map (·.touch now')).map (Reply.retime started updated) =
        (x.map (·.touch now)).map (Reply.retime started updated) := by
    cases x <;> rfl
  cases state with
  | some state =>
    rw [step_some, step_some]
    cases state.copy with
    | error fault => rfl
    | ok copied =>
      show (i.settle graph text now' copied).map _ = (i.settle graph text now copied).map _
      cases hopen : copied.completed with
      | true => rw [settle_completed i graph hopen, settle_completed i graph hopen]
      | false =>
        rw [settle_open i graph hopen, settle_open i graph hopen]
        cases nodeAt graph copied.currentNodeId with
        | error fault => rfl
        | ok node => exact htouch _
  | none =>
    cases session with
    | none => rfl
    | some key =>
      rw [step_initial, step_initial, settle_open i graph rfl, settle_open i graph rfl]
      have hentry (now : Moment) : nodeAt graph (State.initial graph key now).currentNodeId =
          nodeAt graph (.text graph.entry) := rfl
      rw [hentry, hentry]
      cases nodeAt graph (.text graph.entry) with
      | error fault => rfl
      | ok node =>
        have hgo : i.goOn graph node text (State.initial graph key now') =
            (i.goOn graph node text (State.initial graph key now)).map (Reply.retime now' now') :=
          Reply.framing_retime.enterAndRun (Reply.idle (State.initial graph key now)) node i graph
        dsimp only [Except.bind]
        rw [hgo]
        cases i.goOn graph node text (State.initial graph key now) <;> rfl

/-- **At another moment the reply differs in its times only.** -/
theorem step_agrees {state : Option State} {text : Option String} {session : Option SessionKey}
    {now : Moment} {r : Reply} (h : i.step graph state text session now = .ok r) (now' : Moment) :
    ∃ r', i.step graph state text session now' = .ok r' ∧ r.Agrees r' := by
  have hretime := i.step_retime graph state text session now now' now now
  rw [h] at hretime
  obtain ⟨r', hr', hsame⟩ := exceptMap_eq_ok.mp hretime
  exact ⟨r', hr', (Reply.agrees_iff now now).mpr hsame.symm⟩

/-- A message that fails fails so at every moment. -/
theorem step_error {state : Option State} {text : Option String} {session : Option SessionKey}
    {now : Moment} {f : Fault} (h : i.step graph state text session now = .error f)
    (now' : Moment) : i.step graph state text session now' = .error f := by
  have hretime := i.step_retime graph state text session now now' now now
  rw [h] at hretime
  exact exceptMap_eq_error.mp hretime

end Interpreter

end Parley.Conversation
