import Parley.Proofs.Enhanced.Plain
import Parley.Proofs.Recovery.Replay

/-!
# Parley.Proofs.Enhanced.Speakers — who gave a reply

`Setup.announced` is the enhanced engine, and tells which of its modules gave the reply in place of
the interpreter, if one did (`engine_eq_announced`).  `Turned` is one turn of a conversation on any of
the ways there are: by the enhanced engine, by the baseline, or by the baseline after the enhanced
engine failed; `turned_of_runKeeping`: a guard has no others.  `Settled` says what the module for
answers replies once an answer was checked.
-/

namespace Parley

theorem Action.andThen_andThen {σ α β γ : Type} (x : Action σ α) (f : α → Action σ β)
    (g : β → Action σ γ) : (x.andThen f).andThen g = x.andThen fun a => (f a).andThen g := by
  induction x with
  | finished outcome => cases outcome <;> rfl
  | look next ih => exact congrArg Action.look (funext ih)
  | put w next ih => exact congrArg (Action.put w) ih
  | pause wake next ih => exact congrArg (Action.pause wake) ih

namespace Enhanced

open Conversation (Interpreter Reply State)
open Recovery (FallbackContext FallbackOptions Guard Guarded)
open Template (FlowGraph FlowNode)
open Time (Clocked Moment)

variable {σ : Type} [Clocked σ]

/-! ### The engine, and which module replied -/

/-- The first reply that a module gives, and which module that is. -/
def Setup.firstReply (s : Setup σ) (m : Message) :
    List (Module σ) → Action σ (Option (Capability × Reply))
  | [] => return none
  | module :: more => do
    match ← callModule s.moduleTimeout module.tag (module.before s.interpreter m) with
    | some reply => return some (module.tag, reply)
    | none => s.firstReply m more

/-- The enhanced way to process a message, and the module that gave the reply in place of the
interpreter. -/
def Setup.announced (s : Setup σ) (m : Message) : Action σ (Option Capability × Reply) := do
  let active := s.select m.modules
  match ← s.firstReply m active with
  | some (tag, reply) =>
    s.after m reply active
    return (some tag, reply)
  | none =>
    let reply ← (Engine.interpret s.interpreter m).mapFault Setup.interpreterFault
    s.after m reply active
    return (none, reply)

theorem before_eq_firstReply (s : Setup σ) (m : Message) (modules : List (Module σ)) :
    s.before m modules =
      (s.firstReply m modules).andThen fun given => Action.result (given.map Prod.snd) := by
  induction modules with
  | nil => rfl
  | cons module more ih =>
    show Action.andThen _ _ = (Action.andThen _ _).andThen _
    rw [Action.andThen_andThen]
    refine congrArg _ (funext fun given => ?_)
    cases given with
    | some reply => rfl
    | none => exact ih

/-- **To tell who replied makes no difference.** -/
theorem engine_eq_announced (s : Setup σ) (m : Message) :
    s.engine m = (s.announced m).andThen fun spoken => Action.result spoken.2 := by
  show (s.before m (s.select m.modules)).andThen _ =
    ((s.firstReply m (s.select m.modules)).andThen _).andThen _
  rw [before_eq_firstReply, Action.andThen_andThen, Action.andThen_andThen]
  refine congrArg _ (funext fun given => ?_)
  cases given with
  | some spoken =>
    show (s.after m spoken.2 _).andThen _ = ((s.after m spoken.2 _).andThen _).andThen _
    rw [Action.andThen_andThen]
    rfl
  | none =>
    show ((Engine.interpret s.interpreter m).mapFault Setup.interpreterFault).andThen _ =
      (((Engine.interpret s.interpreter m).mapFault Setup.interpreterFault).andThen _).andThen _
    rw [Action.andThen_andThen]
    refine congrArg _ (funext fun reply => ?_)
    show (s.after m reply _).andThen _ = ((s.after m reply _).andThen _).andThen _
    rw [Action.andThen_andThen]
    rfl

section Announced

variable {s : Setup σ} {m : Message} {speaker : Option Capability} {reply : Reply}
  {modules : List (Module σ)} {tag : Capability}

theorem module_of_firstReply (h : (s.firstReply m modules).MayEnd (.ok (some (tag, reply)))) :
    ∃ module ∈ modules, module.tag = tag ∧
      (module.before s.interpreter m).MayEnd (.ok (some reply)) := by
  induction modules with
  | nil => exact nomatch Action.mayEnd_result.mp h
  | cons module more ih =>
    obtain ⟨given, hgiven, h⟩ := Action.mayEnd_andThen_ok.mp h
    cases given with
    | some r =>
      obtain ⟨rfl, rfl⟩ := Prod.mk.inj (Option.some.inj (Except.ok.inj (Action.mayEnd_result.mp h)))
      exact ⟨module, List.mem_cons_self, rfl, mayEnd_callModule hgiven⟩
    | none =>
      obtain ⟨module', hmem, hspoken⟩ := ih h
      exact ⟨module', List.mem_cons_of_mem _ hmem, hspoken⟩

/-- A reply of the engine comes from one of its modules, or from the interpreter. -/
theorem announced_cases (h : (s.announced m).MayEnd (.ok (speaker, reply))) :
    (∃ module ∈ s.modules, speaker = some module.tag ∧
      (module.before s.interpreter m).MayEnd (.ok (some reply))) ∨
    speaker = none ∧
      ∃ now, s.interpreter.step m.graph m.state m.text m.session now = .ok reply := by
  obtain ⟨given, hgiven, h⟩ := Action.mayEnd_andThen_ok.mp h
  cases given with
  | some spoken =>
    obtain ⟨-, -, h⟩ := Action.mayEnd_andThen_ok.mp h
    obtain ⟨rfl, rfl⟩ := Prod.mk.inj (Except.ok.inj (Action.mayEnd_result.mp h))
    obtain ⟨module, hmem, htag, hbefore⟩ := module_of_firstReply hgiven
    exact .inl ⟨module, mem_of_mem_select hmem, by rw [htag], hbefore⟩
  | none =>
    obtain ⟨r, hr, h⟩ := Action.mayEnd_andThen_ok.mp h
    obtain ⟨-, -, h⟩ := Action.mayEnd_andThen_ok.mp h
    obtain ⟨rfl, rfl⟩ := Prod.mk.inj (Except.ok.inj (Action.mayEnd_result.mp h))
    obtain ⟨now, -, hstep⟩ := mayEnd_interpret (Action.mayEnd_mapFault_ok.mp hr)
    exact .inr ⟨rfl, now, hstep⟩

end Announced

/-! ### Turns -/

/-- One turn of a conversation: a message, who replied in place of the interpreter, and the reply.  The
enhanced engine has the setup `s`, and the baseline the interpreter `i`. -/
inductive Turned (s : Setup σ) (i : Interpreter) : Message → Option Capability → Reply → Prop
  | enhanced {m : Message} {speaker : Option Capability} {reply : Reply} :
    (s.announced m).MayEnd (.ok (speaker, reply)) → Turned s i m speaker reply
  | baseline {m : Message} {reply : Reply} :
    (Engine.baseline i m : Action σ Reply).MayEnd (.ok reply) → Turned s i m none reply
  /-- Whatever the enhanced engine did before the fallback. -/
  | fallback {g : Guard σ} {c : FallbackContext} {modules : List Capability} {o : FallbackOptions}
    {guarded : Guarded} {after : Option State} : g.manager.baseline = Engine.baseline i →
    (g.runKeeping c modules o).MayEnd (.ok (guarded, after)) → guarded.recovered.isSome = true →
    Turned s i (c.message modules) none guarded.reply

section Turned

variable {s : Setup σ} {i : Interpreter} {m : Message} {speaker : Option Capability} {reply : Reply}

/-- Where a reply comes from: from a module, or from one of the interpreters. -/
theorem turned_cases (h : Turned s i m speaker reply) :
    (∃ module ∈ s.modules, speaker = some module.tag ∧
      (module.before s.interpreter m).MayEnd (.ok (some reply))) ∨
    speaker = none ∧ ∃ (j : Interpreter) (session : Option Conversation.SessionKey) (now : Moment),
      j.step m.graph m.state m.text session now = .ok reply := by
  cases h with
  | enhanced h =>
    refine (announced_cases h).imp_right fun ⟨hnone, now, hstep⟩ => ?_
    exact ⟨hnone, s.interpreter, m.session, now, hstep⟩
  | baseline h =>
    obtain ⟨now, -, hstep⟩ := Recovery.step_of_baseline h
    exact .inr ⟨rfl, i, m.session, now, hstep⟩
  | @fallback g c modules o guarded after hb h hrecovered =>
    obtain ⟨-, horigin⟩ := Recovery.origin_of_runKeeping hb h
    obtain ⟨-, now, -, hstep⟩ := horigin.replayed hrecovered
    exact .inr ⟨rfl, i, some c.key, now, hstep⟩

/-- **A guard of the engine has no other turns.** -/
theorem turned_of_runKeeping {g : Guard σ} {limit : Option Number} {c : FallbackContext}
    {modules : List Capability} {o : FallbackOptions} {guarded : Guarded} {after : Option State}
    (hg : g = .new s.engine g.manager limit) (hb : g.manager.baseline = Engine.baseline i)
    (h : (g.runKeeping c modules o).MayEnd (.ok (guarded, after))) :
    ∃ speaker, Turned s i (c.message modules) speaker guarded.reply := by
  obtain ⟨-, horigin⟩ := Recovery.origin_of_runKeeping hb h
  cases hrecovered : guarded.recovered with
  | some r => exact ⟨none, .fallback hb h (by rw [hrecovered]; rfl)⟩
  | none =>
    obtain ⟨-, -, object, hown⟩ := horigin.own hrecovered
    rw [hg] at hown
    obtain ⟨-, hend⟩ := Action.mayLeave_inside hown
    rw [engine_eq_announced] at hend
    obtain ⟨⟨speaker, reply⟩, hspoken, hend⟩ := Action.mayEnd_andThen_ok.mp hend
    rw [Except.ok.inj (Action.mayEnd_result.mp hend)]
    exact ⟨speaker, .enhanced hspoken⟩

end Turned

/-! ### Answers -/

/-- Takes an answer, in a copy of the state without the attempts at the question. -/
def accept (cap : CaptureConfig) (i : Interpreter) (m : Message) (node : FlowNode) (state : State)
    (attempts : Fields Value) (value : String) : Action σ (Option Reply) := do
  let working ← Action.ofExcept state.copy
  let context := forgetAttempts cap node attempts working.context
  return some (← takeAnswer i m { working with context := context } value)

/-- What the module for answers does with an answer that was checked. -/
def settle (cap : CaptureConfig) (i : Interpreter) (m : Message) (node : FlowNode) (state : State)
    (text : String) (checked : Checked) : Action σ (Option Reply) := do
  let attempts ← Action.ofExcept (attemptsOf cap state)
  match checked.verdict with
  | none => accept cap i m node state attempts checked.value
  | some reason =>
    let count ← Action.ofExcept (((attempts.get? node.id).getD (.int 0)).plus (.int 1))
    if ← Action.ofExcept (grantsAttempt cap count) then
      return some (← Action.ofExcept
        (reprompt cap node state reason checked.message attempts count))
    else accept cap i m node state attempts (Unicode.strip text)

/-- The state without the attempts at a node. -/
def withoutAttempts (cap : CaptureConfig) (node : FlowNode) (state : State)
    (attempts : Fields Value) : State :=
  { state with context := forgetAttempts cap node attempts state.context }

/-- What the reply to a checked answer is: that of an interpreter to the checked value, or to the text
without blanks around it after the last attempt, or the question again. -/
inductive Settled (cap : CaptureConfig) (i : Interpreter) (graph : FlowGraph) (node : FlowNode)
    (state : State) (text : String) (checked : Checked) (attempts : Fields Value) (reply : Reply) :
    Prop
  | accepted {now : Moment} : checked.verdict = none → now.Proper →
    i.step graph (some (withoutAttempts cap node state attempts)) (some checked.value) none now =
      .ok reply →
    Settled cap i graph node state text checked attempts reply
  | again {reason count : Value} : checked.verdict = some reason →
    ((attempts.get? node.id).getD (.int 0)).plus (.int 1) = .ok count →
    grantsAttempt cap count = .ok true →
    reprompt cap node state reason checked.message attempts count = .ok reply →
    Settled cap i graph node state text checked attempts reply
  | last {reason count : Value} {now : Moment} : checked.verdict = some reason →
    ((attempts.get? node.id).getD (.int 0)).plus (.int 1) = .ok count →
    grantsAttempt cap count = .ok false → now.Proper →
    i.step graph (some (withoutAttempts cap node state attempts)) (some (Unicode.strip text)) none
      now = .ok reply →
    Settled cap i graph node state text checked attempts reply

section Settled

variable {cap : CaptureConfig} {normalizer : Option (Normalizer σ)} {i : Interpreter} {m : Message}
  {node : FlowNode} {state : State} {text : String} {checked : Checked} {attempts : Fields Value}
  {reply : Reply}

omit [Clocked σ] in
/-- Without a service an answer is checked for its normal form. -/
theorem checkFully_none (node : FlowNode) (text : String) :
    (checkFully none node text : Action σ Checked) =
      (Action.ofExcept (checkAnswer node.inputType (normalizeAnswer node.inputType text)
        (rulesOf node))).andThen fun verdict =>
          Action.result ⟨normalizeAnswer node.inputType text, verdict, .null⟩ := by
  show (Action.ofExcept (checkAnswer _ _ (rulesOf node))).andThen _ = _
  refine congrArg _ (funext fun verdict => ?_)
  cases verdict <;> rfl

/-- An answer is checked, and then settled. -/
theorem capture_of_question (hq : questionAt m = .ok (some (node, state, text))) :
    (captureModule cap normalizer : Module σ).before i m =
      (checkFully normalizer node text).andThen (settle cap i m node state text) := by
  show (Action.ofExcept (questionAt m)).andThen _ = _
  rw [hq]
  rfl

/-- An answer that is taken goes to the interpreter. -/
theorem step_of_accept {value : String}
    (h : (accept cap i m node state attempts value : Action σ _).MayEnd (.ok (some reply))) :
    ∃ now : Moment, now.Proper ∧
      i.step m.graph (some (withoutAttempts cap node state attempts)) (some value) none now =
        .ok reply := by
  obtain ⟨working, hcopied, haccept⟩ := Action.mayEnd_andThen_ok.mp h
  obtain ⟨-, rfl⟩ := Conversation.State.copy_eq_ok.mp (Action.mayEnd_ofExcept.mp hcopied).symm
  obtain ⟨r, hr, hend⟩ := Action.mayEnd_andThen_ok.mp haccept
  rw [Option.some.inj (Except.ok.inj (Action.mayEnd_result.mp hend))]
  exact mayEnd_interpret hr

theorem settled_of_settle (h : (settle cap i m node state text checked : Action σ _).MayEnd
    (.ok (some reply))) :
    ∃ attempts, attemptsOf cap state = .ok attempts ∧
      Settled cap i m.graph node state text checked attempts reply := by
  obtain ⟨attempts, hattempts, h⟩ := Action.mayEnd_andThen_ok.mp h
  refine ⟨attempts, (Action.mayEnd_ofExcept.mp hattempts).symm, ?_⟩
  cases hv : checked.verdict with
  | none =>
    rw [hv] at h
    obtain ⟨now, hnow, hstep⟩ := step_of_accept h
    exact .accepted hv hnow hstep
  | some reason =>
    rw [hv] at h
    obtain ⟨count, hcount, h⟩ := Action.mayEnd_andThen_ok.mp h
    obtain ⟨granted, hgranted, h⟩ := Action.mayEnd_andThen_ok.mp h
    have hcount := (Action.mayEnd_ofExcept.mp hcount).symm
    have hgranted := (Action.mayEnd_ofExcept.mp hgranted).symm
    cases granted with
    | true =>
      obtain ⟨r, hr, h⟩ := Action.mayEnd_andThen_ok.mp h
      rw [Option.some.inj (Except.ok.inj (Action.mayEnd_result.mp h))]
      exact .again hv hcount hgranted (Action.mayEnd_ofExcept.mp hr).symm
    | false =>
      obtain ⟨now, hnow, hstep⟩ := step_of_accept h
      exact .last hv hcount hgranted hnow hstep

/-- A reply of the module for answers is to an answer that was checked. -/
theorem settle_of_capture
    (h : ((captureModule cap normalizer : Module σ).before i m).MayEnd (.ok (some reply))) :
    ∃ node state text checked, questionAt m = .ok (some (node, state, text)) ∧
      (checkFully normalizer node text).MayEnd (.ok checked) ∧
      (settle cap i m node state text checked : Action σ _).MayEnd (.ok (some reply)) := by
  cases hq : questionAt m with
  | error f =>
    obtain ⟨asked, hasked, -⟩ := Action.mayEnd_andThen_ok.mp h
    rw [hq] at hasked
    exact nomatch Action.mayEnd_ofExcept.mp hasked
  | ok question =>
    cases question with
    | none =>
      obtain ⟨asked, hasked, h⟩ := Action.mayEnd_andThen_ok.mp h
      rw [hq] at hasked
      rw [Except.ok.inj (Action.mayEnd_ofExcept.mp hasked)] at h
      exact nomatch Action.mayEnd_result.mp h
    | some question =>
      obtain ⟨node, state, text⟩ := question
      rw [capture_of_question hq] at h
      obtain ⟨checked, hchecked, h⟩ := Action.mayEnd_andThen_ok.mp h
      exact ⟨node, state, text, checked, rfl, hchecked, h⟩

end Settled

end Enhanced

end Parley
