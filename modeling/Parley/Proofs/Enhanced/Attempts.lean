import Parley.Proofs.Conversation.Storing
import Parley.Proofs.Enhanced.Speakers

/-!
# Parley.Proofs.Enhanced.Attempts — how often an answer is asked for again

The attempts at a question are noted among the variables of the conversation, from where copies,
jumps and fallbacks take them along.  `pending id turns` is how often the module for answers has asked
again at a node since it last took an answer there.  `bounded_of_run`: along every run of turns these
numbers are what is noted, and stay below the limit, and the last attempt takes the answer as it is.
-/

namespace Parley.Enhanced

open Conversation (Interpreter Reply State Stores Unnamed)
open Template (FlowGraph FlowNode)
open Time (Clock Clocked Moment)

/-! ### What is noted -/

/-- The attempts noted at a node. -/
def attemptsAt (cap : CaptureConfig) (state : State) (id : String) : Value :=
  match attemptsOf cap state with
  | .ok attempts => (attempts.get? id).getD (.int 0)
  | .error _ => .null

section Noted

variable {cap : CaptureConfig} {state state' : State} {node : FlowNode} {attempts : Fields Value}

theorem attemptsAt_of_ok (h : attemptsOf cap state = .ok attempts) (id : String) :
    attemptsAt cap state id = (attempts.get? id).getD (.int 0) := by
  unfold attemptsAt
  rw [h]

theorem attemptsAt_of_unattempted (h : Unattempted cap state) (id : String) :
    attemptsAt cap state id = .int 0 := by
  rw [attemptsAt_of_ok (attemptsOf_eq_nil h)]
  rfl

/-- The other variables have no part in it. -/
theorem attemptsAt_congr
    (h : state'.context.get? cap.attemptsKey = state.context.get? cap.attemptsKey) (id : String) :
    attemptsAt cap state' id = attemptsAt cap state id := by
  unfold attemptsAt attemptsOf Value.field
  rw [h]

theorem attemptsOf_of_noted (hne : attempts ≠ [])
    (h : state.context.get? cap.attemptsKey = some (.object attempts)) :
    attemptsOf cap state = .ok attempts := by
  have htruthy : (Value.object attempts).truthy = true := by simpa [Value.truthy] using hne
  unfold attemptsOf Value.field
  rw [h]
  show ((Value.object attempts).orElse _).table = _
  rw [Value.orElse, if_pos htruthy]
  rfl

/-- An answer that is taken ends the attempts at its question, and no others. -/
theorem attemptsAt_withoutAttempts (h : attemptsOf cap state = .ok attempts) (id : String) :
    attemptsAt cap (withoutAttempts cap node state attempts) id =
      if id = node.id then .int 0 else attemptsAt cap state id := by
  have hrest : ((attempts.erase node.id).get? id).getD (.int 0) =
      if id = node.id then .int 0 else attemptsAt cap state id := by
    by_cases hid : id = node.id
    · rw [hid, Table.get?_erase_self, if_pos rfl]
      rfl
    · rw [Table.get?_erase_of_ne _ hid, if_neg hid, attemptsAt_of_ok h]
  rw [← hrest]
  by_cases hempty : attempts.erase node.id = []
  · have hnone : Unattempted cap (withoutAttempts cap node state attempts) := by
      unfold Unattempted withoutAttempts forgetAttempts
      dsimp only
      rw [hempty]
      exact Table.get?_erase_self _ _
    rw [attemptsAt_of_unattempted hnone, hempty]
    rfl
  · refine attemptsAt_of_ok (attemptsOf_of_noted hempty ?_) id
    unfold withoutAttempts forgetAttempts
    dsimp only
    rw [if_neg (by rwa [List.isEmpty_iff])]
    exact Table.get?_put_self _ _ _

/-- To ask again notes an attempt at the question, and no other. -/
theorem attemptsAt_of_reprompt {reason message count : Value} {reply : Reply}
    (h : attemptsOf cap state = .ok attempts)
    (hr : reprompt cap node state reason message attempts count = .ok reply) (id : String) :
    attemptsAt cap reply.state id =
      (if id = node.id then count else attemptsAt cap state id) ∧ reply.captured = some false := by
  obtain ⟨working, hcopied, hasked⟩ := exceptBind_eq_ok.mp hr
  obtain ⟨-, rfl⟩ := State.copy_eq_ok.mp hcopied
  obtain ⟨text, -, hreply⟩ := exceptBind_eq_ok.mp hasked
  rw [← Except.ok.inj hreply]
  refine ⟨?_, rfl⟩
  have hself : (attempts.put node.id count).get? node.id = some count := Table.get?_put_self _ _ _
  have hne : attempts.put node.id count ≠ [] := fun hnil => by
    rw [hnil] at hself
    exact nomatch hself
  rw [attemptsAt_of_ok (attemptsOf_of_noted hne (Table.get?_put_self _ _ _))]
  by_cases hid : id = node.id
  · rw [hid, hself, if_pos rfl]
    rfl
  · rw [Table.get?_put_of_ne _ _ hid, if_neg hid, attemptsAt_of_ok h]

/-- A further attempt is granted as long as the number stays below the limit. -/
theorem grantsAttempt_int {n : Int} (hmax : cap.maxAttempts = .int n) (k : Int) :
    grantsAttempt cap (.int k) = .ok (decide (k < n)) := by
  have hless : (Number.int k < Number.int n) ↔ k < n := by
    show Number.less (.int k) (.int n) = true ↔ _
    unfold Number.less Number.order
    simp [Int.compare_eq_lt]
  unfold grantsAttempt
  rw [hmax]
  exact congrArg Except.ok (decide_eq_decide.mpr hless)

end Noted

/-! ### Turns -/

/-- A turn that was had: the state that it started with, who replied in place of the interpreter, and
the reply. -/
structure Turn where
  before : Option State
  speaker : Option Capability
  reply : Reply

namespace Turn

/-- The module for answers spoke at the node. -/
def concerns (id : String) (t : Turn) : Bool :=
  t.speaker = some .enhancedCapture && t.before.any (·.currentNodeId = .text id)

/-- The answer was asked for again. -/
def asksAgain (t : Turn) : Bool := t.reply.captured = some false

end Turn

/-- How often an answer at a node has been asked for again since one was taken there. -/
def pending (id : String) (turns : List Turn) : Nat :=
  turns.foldl (fun k t => if t.concerns id then (if t.asksAgain then k + 1 else 0) else k) 0

theorem pending_concat (id : String) (turns : List Turn) (t : Turn) :
    pending id (turns ++ [t]) =
      if t.concerns id then (if t.asksAgain then pending id turns + 1 else 0)
      else pending id turns := by
  unfold pending
  rw [List.foldl_append]
  rfl

section Turned

variable {σ : Type} [Clocked σ] {s : Setup σ} {i : Interpreter} {nav : NavigationConfig}
  {cap : CaptureConfig} {normalizer : Option (Normalizer σ)} {graph : FlowGraph} {m : Message}
  {node : FlowNode} {state : State} {text : String} {checked : Checked} {attempts : Fields Value}
  {speaker : Option Capability} {reply : Reply}

omit [Clocked σ] in
/-- The question that an answer is to. -/
theorem lookup_of_questionAt (h : questionAt m = .ok (some (node, state, text))) :
    m.graph.lookup state.currentNodeId = .ok (some node) ∧ node.kind = .input := by
  unfold questionAt at h
  split at h
  · split_ifs at h
    · exact nomatch h
    · obtain ⟨found, hfound, h⟩ := exceptBind_eq_ok.mp h
      split at h
      · rename_i node' _
        split_ifs at h with hasked
        · obtain ⟨hnode, hrest⟩ := Prod.mk.inj (Option.some.inj (Except.ok.inj h))
          obtain ⟨hstate, -⟩ := Prod.mk.inj hrest
          rw [← hnode, ← hstate]
          exact ⟨hfound, of_decide_eq_true (Bool.and_eq_true_iff.mp hasked).1⟩
        · exact nomatch h
      · exact nomatch h
  · exact nomatch h

omit [Clocked σ] in
/-- An answer that is taken at a question that was asked is stored. -/
theorem stores_of_taken {value : String} {now : Moment}
    (hq : questionAt m = .ok (some (node, state, text)))
    (hstep : i.step m.graph (some (withoutAttempts cap node state attempts)) (some value) none now =
      .ok reply) (hlimit : 1 ≤ i.maxChainSteps) (hh : state.history ≠ []) :
    Stores m.graph node value reply := by
  obtain ⟨hlookup, hk⟩ := lookup_of_questionAt hq
  have hplace : m.graph.lookup (withoutAttempts cap node state attempts).currentNodeId =
      .ok (some node) := hlookup
  have hopen : (withoutAttempts cap node state attempts).completed = false :=
    (state_of_questionAt hq).2
  have hentered : (withoutAttempts cap node state attempts).history ≠ [] := hh
  exact Conversation.stores_of_step hlimit hopen hentered hplace hk hstep

/-- What a settled answer does to what is noted: asked again, one attempt more at the question; taken,
none; and nothing anywhere else. -/
theorem attemptsAt_of_settled (hu : Unnamed graph cap.attemptsKey)
    (hattempts : attemptsOf cap state = .ok attempts)
    (h : Settled cap i graph node state text checked attempts reply) :
    (∀ other, other ≠ node.id → attemptsAt cap reply.state other = attemptsAt cap state other) ∧
    ((reply.captured = some false ∧ ∃ count, grantsAttempt cap count = .ok true ∧
        (attemptsAt cap state node.id).plus (.int 1) = .ok count ∧
        attemptsAt cap reply.state node.id = count) ∨
      reply.captured ≠ some false ∧ attemptsAt cap reply.state node.id = .int 0) := by
  have htaken {value : String} {now : Moment}
      (hstep : i.step graph (some (withoutAttempts cap node state attempts)) (some value) none now =
        .ok reply) :
      (∀ other, other ≠ node.id → attemptsAt cap reply.state other = attemptsAt cap state other) ∧
        reply.captured ≠ some false ∧ attemptsAt cap reply.state node.id = .int 0 := by
    obtain ⟨hsame, hcaptured⟩ := hu.step hstep
    refine ⟨fun other hother => ?_, hcaptured, ?_⟩
    · rw [attemptsAt_congr hsame, attemptsAt_withoutAttempts hattempts, if_neg hother]
    · rw [attemptsAt_congr hsame, attemptsAt_withoutAttempts hattempts, if_pos rfl]
  cases h with
  | accepted _ _ hstep => exact ⟨(htaken hstep).1, .inr (htaken hstep).2⟩
  | last _ _ _ _ hstep => exact ⟨(htaken hstep).1, .inr (htaken hstep).2⟩
  | @again reason count hverdict hcount hgranted hr =>
    have hnoted := attemptsAt_of_reprompt hattempts hr
    refine ⟨fun other hother => ?_, .inl ⟨(hnoted node.id).2, count, hgranted, ?_, ?_⟩⟩
    · rw [(hnoted other).1, if_neg hother]
    · rw [attemptsAt_of_ok hattempts]
      exact hcount
    · rw [(hnoted node.id).1, if_pos rfl]

/-- In any turn the module for answers settles one, or what is noted stays as it is. -/
theorem settled_or_same (hs : s.Standard nav cap normalizer) (hu : Unnamed m.graph cap.attemptsKey)
    (hstate : m.state = some state) (h : Turned s i m speaker reply) :
    (speaker = some .enhancedCapture ∧ ∃ node text checked attempts,
      questionAt m = .ok (some (node, state, text)) ∧ attemptsOf cap state = .ok attempts ∧
      Settled cap s.interpreter m.graph node state text checked attempts reply) ∨
    speaker ≠ some .enhancedCapture ∧
      reply.state.context.get? cap.attemptsKey = state.context.get? cap.attemptsKey := by
  rcases turned_cases h with ⟨module, hmem, hspeaker, hbefore⟩ | ⟨hspeaker, j, session, now, hstep⟩
  · rcases hs module hmem with rfl | rfl
    · right
      refine ⟨by rw [hspeaker]; nofun, ?_⟩
      obtain ⟨asked, hasked, hend⟩ := Action.mayEnd_andThen_ok.mp hbefore
      cases asked with
      | none => exact nomatch Action.mayEnd_result.mp hend
      | some asked =>
        obtain ⟨state', target⟩ := asked
        obtain ⟨now, -, hend⟩ := Action.mayEnd_andThen_ok.mp hend
        obtain ⟨r, hr, hend⟩ := Action.mayEnd_andThen_ok.mp hend
        have htarget := (Action.mayEnd_ofExcept.mp hasked).symm
        obtain rfl : state' = state :=
          Option.some.inj ((state_of_navigationTarget htarget).1.symm.trans hstate)
        rw [Option.some.inj (Except.ok.inj (Action.mayEnd_result.mp hend))]
        exact (Conversation.unspoken_of_advance (Action.mayEnd_ofExcept.mp hr).symm).spared _
          hu.spared
    · left
      obtain ⟨node, state', text, checked, hq, -, hsettle⟩ := settle_of_capture hbefore
      obtain rfl : state' = state :=
        Option.some.inj ((state_of_questionAt hq).1.symm.trans hstate)
      obtain ⟨attempts, hattempts, hsettled⟩ := settled_of_settle hsettle
      exact ⟨hspeaker, node, text, checked, attempts, hq, hattempts, hsettled⟩
  · right
    rw [hstate] at hstep
    exact ⟨by rw [hspeaker]; nofun, (hu.step hstep).1⟩

/-- The first turn of all is the interpreter's, and notes nothing. -/
theorem unattempted_of_first (hs : s.Standard nav cap normalizer)
    (hu : Unnamed m.graph cap.attemptsKey) (hstate : m.state = none)
    (h : Turned s i m speaker reply) : speaker = none ∧ Unattempted cap reply.state := by
  rcases turned_cases h with ⟨module, hmem, hspeaker, hbefore⟩ | ⟨hspeaker, j, session, now, hstep⟩
  · rcases hs module hmem with rfl | rfl
    · obtain ⟨asked, hasked, hend⟩ := Action.mayEnd_andThen_ok.mp hbefore
      rw [navigationTarget_of_none (.inl hstate)] at hasked
      rw [Except.ok.inj (Action.mayEnd_ofExcept.mp hasked)] at hend
      exact nomatch Action.mayEnd_result.mp hend
    · obtain ⟨node, state, text, checked, hq, -, -⟩ := settle_of_capture hbefore
      exact nomatch hstate.symm.trans (state_of_questionAt hq).1
  · rw [hstate] at hstep
    cases session with
    | none => exact nomatch hstep
    | some key =>
      rw [j.step_initial] at hstep
      exact ⟨hspeaker, (hu.settle hstep).1⟩

/-! ### Runs -/

/-- The turns of a conversation one after the other, and the state that it is in then.  It starts
without attempts, and each turn finds the attempts as the reply before has left them. -/
inductive Run (s : Setup σ) (i : Interpreter) (cap : CaptureConfig) (graph : FlowGraph) :
    Option State → List Turn → Prop
  | start {before : Option State} : (∀ state, before = some state → Unattempted cap state) →
    Run s i cap graph before []
  | turn {before : Option State} {turns : List Turn} {m : Message} {speaker : Option Capability}
    {reply : Reply} {after : State} : Run s i cap graph before turns → m.graph = graph →
    m.state = before → Turned s i m speaker reply →
    after.context.get? cap.attemptsKey = reply.state.context.get? cap.attemptsKey →
    Run s i cap graph (some after) (turns ++ [⟨before, speaker, reply⟩])

/-- The numbers noted in the state are those of the turns, and below the limit. -/
def Counted (cap : CaptureConfig) (n : Int) (turns : List Turn) (state : State) : Prop :=
  ∀ id, attemptsAt cap state id = .int (pending id turns) ∧ (pending id turns : Int) < n

section Run

variable {before : Option State} {turns : List Turn} {n : Int}

theorem turns_of_run_none (h : Run s i cap graph none turns) : turns = [] := by
  cases h with
  | start h => rfl

omit [Clocked σ] in
theorem pending_of_other (h : speaker ≠ some .enhancedCapture) (id : String) :
    pending id (turns ++ [⟨before, speaker, reply⟩]) = pending id turns := by
  rw [pending_concat]
  exact if_neg fun hconcerns => h (of_decide_eq_true (Bool.and_eq_true_iff.mp hconcerns).1)

omit [Clocked σ] in
/-- A turn of the module for answers concerns the node where the conversation is. -/
theorem concerns_iff (hid : state.currentNodeId = .text node.id) (id : String) :
    Turn.concerns id ⟨some state, some .enhancedCapture, reply⟩ = true ↔ id = node.id := by
  unfold Turn.concerns
  simp only [decide_true, Bool.true_and, Option.any_some, decide_eq_true_eq, hid, Value.text.injEq]
  exact eq_comm

/-- One turn more. -/
theorem Counted.turn (hg : m.graph.Closed) (hs : s.Standard nav cap normalizer)
    (hu : Unnamed m.graph cap.attemptsKey) (hmax : cap.maxAttempts = .int n) (hn : 1 ≤ n)
    (hcounted : Counted cap n turns state) (hstate : m.state = some state)
    (h : Turned s i m speaker reply) :
    Counted cap n (turns ++ [⟨some state, speaker, reply⟩]) reply.state := by
  intro id
  obtain ⟨hnoted, hless⟩ := hcounted id
  rcases settled_or_same hs hu hstate h with
    ⟨rfl, node, text, checked, attempts, hq, hattempts, hsettled⟩ | ⟨hother, hsame⟩
  · obtain ⟨hid, -⟩ := Conversation.lookup_eq_some hg (lookup_of_questionAt hq).1
    obtain ⟨hothers, hhere⟩ := attemptsAt_of_settled hu hattempts hsettled
    rw [pending_concat]
    by_cases hnode : id = node.id
    · subst hnode
      rw [if_pos ((concerns_iff hid _).mpr rfl)]
      rcases hhere with ⟨hagain, count, hgranted, hplus, hcount⟩ | ⟨htaken, hzero⟩
      · have hcount' : count = .int (pending node.id turns + 1) := by
          rw [hnoted] at hplus
          exact (Except.ok.inj hplus).symm
        rw [hcount', grantsAttempt_int hmax] at hgranted
        have hbelow := of_decide_eq_true (Except.ok.inj hgranted)
        have hasks : Turn.asksAgain ⟨some state, some .enhancedCapture, reply⟩ = true :=
          decide_eq_true hagain
        rw [if_pos hasks, hcount, hcount']
        exact ⟨rfl, hbelow⟩
      · have hasks : ¬ Turn.asksAgain ⟨some state, some .enhancedCapture, reply⟩ = true :=
          fun hagain => htaken (of_decide_eq_true hagain)
        rw [if_neg hasks, hzero]
        exact ⟨rfl, by show ((0 : Nat) : Int) < n; omega⟩
    · rw [if_neg (fun hconcerns => hnode ((concerns_iff hid id).mp hconcerns)), hothers id hnode]
      exact ⟨hnoted, hless⟩
  · rw [pending_of_other hother, attemptsAt_congr hsame]
    exact ⟨hnoted, hless⟩

/-- **What is noted is what was asked.** -/
theorem noted_of_run (hg : graph.Closed) (hs : s.Standard nav cap normalizer)
    (hu : Unnamed graph cap.attemptsKey) (hmax : cap.maxAttempts = .int n) (hn : 1 ≤ n)
    (h : Run s i cap graph before turns) :
    (∀ state, before = some state → Counted cap n turns state) ∧
      ∀ id, (pending id turns : Int) < n := by
  induction h with
  | start hstart =>
    have hzero (id : String) : (pending id [] : Int) < n := by
      show ((0 : Nat) : Int) < n
      omega
    exact ⟨fun state hstate id => ⟨attemptsAt_of_unattempted (hstart state hstate) id, hzero id⟩,
      hzero⟩
  | @turn before turns m speaker reply after hrun hgraph hstate hturned hkept ih =>
    subst hgraph
    have hcounted : Counted cap n (turns ++ [⟨before, speaker, reply⟩]) reply.state := by
      cases hbefore : before with
      | some state =>
        subst hbefore
        exact (ih.1 state rfl).turn hg hs hu hmax hn hstate hturned
      | none =>
        subst hbefore
        obtain ⟨rfl, hnothing⟩ := unattempted_of_first hs hu hstate hturned
        intro id
        have hother : (none : Option Capability) ≠ some .enhancedCapture := nofun
        rw [pending_of_other hother]
        refine ⟨?_, ih.2 id⟩
        rw [attemptsAt_of_unattempted hnothing, turns_of_run_none hrun]
        rfl
    refine ⟨fun state hafter id => ?_, fun id => (hcounted id).2⟩
    rw [← Option.some.inj hafter, attemptsAt_congr hkept]
    exact hcounted id

/-! ### The last attempt -/

theorem settle_of_accepted (hattempts : attemptsOf cap state = .ok attempts)
    (hv : checked.verdict = none) :
    (settle cap i m node state text checked : Action σ _) =
      accept cap i m node state attempts checked.value := by
  show (Action.ofExcept (attemptsOf cap state)).andThen _ = _
  rw [hattempts]
  dsimp only [Action.ofExcept, Action.andThen]
  rw [hv]

theorem settle_of_last {reason count : Value} (hattempts : attemptsOf cap state = .ok attempts)
    (hv : checked.verdict = some reason)
    (hcount : ((attempts.get? node.id).getD (.int 0)).plus (.int 1) = .ok count)
    (hgrants : grantsAttempt cap count = .ok false) :
    (settle cap i m node state text checked : Action σ _) =
      accept cap i m node state attempts (Unicode.strip text) := by
  show (Action.ofExcept (attemptsOf cap state)).andThen _ = _
  rw [hattempts]
  dsimp only [Action.ofExcept, Action.andThen]
  rw [hv]
  dsimp only [Action.bind_eq, Action.ofExcept, Action.andThen]
  rw [hcount]
  dsimp only [Action.andThen]
  rw [hgrants]
  rfl

/-- An answer that is taken at a node of the graph has a reply, unless a limit is met. -/
theorem ends_of_accept (hg : m.graph.Closed)
    (hlookup : m.graph.lookup state.currentNodeId = .ok (some node)) {value : String}
    {outcome : Except Fault (Option Reply)}
    (h : (accept cap i m node state attempts value : Action σ _).MayEnd outcome) :
    UnlessLimited (fun answer => ∃ now reply, answer = some reply ∧
      i.step m.graph (some (withoutAttempts cap node state attempts)) (some value) none now =
        .ok reply) outcome := by
  rcases Action.mayEnd_andThen.mp h with ⟨working, hcopied, htaken⟩ | ⟨f, hlimit, rfl⟩
  · obtain ⟨-, rfl⟩ := State.copy_eq_ok.mp (Action.mayEnd_ofExcept.mp hcopied).symm
    have hplace : m.graph.lookup (withoutAttempts cap node working attempts).currentNodeId =
        .ok (some node) := hlookup
    rcases Action.mayEnd_andThen.mp htaken with ⟨reply, hreply, hend⟩ | ⟨f, hfault, rfl⟩
    · obtain ⟨now, -, hstep⟩ := mayEnd_interpret hreply
      rw [Action.mayEnd_result.mp hend]
      exact .ok ⟨now, reply, rfl, hstep⟩
    · obtain ⟨now, -, hstep⟩ := mayEnd_interpret hfault
      exact .limited ((Conversation.step_trail hg i _ hplace (some value) none now).isLimit hstep)
  · exact .limited (state.unlessLimited_copy.isLimit (Action.mayEnd_ofExcept.mp hlimit).symm)

/-- At the last attempt every answer is taken: a sound one for its value, any other one for itself
without blanks around it. -/
theorem taken_of_last (hg : m.graph.Closed) (hu : Unnamed m.graph cap.attemptsKey)
    (hmax : cap.maxAttempts = .int n) (hq : questionAt m = .ok (some (node, state, text)))
    (hlast : attemptsAt cap state node.id = .int (n - 1)) {outcome : Except Fault (Option Reply)}
    (h : (settle cap i m node state text checked : Action σ _).MayEnd outcome) :
    UnlessLimited (fun answer => ∃ reply, answer = some reply ∧ reply.captured ≠ some false ∧
      (1 ≤ i.maxChainSteps → state.history ≠ [] →
        (checked.verdict = none → Stores m.graph node checked.value reply) ∧
        (checked.verdict ≠ none → Stores m.graph node (Unicode.strip text) reply))) outcome := by
  obtain ⟨hlookup, -⟩ := lookup_of_questionAt hq
  cases hattempts : attemptsOf cap state with
  | error f =>
    unfold attemptsAt at hlast
    rw [hattempts] at hlast
    exact nomatch hlast
  | ok attempts =>
    have hreply {value : String}
        (h : (accept cap i m node state attempts value : Action σ _).MayEnd outcome) :
        UnlessLimited (fun answer => ∃ reply, answer = some reply ∧ reply.captured ≠ some false ∧
          (1 ≤ i.maxChainSteps → state.history ≠ [] → Stores m.graph node value reply)) outcome := by
      refine (ends_of_accept hg hlookup h).imp fun answer ⟨now, reply, hanswer, hstep⟩ => ?_
      exact ⟨reply, hanswer, (hu.step hstep).2, stores_of_taken hq hstep⟩
    cases hv : checked.verdict with
    | none =>
      rw [settle_of_accepted hattempts hv] at h
      refine (hreply h).imp fun answer ⟨reply, hanswer, hcaptured, hstores⟩ => ?_
      exact ⟨reply, hanswer, hcaptured, fun hlimit hh =>
        ⟨fun _ => hstores hlimit hh, fun hne => absurd rfl hne⟩⟩
    | some reason =>
      have hcount : ((attempts.get? node.id).getD (.int 0)).plus (.int 1) = .ok (.int n) := by
        rw [← attemptsAt_of_ok hattempts, hlast]
        exact congrArg (fun k => Except.ok (Value.int k)) (Int.sub_add_cancel n 1)
      have hgrants : grantsAttempt cap (.int n) = .ok false := by
        rw [grantsAttempt_int hmax]
        exact congrArg Except.ok (decide_eq_false (Int.lt_irrefl n))
      rw [settle_of_last hattempts hv hcount hgrants] at h
      refine (hreply h).imp fun answer ⟨reply, hanswer, hcaptured, hstores⟩ => ?_
      exact ⟨reply, hanswer, hcaptured, fun hlimit hh =>
        ⟨fun hnone => absurd hnone (Option.some_ne_none reason), fun _ => hstores hlimit hh⟩⟩

/-- **Answers are rejected a bounded number of times.**  Let no node of an accepted template name the
variable with the attempts, and let `n` attempts be granted.  In every run of turns, on whatever ways,
the module asks again at a node at most `n - 1` times before it takes an answer there.  A turn at one
node leaves alone what is noted at another.  After `n - 1` times the module takes every answer: unless
the check itself fails or a limit is met, it replies, and at a question that was asked the interpreter
has stored the checked value, or the text without blanks around it if it was not met. -/
theorem bounded_of_run {document templateId version : Value} (hs : s.Standard nav cap normalizer)
    (hread : Template.readGraph document templateId version = .ok graph)
    (hu : Unnamed graph cap.attemptsKey) (hmax : cap.maxAttempts = .int n) (hn : 1 ≤ n)
    (hrun : Run s i cap graph before turns) :
    (∀ id, (pending id turns : Int) ≤ n - 1) ∧
    (∀ state m speaker reply, before = some state → m.graph = graph → m.state = some state →
      Turned s i m speaker reply → ∀ id other, state.currentNodeId = .text id → other ≠ id →
      attemptsAt cap reply.state other = attemptsAt cap state other) ∧
    ∀ state m node text, before = some state → m.graph = graph →
      questionAt m = .ok (some (node, state, text)) → (pending node.id turns : Int) = n - 1 →
      ∀ outcome, ((captureModule cap normalizer : Module σ).before s.interpreter m).MayEnd outcome →
        (∃ f, (checkFully normalizer node text).MayEnd (.error f) ∧ outcome = .error f) ∨
        ∃ checked, (checkFully normalizer node text).MayEnd (.ok checked) ∧
          UnlessLimited (fun answer => ∃ reply, answer = some reply ∧ reply.captured ≠ some false ∧
            (1 ≤ s.interpreter.maxChainSteps → state.history ≠ [] →
              (checked.verdict = none → Stores graph node checked.value reply) ∧
              (checked.verdict ≠ none → Stores graph node (Unicode.strip text) reply))) outcome := by
  have hg := Template.closed_of_readGraph hread
  obtain ⟨hcounted, hbelow⟩ := noted_of_run hg hs hu hmax hn hrun
  refine ⟨fun id => ?_, ?_, ?_⟩
  · have hless := hbelow id
    omega
  · rintro state m speaker reply - rfl hstate hturned id other hid hother
    rcases settled_or_same hs hu hstate hturned with
      ⟨-, node, text, checked, attempts, hq, hattempts, hsettled⟩ | ⟨-, hsame⟩
    · have hplace := (Conversation.lookup_eq_some hg (lookup_of_questionAt hq).1).1
      obtain rfl : id = node.id := Value.text.inj (hid.symm.trans hplace)
      exact (attemptsAt_of_settled hu hattempts hsettled).1 other hother
    · exact attemptsAt_congr hsame other
  · rintro state m node text hbefore rfl hq hpending outcome hend
    rw [capture_of_question hq] at hend
    rcases Action.mayEnd_andThen.mp hend with ⟨checked, hchecked, hsettle⟩ | ⟨f, hf, houtcome⟩
    · have hlast : attemptsAt cap state node.id = .int (n - 1) := by
        rw [((hcounted state hbefore) node.id).1, hpending]
      exact .inr ⟨checked, hchecked, taken_of_last hg hu hmax hq hlast hsettle⟩
    · exact .inl ⟨f, hf, houtcome⟩

end Run

end Turned

section Signup

/-- The third wrong address is checked. -/
def lastCheck (graph : FlowGraph) (state : State) : Action Clock (Option Reply) :=
  (captureModule .default none).before standard.interpreter (saying " nope " state graph)

/-- Two wrong addresses are asked for again, and the third one comes. -/
theorem rejected_signup : ∃ graph first second node,
    Template.readGraph signup .null .null = .ok graph ∧
      Unnamed graph CaptureConfig.default.attemptsKey ∧ Conversation.Spares graph "email" ∧
      Run standard {} .default graph (some second.state)
        [⟨some asked, some .enhancedCapture, first⟩,
          ⟨some first.state, some .enhancedCapture, second⟩] ∧
      first.captured = some false ∧ second.captured = some false ∧
      first.state.currentNodeId = .text "ask" ∧ second.state.history ≠ [] ∧
      questionAt (saying " nope " second.state graph) = .ok (some (node, second.state, " nope ")) ∧
      node.id = "ask" ∧ Conversation.answerName node = .text "email" ∧
      node.inputType = .text "email" ∧ node.validation = none ∧
      ∃ answer, (lastCheck graph second.state).MayEnd (.ok answer) := by
  have h : (Template.readGraph signup .null .null).toOption.any (fun graph =>
      (graph.nodeList.all fun node => node.mutations.isEmpty &&
        Conversation.answerName node ≠ .text "_capture_attempts") &&
      ((standard.announced (saying "nope" asked graph)).run ⟨0, 0, ⟨0, none⟩⟩).1.toOption.any
        fun one => one.1 = some .enhancedCapture && one.2.captured = some false &&
          one.2.state.currentNodeId = .text "ask" &&
        ((standard.announced (saying "nope" one.2.state graph)).run
            ⟨0, 0, ⟨0, none⟩⟩).1.toOption.any fun two =>
          two.1 = some .enhancedCapture && two.2.captured = some false &&
            !two.2.state.history.isEmpty &&
            ((lastCheck graph two.2.state).run ⟨0, 0, ⟨0, none⟩⟩).1.toOption.any Option.isSome &&
          (questionAt (saying " nope " two.2.state graph)).toOption.any fun question =>
            question.any fun (node, state, text) => node.id = "ask" && state = two.2.state &&
              text = " nope " && Conversation.answerName node = .text "email" &&
              node.inputType = .text "email" && node.validation = none) = true := by
    decide +kernel
  obtain ⟨graph, hread, h⟩ := exists_of_any h
  obtain ⟨hnodes, h⟩ := Bool.and_eq_true_iff.mp h
  obtain ⟨⟨speaker, first⟩, hfirst, h⟩ := exists_of_any h
  simp only [Bool.and_eq_true, decide_eq_true_eq] at h
  obtain ⟨⟨⟨rfl, hcaptured⟩, hplace⟩, h⟩ := h
  obtain ⟨⟨speaker, second⟩, hsecond, h⟩ := exists_of_any h
  simp only [Bool.and_eq_true, decide_eq_true_eq, Bool.not_eq_true', List.isEmpty_eq_false_iff] at h
  obtain ⟨⟨⟨⟨rfl, hcaptured'⟩, hhistory⟩, hlast⟩, h⟩ := h
  obtain ⟨question, hquestion, h⟩ := exists_of_any h
  simp only [Option.any_eq_true, Bool.and_eq_true, decide_eq_true_eq] at h
  obtain ⟨⟨node, state, text⟩, rfl, ⟨⟨⟨⟨hid, rfl⟩, rfl⟩, hname⟩, htype⟩, hrules⟩ := h
  obtain ⟨answer, hanswer, -⟩ := exists_of_any hlast
  have hquiet : ∀ node ∈ graph.nodeList, node.mutations = [] := fun node hnode =>
    List.isEmpty_iff.mp (Bool.and_eq_true_iff.mp (List.all_eq_true.mp hnodes node hnode)).1
  have hspares (name : String) : Conversation.Spares graph name := by
    intro node hnode change hchange
    rw [hquiet node hnode] at hchange
    exact absurd hchange List.not_mem_nil
  have hunnamed : Unnamed graph CaptureConfig.default.attemptsKey :=
    ⟨hspares _, fun node hnode _ =>
      of_decide_eq_true (Bool.and_eq_true_iff.mp (List.all_eq_true.mp hnodes node hnode)).2⟩
  have hturned {state : State} {reply : Reply}
      (hend : ((standard.announced (saying "nope" state graph)).run ⟨0, 0, ⟨0, none⟩⟩).1 =
        .ok (some .enhancedCapture, reply)) :
      Turned standard {} (saying "nope" state graph) (some .enhancedCapture) reply :=
    .enhanced (hend ▸ Action.mayEnd_run (standard.announced (saying "nope" state graph)) _)
  have hstart : Run standard {} .default graph (some asked) [] :=
    .start fun state hstate => by rw [← Option.some.inj hstate]; rfl
  have hone : Run standard {} .default graph (some first.state) ([] ++ [_]) :=
    .turn hstart rfl rfl (hturned hfirst) rfl
  exact ⟨graph, first, second, node, hread, hunnamed, hspares "email",
    .turn hone rfl rfl (hturned hsecond) rfl, hcaptured, hcaptured', hplace, hhistory, hquestion,
    hid, hname, htype, hrules, answer, hanswer ▸ Action.mayEnd_run (lastCheck graph second.state) _⟩

/-- The third wrong address is taken as it is, without the blanks around it. -/
theorem bounded_of_run_signup : ∃ graph first second third,
    Template.readGraph signup .null .null = .ok graph ∧
      Run standard {} .default graph (some second.state)
        [⟨some asked, some .enhancedCapture, first⟩,
          ⟨some first.state, some .enhancedCapture, second⟩] ∧
      pending "ask" [⟨some asked, some .enhancedCapture, first⟩,
        ⟨some first.state, some .enhancedCapture, second⟩] = 2 ∧
      (lastCheck graph second.state).MayEnd (.ok (some third)) ∧
      third.state.context.get? "email" = some (.text "nope") := by
  obtain ⟨graph, first, second, node, hread, hu, hspares, hrun, hfirst, hsecond, hplace, hhistory,
    hq, hid, hname, htype, hrules, answer, hend⟩ := rejected_signup
  have hpending : pending "ask" [⟨some asked, some .enhancedCapture, first⟩,
      ⟨some first.state, some .enhancedCapture, second⟩] = 2 := by
    simp [pending, Turn.concerns, Turn.asksAgain, hfirst, hsecond, hplace, asked, restarted]
  obtain ⟨-, -, hlast⟩ := bounded_of_run standard_standard hread hu rfl (by decide) hrun
  have hchecked : (checkFully none node " nope " : Action Clock Checked) =
      Action.result ⟨"nope", some (.text "email"), .null⟩ := by
    have hnormal : normalizeAnswer (.text "email") " nope " = "nope" := by decide +kernel
    have hrulesOf : rulesOf node = .null := by rw [rulesOf, hrules]
    rw [checkFully_none, htype, hrulesOf, hnormal]
    rfl
  rcases hlast second.state _ node " nope " rfl rfl hq (by rw [hid, hpending]; rfl) _ hend with
    ⟨f, hf, -⟩ | ⟨checked, hc, hanswered⟩
  · rw [hchecked] at hf
    exact nomatch Action.mayEnd_result.mp hf
  · rw [hchecked] at hc
    have hverdict : checked.verdict ≠ none := by
      rw [Except.ok.inj (Action.mayEnd_result.mp hc)]
      nofun
    obtain ⟨third, rfl, -, hstores⟩ := hanswered.holds rfl
    have hstored := (hstores (by decide) hhistory).2 hverdict
    exact ⟨graph, first, second, third, hread, hrun, hpending, hend,
      hstored.named "email" hname hspares⟩

end Signup

end Parley.Enhanced
