import Parley.Proofs.Conversation.Trail

/-!
# Parley.Proofs.Conversation.Safety — conversations in an accepted template never break off

An exchange is a message or a jump, and the reply to it.  `Exchange.Safe`: the reply is at a node of
the graph, each link that was taken led to a node, and what goes wrong inside a node comes back as a
degraded reply.  What goes wrong on entering a node does not: its prompt may have a number in it that
is too long to be shown, and then the conversation breaks off (`Break.Limited`).
`safe_of_converse`: in a graph read from an accepted template, a conversation from its first contact
on has a reply to everything and all its exchanges are safe, unless it breaks off so.
-/

namespace Parley.Conversation

open Template (FlowGraph FlowNode)
open Time (Moment)

/-! ### Nodes executed one after the other -/

/-- A node about to be executed, the message that it gets, and the reply so far. -/
structure Execution where
  node : FlowNode
  text : Option String
  reply : Reply

namespace Execution

/-- What the node does: the next node, or none to stop, unless something goes wrong inside it. -/
def outcome (e : Execution) : Except Fault (Option String × Reply) := e.reply.execute e.node e.text

/-- Executes this node, and those after it up to a limit. -/
def run (e : Execution) (graph : FlowGraph) (limit : Nat) : Except Fault Reply :=
  e.reply.run graph limit e.node e.text

/-- The node of `e` leads to that of `e'`, which is entered without a stop. -/
structure Precedes (graph : FlowGraph) (e e' : Execution) : Prop where
  linked : ∃ id r, e.outcome = .ok (some id, r) ∧ graph.node? id = some e'.node ∧
    r.arrive e'.node = .ok (false, e'.reply)
  silent : e'.text = none

/-- So many nodes are executed before that of the second execution. -/
inductive Chain (graph : FlowGraph) : Nat → Execution → Execution → Prop
  | here (e : Execution) : Chain graph 0 e e
  | next {n : Nat} {e e' last : Execution} : Precedes graph e e' → Chain graph n e' last →
    Chain graph (n + 1) e last

/-- Why a reply is degraded: something went wrong inside a node, or too many were executed. -/
inductive Blamed (graph : FlowGraph) (limit : Nat) (first : Execution) (r : Reply) : Prop
  | failure {n : Nat} {last : Execution} {f : Fault} : n < limit → Chain graph n first last →
    last.outcome = .error f → r = last.reply.degrade f.report → Blamed graph limit first r
  | overrun {last : Execution} : Chain graph limit first last →
    r = last.reply.degrade Reply.tooManySteps → Blamed graph limit first r

variable {graph : FlowGraph} {e e' first last : Execution} {n limit : Nat} {r : Reply} {f : Fault}

theorem degraded_arrive {node : FlowNode} {out : Bool × Reply} (h : r.arrive node = .ok out) :
    out.2.degraded = r.degraded := by
  unfold Reply.arrive at h
  dsimp only at h
  split_ifs at h
  · obtain ⟨r', hprompt, rfl⟩ := exceptMap_eq_ok.mp h
    exact (still_prompt hprompt).degraded
  · obtain ⟨r', hprompt, rfl⟩ := exceptMap_eq_ok.mp h
    exact (still_prompt hprompt).degraded
  · rw [← Except.ok.inj h]
    rfl

/-- Only a prompt can make an entry fail, by a number that is too long to be shown. -/
theorem isLimit_of_arrive {node : FlowNode} (h : r.arrive node = .error f) : f.isLimit = true := by
  unfold Reply.arrive at h
  dsimp only at h
  split_ifs at h
  · exact (Reply.unlessLimited_prompt _ node).isLimit (exceptMap_eq_error.mp h)
  · exact (Reply.unlessLimited_prompt _ node).isLimit (exceptMap_eq_error.mp h)

theorem run_of_error (h : e.outcome = .error f) (limit : Nat) :
    e.run graph (limit + 1) = .ok (e.reply.degrade f.report) := by
  unfold outcome at h
  unfold run Reply.run
  rw [h]

theorem run_of_stop (h : e.outcome = .ok (none, r)) (limit : Nat) :
    e.run graph (limit + 1) = .ok r := by
  unfold outcome at h
  unfold run Reply.run
  rw [h]

/-- The execution goes on as the next node says. -/
theorem run_of_link {id : String} {next : FlowNode} (h : e.outcome = .ok (some id, r))
    (hnode : graph.node? id = some next) (limit : Nat) :
    e.run graph (limit + 1) = (r.arrive next).bind fun out =>
      if out.1 then .ok out.2 else (Execution.mk next none out.2).run graph limit := by
  unfold outcome at h
  show e.reply.run graph (limit + 1) e.node e.text = _
  rw [Reply.run, h]
  dsimp only
  rw [hnode]
  rfl

theorem run_of_precedes (h : Precedes graph e e') (limit : Nat) :
    e.run graph (limit + 1) = e'.run graph limit := by
  obtain ⟨⟨id, r, hout, hnode, harrive⟩, hsilent⟩ := h
  rw [run_of_link hout hnode, harrive, ← hsilent]
  rfl

/-- A run goes on from each node of a chain. -/
theorem run_of_chain (h : Chain graph n first last) (limit : Nat) :
    first.run graph (n + limit) = last.run graph limit := by
  induction h with
  | here e => rw [Nat.zero_add]
  | @next n e e' last hp _ ih =>
    rw [show n + 1 + limit = n + limit + 1 by omega, run_of_precedes hp]
    exact ih

/-- **What goes wrong inside a node comes back as a degraded reply.** -/
theorem run_of_failure (h : Chain graph n first last) (hf : last.outcome = .error f)
    (hn : n < limit) : first.run graph limit = .ok (last.reply.degrade f.report) := by
  obtain ⟨left, rfl⟩ : ∃ left, limit = n + (left + 1) := ⟨limit - n - 1, by omega⟩
  rw [run_of_chain h, run_of_error hf]

theorem Blamed.next (hp : Precedes graph e e') (h : Blamed graph limit e' r) :
    Blamed graph (limit + 1) e r := by
  cases h with
  | failure hn hchain hf hr => exact .failure (by omega) (.next hp hchain) hf hr
  | overrun hchain hr => exact .overrun (.next hp hchain) hr

/-- **Nothing else degrades a reply.** -/
theorem blamed_of_run (h : e.run graph limit = .ok r) (hd : e.reply.degraded = false)
    (hr : r.degraded = true) : Blamed graph limit e r := by
  induction limit generalizing e with
  | zero => exact .overrun (.here e) (Except.ok.inj h).symm
  | succ limit ih =>
    cases hout : e.outcome with
    | error f =>
      rw [run_of_error hout] at h
      exact .failure (Nat.succ_pos limit) (.here e) hout (Except.ok.inj h).symm
    | ok out =>
      obtain ⟨target, r₁⟩ := out
      have hexec := executed_execute (show e.reply.execute e.node e.text = _ from hout)
      cases target with
      | none =>
        rw [run_of_stop hout] at h
        rw [← Except.ok.inj h, hexec.1.degraded, hd] at hr
        exact nomatch hr
      | some id =>
        cases hnode : graph.node? id with
        | none =>
          unfold outcome at hout
          rw [run, Reply.run, hout] at h
          dsimp only at h
          rw [hnode] at h
          exact nomatch h
        | some next =>
          rw [run_of_link hout hnode] at h
          obtain ⟨⟨stop, r₂⟩, harrive, h⟩ := exceptBind_eq_ok.mp h
          have hkept : r₂.degraded = false := by
            rw [degraded_arrive harrive, hexec.1.degraded, hd]
          cases stop with
          | true =>
            rw [← Except.ok.inj h, hkept] at hr
            exact nomatch hr
          | false => exact (ih h hkept).next ⟨⟨id, r₁, hout, hnode, harrive⟩, rfl⟩

/-- All nodes of a chain are nodes of the graph. -/
theorem Chain.node (hg : graph.Closed) (h : Chain graph n first last)
    (hn : graph.node? first.node.id = some first.node) :
    graph.node? last.node.id = some last.node := by
  induction h with
  | here e => exact hn
  | next hp _ ih =>
    obtain ⟨⟨id, -, -, hnode, -⟩, -⟩ := hp
    refine ih ?_
    rwa [hg.named hnode]

/-- **Each link that is taken leads to a node.** -/
theorem linked_of_chain (hg : graph.Closed) (h : Chain graph n first last)
    (hn : graph.node? first.node.id = some first.node) {id : String}
    (hout : last.outcome = .ok (some id, r)) : (graph.node? id).isSome = true :=
  hg.linked (h.node hg hn) (executed_execute hout).2.1

/-- A node that is entered in a run, with the reply so far. -/
inductive Enters (graph : FlowGraph) (limit : Nat) (first : Execution) : FlowNode → Reply → Prop
  | mk {n : Nat} {last : Execution} {id : String} {r : Reply} {node : FlowNode} : n < limit →
    Chain graph n first last → last.outcome = .ok (some id, r) → graph.node? id = some node →
    Enters graph limit first node r

theorem Enters.next (hp : Precedes graph e e') {node : FlowNode} (h : Enters graph limit e' node r) :
    Enters graph (limit + 1) e node r := by
  obtain ⟨hn, hchain, hout, hnode⟩ := h
  exact ⟨by omega, .next hp hchain, hout, hnode⟩

/-- **A run fails on entering a node, and nowhere else.** -/
theorem enters_of_run (hg : graph.Closed) (hn : graph.node? e.node.id = some e.node)
    (h : e.run graph limit = .error f) :
    ∃ node r, Enters graph limit e node r ∧ r.arrive node = .error f := by
  induction limit generalizing e with
  | zero => exact nomatch h
  | succ limit ih =>
    cases hout : e.outcome with
    | error fault =>
      rw [run_of_error hout] at h
      exact nomatch h
    | ok out =>
      obtain ⟨target, r₁⟩ := out
      cases target with
      | none =>
        rw [run_of_stop hout] at h
        exact nomatch h
      | some id =>
        have hlink := linked_of_chain hg (.here e) hn hout
        obtain ⟨next, hnode⟩ := Option.isSome_iff_exists.mp hlink
        rw [run_of_link hout hnode] at h
        rcases exceptBind_eq_error.mp h with harrive | ⟨⟨stop, r₂⟩, harrive, h⟩
        · exact ⟨next, r₁, ⟨Nat.succ_pos limit, .here e, hout, hnode⟩, harrive⟩
        · cases stop with
          | true => exact nomatch h
          | false =>
            obtain ⟨node, r, henters, hfail⟩ := ih (by rw [hg.named hnode]; exact hnode) h
            exact ⟨node, r, henters.next ⟨⟨id, r₁, hout, hnode, harrive⟩, rfl⟩, hfail⟩

end Execution

/-! ### Exchanges -/

/-- What comes to a conversation. -/
inductive Move
  | message (text : Option String) (session : Option SessionKey) (now : Moment)
  | jump (target : Value) (now : Moment)

def Move.now : Move → Moment
  | message _ _ now | jump _ now => now

/-- A jump is to a node of the graph. -/
def Move.Fits (graph : FlowGraph) : Move → Prop
  | message .. => True
  | jump target _ => ∃ node, graph.lookup target = .ok (some node)

/-- A move in a state, and the reply to it. -/
structure Exchange where
  before : State
  move : Move
  reply : Reply

/-- A move in a state that has no reply, and why. -/
structure Break where
  before : State
  move : Move
  fault : Fault

namespace Interpreter

variable (i : Interpreter) (graph : FlowGraph)

def respond (state : State) : Move → Except Fault Reply
  | .message text session now => i.step graph (some state) text session now
  | .jump target now => i.advance graph state target now

/-- Some moves, each in the state that the one before leads to, as far as they have replies. -/
def goThrough : State → List Move → List Exchange × Option Break
  | _, [] => ([], none)
  | state, move :: more =>
    match i.respond graph state move with
    | .error fault => ([], some ⟨state, move, fault⟩)
    | .ok r =>
      let later := goThrough r.state more
      (⟨state, move, r⟩ :: later.1, later.2)

/-- A conversation from its first contact on, as far as it goes. -/
def converse (key : SessionKey) (text : Option String) (now : Moment) (moves : List Move) :
    List Exchange × Option Break :=
  let start := State.initial graph key now
  let contact := Move.message text (some key) now
  match i.step graph none text (some key) now with
  | .error fault => ([], some ⟨start, contact, fault⟩)
  | .ok r =>
    let later := i.goThrough graph r.state moves
    (⟨start, contact, r⟩ :: later.1, later.2)

end Interpreter

/-- The execution of a node that is entered, unless it stops there. -/
def entering (node : FlowNode) (r : Reply) : Option Execution :=
  match r.arrive node with
  | .ok (false, r') => some ⟨node, none, r'⟩
  | _ => none

/-- The node that a move enters before any is executed, with the reply so far. -/
def entered (graph : FlowGraph) (state : State) : Move → Option (FlowNode × Reply)
  | .message _ _ _ =>
    match state.completed, graph.lookup state.currentNodeId with
    | false, .ok (some node) =>
      if state.history.isEmpty then some (node, Reply.idle state) else none
    | _, _ => none
  | .jump target _ =>
    match graph.lookup target with
    | .ok (some node) => some (node, Reply.idle { state with completed := false })
    | _ => none

/-- The node that a move executes first. -/
def opening (graph : FlowGraph) (state : State) : Move → Option Execution
  | .message text _ _ =>
    match state.completed, graph.lookup state.currentNodeId with
    | false, .ok (some node) =>
      if state.history.isEmpty then entering node (Reply.idle state)
      else some ⟨node, text, Reply.idle state⟩
    | _, _ => none
  | .jump target _ =>
    match graph.lookup target with
    | .ok (some node) => entering node (Reply.idle { state with completed := false })
    | _ => none

/-- The nodes that a move enters, with the reply so far. -/
inductive Enters (graph : FlowGraph) (limit : Nat) (state : State) (move : Move) :
    FlowNode → Reply → Prop
  | first {node : FlowNode} {r : Reply} : entered graph state move = some (node, r) →
    Enters graph limit state move node r
  | later {first : Execution} {node : FlowNode} {r : Reply} :
    opening graph state move = some first → first.Enters graph limit node r →
    Enters graph limit state move node r

/-- The move met a limit: its state is nested too deeply to be copied, or a node that it enters has
a number to say that is too long. -/
structure Break.Limited (i : Interpreter) (graph : FlowGraph) (b : Break) : Prop where
  isLimit : b.fault.isLimit = true
  cause : b.before.copy = .error b.fault ∨ ∃ node r,
    Enters graph i.maxChainSteps.toNat b.before b.move node r ∧ r.arrive node = .error b.fault

/-- An exchange that did not go wrong. -/
structure Exchange.Safe (i : Interpreter) (graph : FlowGraph) (e : Exchange) : Prop where
  /-- The reply is at a node of the graph. -/
  placed : ∃ node, graph.lookup e.reply.state.currentNodeId = .ok (some node)
  /-- Each link that was taken leads to a node of the graph. -/
  linked : ∀ {first last : Execution} {n : Nat} {id : String} {r : Reply},
    opening graph e.before e.move = some first → Execution.Chain graph n first last →
    last.outcome = .ok (some id, r) → (graph.node? id).isSome = true
  /-- What goes wrong inside a node comes back as a degraded reply. -/
  degrades : ∀ {first last : Execution} {n : Nat} {f : Fault},
    opening graph e.before e.move = some first → Execution.Chain graph n first last →
    n < i.maxChainSteps.toNat → last.outcome = .error f →
    e.reply = (last.reply.degrade f.report).touch e.move.now
  /-- Nothing else degrades a reply, but the limit for nodes. -/
  blamed : e.reply.degraded = true → ∃ first r, opening graph e.before e.move = some first ∧
    Execution.Blamed graph i.maxChainSteps.toNat first r ∧ e.reply = r.touch e.move.now

section Safe

variable {i : Interpreter} {graph : FlowGraph} {state : State} {move : Move} {node : FlowNode}
  {r : Reply} {first : Execution}

theorem opening_message {now : Moment} {text : Option String} {session : Option SessionKey}
    (hc : state.completed = false) (hn : graph.lookup state.currentNodeId = .ok (some node)) :
    opening graph state (.message text session now) =
      if state.history.isEmpty then entering node (Reply.idle state)
      else some ⟨node, text, Reply.idle state⟩ := by
  unfold opening
  rw [hc, hn]

theorem opening_jump {target : Value} {now : Moment}
    (hn : graph.lookup target = .ok (some node)) :
    opening graph state (.jump target now) =
      entering node (Reply.idle { state with completed := false }) := by
  unfold opening
  simp only [hn]

theorem entered_message {now : Moment} {text : Option String} {session : Option SessionKey}
    (hc : state.completed = false) (hn : graph.lookup state.currentNodeId = .ok (some node))
    (hh : state.history.isEmpty = true) :
    entered graph state (.message text session now) = some (node, Reply.idle state) := by
  unfold entered
  rw [hc, hn]
  exact if_pos hh

theorem entered_jump {target : Value} {now : Moment}
    (hn : graph.lookup target = .ok (some node)) :
    entered graph state (.jump target now) =
      some (node, Reply.idle { state with completed := false }) := by
  unfold entered
  simp only [hn]

/-- How a reply comes from the first node that is executed. -/
def RepliedFrom (i : Interpreter) (graph : FlowGraph) (now : Moment) (r : Reply) :
    Option Execution → Prop
  | none => r.degraded = false
  | some first => graph.node? first.node.id = some first.node ∧ first.reply.degraded = false ∧
    ∃ r', first.run graph i.maxChainSteps.toNat = .ok r' ∧ r = r'.touch now

theorem repliedFrom_entering {now : Moment} (hn : graph.node? node.id = some node)
    (hd : r.degraded = false) {r' : Reply} (h : i.enterAndRun graph node r = .ok r') :
    RepliedFrom i graph now (r'.touch now) (entering node r) := by
  obtain ⟨⟨stop, r₁⟩, harrive, h⟩ := exceptBind_eq_ok.mp h
  have hkept := (Execution.degraded_arrive harrive).trans hd
  unfold entering
  rw [harrive]
  cases stop with
  | true => exact Except.ok.inj h ▸ hkept
  | false => exact ⟨hn, hkept, r', h, rfl⟩

/-- Every reply comes from the first node that the move executes. -/
theorem repliedFrom_settle (hg : graph.Closed)
    (hplace : ∃ node, graph.lookup state.currentNodeId = .ok (some node)) {text : Option String}
    {now : Moment} (session : Option SessionKey) (h : i.settle graph text now state = .ok r) :
    RepliedFrom i graph now r (opening graph state (.message text session now)) := by
  obtain ⟨node, hn⟩ := hplace
  obtain ⟨-, hnode⟩ := lookup_eq_some hg hn
  by_cases hc : state.completed = true
  · rw [i.settle_completed graph hc] at h
    have hnone : opening graph state (.message text session now) = none := by
      unfold opening
      rw [hc]
    rw [hnone, ← Except.ok.inj h]
    rfl
  · rw [Bool.not_eq_true] at hc
    rw [settle_at hc i hn] at h
    rw [opening_message hc hn]
    obtain ⟨r', hgo, rfl⟩ := exceptMap_eq_ok.mp h
    unfold Interpreter.goOn at hgo
    by_cases hh : state.history.isEmpty = true
    · rw [if_pos hh] at hgo ⊢
      exact repliedFrom_entering hnode rfl hgo
    · rw [if_neg hh] at hgo ⊢
      exact ⟨hnode, rfl, r', hgo, rfl⟩

theorem repliedFrom_advance (hg : graph.Closed) {target : Value} {now : Moment}
    (hn : graph.lookup target = .ok (some node)) (h : i.advance graph state target now = .ok r) :
    RepliedFrom i graph now r (opening graph state (.jump target now)) := by
  obtain ⟨-, hnode⟩ := lookup_eq_some hg hn
  rw [advance_at i state hn] at h
  obtain ⟨copied, hcopied, hgo⟩ := exceptBind_eq_ok.mp h
  obtain ⟨-, rfl⟩ := State.copy_eq_ok.mp hcopied
  obtain ⟨r', hr', rfl⟩ := exceptMap_eq_ok.mp hgo
  rw [opening_jump hn]
  exact repliedFrom_entering hnode rfl hr'

/-- What is entered and run from there fails on entering a node. -/
theorem enters_of_enterAndRun (hg : graph.Closed) (hn : graph.node? node.id = some node) {f : Fault}
    (h : i.enterAndRun graph node r = .error f) :
    r.arrive node = .error f ∨ ∃ first, entering node r = some first ∧ ∃ next r',
      first.Enters graph i.maxChainSteps.toNat next r' ∧ r'.arrive next = .error f := by
  rcases exceptBind_eq_error.mp h with harrive | ⟨⟨stop, r₁⟩, harrive, h⟩
  · exact .inl harrive
  · cases stop with
    | true => exact nomatch h
    | false =>
      refine .inr ⟨⟨node, none, r₁⟩, ?_, Execution.enters_of_run hg hn h⟩
      unfold entering
      rw [harrive]

/-- A message that has no reply fails on entering a node. -/
theorem enters_of_settle (hg : graph.Closed)
    (hplace : ∃ node, graph.lookup state.currentNodeId = .ok (some node)) {text : Option String}
    {now : Moment} (session : Option SessionKey) {f : Fault}
    (h : i.settle graph text now state = .error f) :
    ∃ node r, Enters graph i.maxChainSteps.toNat state (.message text session now) node r ∧
      r.arrive node = .error f := by
  obtain ⟨node, hn⟩ := hplace
  obtain ⟨-, hnode⟩ := lookup_eq_some hg hn
  cases hc : state.completed with
  | true =>
    rw [i.settle_completed graph hc] at h
    exact nomatch h
  | false =>
    rw [settle_at hc i hn] at h
    have hgo := exceptMap_eq_error.mp h
    have hopening : opening graph state (.message text session now) =
        if state.history.isEmpty then entering node (Reply.idle state)
        else some ⟨node, text, Reply.idle state⟩ := opening_message hc hn
    unfold Interpreter.goOn at hgo
    by_cases hh : state.history.isEmpty = true
    · rw [if_pos hh] at hgo hopening
      rcases enters_of_enterAndRun hg hnode hgo with harrive | ⟨first, hfirst, next, r', hr', hf⟩
      · exact ⟨node, _, .first (entered_message hc hn hh), harrive⟩
      · exact ⟨next, r', .later (hopening.trans hfirst) hr', hf⟩
    · rw [if_neg hh] at hgo hopening
      have hrun : (Execution.mk node text (Reply.idle state)).run graph i.maxChainSteps.toNat =
          .error f := hgo
      obtain ⟨next, r', hr', hf⟩ := Execution.enters_of_run hg hnode hrun
      exact ⟨next, r', .later hopening hr', hf⟩

theorem Break.limited_of_enters {f : Fault}
    (h : ∃ node r, Enters graph i.maxChainSteps.toNat state move node r ∧
      r.arrive node = .error f) : Break.Limited i graph ⟨state, move, f⟩ := by
  obtain ⟨node, r, -, harrive⟩ := id h
  exact ⟨Execution.isLimit_of_arrive harrive, .inr h⟩

/-- **A move at a node of a closed graph that has no reply met a limit.** -/
theorem limited_of_respond (hg : graph.Closed)
    (hplace : ∃ node, graph.lookup state.currentNodeId = .ok (some node))
    (hfits : move.Fits graph) {f : Fault} (h : i.respond graph state move = .error f) :
    Break.Limited i graph ⟨state, move, f⟩ := by
  cases move with
  | message text session now =>
    rcases exceptBind_eq_error.mp h with hcopy | ⟨copied, hcopied, hsettle⟩
    · exact ⟨State.isLimit_of_copy hcopy, .inl hcopy⟩
    · obtain ⟨-, rfl⟩ := State.copy_eq_ok.mp hcopied
      exact Break.limited_of_enters (enters_of_settle hg hplace session hsettle)
  | jump target now =>
    obtain ⟨node, hn⟩ := hfits
    obtain ⟨-, hnode⟩ := lookup_eq_some hg hn
    have h : i.advance graph state target now = .error f := h
    rw [advance_at i state hn] at h
    rcases exceptBind_eq_error.mp h with hcopy | ⟨copied, hcopied, hgo⟩
    · exact ⟨State.isLimit_of_copy hcopy, .inl hcopy⟩
    obtain ⟨-, rfl⟩ := State.copy_eq_ok.mp hcopied
    refine Break.limited_of_enters ?_
    rcases enters_of_enterAndRun hg hnode (exceptMap_eq_error.mp hgo) with
      harrive | ⟨first, hfirst, next, r', hr', hf⟩
    · exact ⟨node, _, .first (entered_jump hn), harrive⟩
    · exact ⟨next, r', .later ((opening_jump hn).trans hfirst) hr', hf⟩

/-- A reply with a walk that comes from the first node that the move executes. -/
theorem safe_of_repliedFrom (hg : graph.Closed)
    (hplace : ∃ node, graph.lookup state.currentNodeId = .ok (some node))
    (hwalk : Walk graph state r)
    (hfrom : RepliedFrom i graph move.now r (opening graph state move)) :
    Exchange.Safe i graph ⟨state, move, r⟩ := by
  refine ⟨hwalk.placed hplace, ?_, ?_, ?_⟩
  · intro first last n id r' hfirst hchain hout
    rw [hfirst] at hfrom
    exact Execution.linked_of_chain hg hchain hfrom.1 hout
  · intro first last n f hfirst hchain hn hf
    rw [hfirst] at hfrom
    obtain ⟨-, -, r', hrun, htouch⟩ := hfrom
    rw [Execution.run_of_failure hchain hf hn] at hrun
    rw [Except.ok.inj hrun]
    exact htouch
  · intro hdegraded
    cases hfirst : opening graph state move with
    | none =>
      rw [hfirst] at hfrom
      exact nomatch hfrom.symm.trans hdegraded
    | some first =>
      rw [hfirst] at hfrom
      obtain ⟨-, hd, r', hrun, htouch⟩ := hfrom
      have hdegraded' : r'.degraded = true := by rw [htouch] at hdegraded; exact hdegraded
      exact ⟨first, r', rfl, Execution.blamed_of_run hrun hd hdegraded', htouch⟩

theorem safe_of_settle (hg : graph.Closed)
    (hplace : ∃ node, graph.lookup state.currentNodeId = .ok (some node)) {text : Option String}
    {now : Moment} (session : Option SessionKey) (hr : i.settle graph text now state = .ok r) :
    Exchange.Safe i graph ⟨state, .message text session now, r⟩ := by
  obtain ⟨start, hstart⟩ := id hplace
  exact safe_of_repliedFrom hg hplace ((settle_trail hg i state hstart text now).holds hr).trail.toWalk
    (repliedFrom_settle hg hplace session hr)

/-- **Every exchange at a node of a closed graph is safe.** -/
theorem safe_of_respond (hg : graph.Closed)
    (hplace : ∃ node, graph.lookup state.currentNodeId = .ok (some node))
    (hfits : move.Fits graph) (hr : i.respond graph state move = .ok r) :
    Exchange.Safe i graph ⟨state, move, r⟩ := by
  cases move with
  | message text session now =>
    exact safe_of_settle hg hplace session ((i.step_eq_ok graph).mp hr).2
  | jump target now =>
    obtain ⟨node, hn⟩ := hfits
    exact safe_of_repliedFrom hg hplace ((advance_trail hg i state hn now).holds hr).1.toWalk
      (repliedFrom_advance hg hn hr)

/-- How some moves went: all exchanges are safe, and they are the exchanges of all the moves, or of
those before the first that met a limit. -/
structure Went (i : Interpreter) (graph : FlowGraph) (moves : List Move)
    (course : List Exchange × Option Break) : Prop where
  safe : ∀ e ∈ course.1, e.Safe i graph
  limited : ∀ b ∈ course.2, b.Limited i graph
  made : course.1.map Exchange.move ++ course.2.toList.map Break.move <+: moves
  whole : course.2 = none → course.1.map Exchange.move = moves

theorem Went.cons (hsafe : Exchange.Safe i graph ⟨state, move, r⟩) {moves : List Move}
    {course : List Exchange × Option Break} (h : Went i graph moves course) :
    Went i graph (move :: moves) (⟨state, move, r⟩ :: course.1, course.2) := by
  refine ⟨fun e he => ?_, h.limited, ?_, fun hend => ?_⟩
  · rcases List.mem_cons.mp he with rfl | he
    · exact hsafe
    · exact h.safe e he
  · exact List.cons_prefix_cons.mpr ⟨rfl, h.made⟩
  · rw [List.map_cons, h.whole hend]

theorem went_of_limited {b : Break} (h : b.Limited i graph) (moves : List Move) :
    Went i graph (b.move :: moves) ([], some b) := by
  refine ⟨fun e he => absurd he List.not_mem_nil, fun b' hb' => ?_, ?_, fun hend => nomatch hend⟩
  · rw [← Option.mem_some_iff.mp hb']
    exact h
  · exact List.cons_prefix_cons.mpr ⟨rfl, List.nil_prefix⟩

/-- From a node of the graph on. -/
theorem safe_of_goThrough (hg : graph.Closed)
    (hplace : ∃ node, graph.lookup state.currentNodeId = .ok (some node)) {moves : List Move}
    (hfits : ∀ move ∈ moves, move.Fits graph) :
    Went i graph moves (i.goThrough graph state moves) := by
  induction moves generalizing state with
  | nil =>
    refine ⟨fun e he => absurd he List.not_mem_nil, fun b hb => ?_, List.nil_prefix, fun _ => rfl⟩
    exact nomatch hb
  | cons move more ih =>
    have hfit := hfits move List.mem_cons_self
    unfold Interpreter.goThrough
    cases hr : i.respond graph state move with
    | error f => exact went_of_limited (limited_of_respond hg hplace hfit hr) more
    | ok r =>
      have hsafe := safe_of_respond hg hplace hfit hr
      exact (ih hsafe.placed fun m hm => hfits m (List.mem_cons_of_mem _ hm)).cons hsafe

/-- **Conversations in an accepted template break off at a limit only.**  From the first contact on,
every message and every jump to a node has a reply, or meets a limit.  Each reply is at a node of the
graph, each link that was taken leads to a node, and a reply is degraded if something went wrong
inside a node that was executed, or too many nodes were executed, and not for any other reason. -/
theorem safe_of_converse {document templateId version : Value} (i : Interpreter)
    (hread : Template.readGraph document templateId version = .ok graph) (key : SessionKey)
    (text : Option String) (now : Moment) {moves : List Move}
    (hfits : ∀ move ∈ moves, move.Fits graph) :
    Went i graph (.message text (some key) now :: moves) (i.converse graph key text now moves) := by
  have hg := Template.closed_of_readGraph hread
  obtain ⟨node, hnode⟩ := Option.isSome_iff_exists.mp hg.entered
  have hentry : ∃ node, graph.lookup (State.initial graph key now).currentNodeId =
      .ok (some node) := ⟨node, congrArg Except.ok hnode⟩
  unfold Interpreter.converse
  dsimp only
  rw [Interpreter.step_initial]
  cases hr : i.settle graph text now (State.initial graph key now) with
  | error f =>
    exact went_of_limited (Break.limited_of_enters (enters_of_settle hg hentry (some key) hr)) moves
  | ok r =>
    have hsafe : Exchange.Safe i graph ⟨_, .message text (some key) now, r⟩ :=
      safe_of_settle hg hentry (some key) hr
    exact (safe_of_goThrough hg hsafe.placed hfits).cons hsafe

end Safe

/-- A question, and a count that its answer is no number for. -/
def tally : Value :=
  .object [("id", .text "tally"), ("entryNodeId", .text "ask"), ("nodes", .list [
    .object [("id", .text "ask"), ("type", .text "input"), ("content", .text "How many?"),
      ("variableName", .text "count"), ("next", .text "add")],
    .object [("id", .text "add"), ("type", .text "action"), ("actions", .list [
      .object [("op", .text "increment"), ("name", .text "count"), ("value", .int 1)]]),
      ("next", .text "ask")]])]

def caller : SessionKey := ⟨.text "acme", .text "ann", .text "1"⟩

def tallyMoves : List Move :=
  [.message (some "two") none ⟨0, none⟩, .message none none ⟨1, none⟩,
    .jump (.text "ask") ⟨2, none⟩]

/-- The answer cannot be counted, neither at first nor at the next message; a jump asks again. -/
theorem safe_of_converse_tally : ∃ graph exchanges,
    Template.readGraph tally .null .null = .ok graph ∧
      (Interpreter.mk 5).converse graph caller (some "hello") ⟨0, none⟩ tallyMoves =
        (exchanges, none) ∧
      (exchanges.map fun e => e.reply.degraded) = [false, true, true, false] ∧
      Went (Interpreter.mk 5) graph (.message (some "hello") (some caller) ⟨0, none⟩ :: tallyMoves)
        (exchanges, none) := by
  have h : ((Template.readGraph tally .null .null).toOption.any fun graph =>
      let course := (Interpreter.mk 5).converse graph caller (some "hello") ⟨0, none⟩ tallyMoves
      (graph.node? "ask").isSome && course.2.isNone &&
        decide ((course.1.map fun e => e.reply.degraded) = [false, true, true, false])) = true := by
    decide +kernel
  obtain ⟨graph, hread, h⟩ := exists_of_any h
  simp only [Bool.and_eq_true] at h
  obtain ⟨⟨hask, hnone⟩, hdegraded⟩ := h
  obtain ⟨node, hnode⟩ := Option.isSome_iff_exists.mp hask
  have hfits (move : Move) (hmove : move ∈ tallyMoves) : move.Fits graph := by
    simp only [tallyMoves, List.mem_cons, List.not_mem_nil, or_false] at hmove
    rcases hmove with rfl | rfl | rfl
    · trivial
    · trivial
    · exact ⟨node, congrArg Except.ok hnode⟩
  have hcourse : (Interpreter.mk 5).converse graph caller (some "hello") ⟨0, none⟩ tallyMoves =
      (_, none) := Prod.ext rfl (Option.isNone_iff_eq_none.mp hnone)
  have hwent := safe_of_converse (Interpreter.mk 5) hread caller (some "hello") ⟨0, none⟩ hfits
  rw [hcourse] at hwent
  exact ⟨graph, _, hread, hcourse, of_decide_eq_true hdegraded, hwent⟩

/-- A number of as many digits as have a text, one more than that, and a question that shows it. -/
def tower : Value :=
  .object [("id", .text "tower"), ("entryNodeId", .text "build"), ("nodes", .list [
    .object [("id", .text "build"), ("type", .text "action"), ("actions", .list [
      .object [("op", .text "set"), ("name", .text "n"),
          ("value", .int (Nat.pow 10 4300 - 1 : Nat))],
      .object [("op", .text "increment"), ("name", .text "n")]]), ("next", .text "ask")],
    .object [("id", .text "ask"), ("type", .text "input"), ("content", .text "\x7bn\x7d")]])]

/-- The first message of a conversation in an accepted template may have no reply at all. -/
theorem broken_tower : ∃ graph fault, Template.readGraph tower .null .null = .ok graph ∧
    (Interpreter.mk 5).step graph none (some "hello") (some caller) ⟨0, none⟩ = .error fault ∧
      fault.label = "ValueError" := by
  have h : ((Template.readGraph tower .null .null).toOption.any fun graph =>
      match (Interpreter.mk 5).step graph none (some "hello") (some caller) ⟨0, none⟩ with
      | .error fault => fault.label = "ValueError"
      | .ok _ => false) = true := by
    decide +kernel
  obtain ⟨graph, hread, h⟩ := exists_of_any h
  cases hstep : (Interpreter.mk 5).step graph none (some "hello") (some caller) ⟨0, none⟩ with
  | error fault =>
    rw [hstep] at h
    exact ⟨graph, fault, hread, hstep, of_decide_eq_true h⟩
  | ok r =>
    rw [hstep] at h
    exact nomatch h

end Parley.Conversation
