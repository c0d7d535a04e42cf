import Parley.Conversation.Reply
import Parley.Value.Arithmetic

/-!
# Parley.Conversation.Interpreter — one message through a graph

`step` takes a message to the node where the conversation is, and follows links until a node waits
for the next message or the conversation ends.  A node that cannot be executed leaves a degraded
reply; the number of nodes executed for one message is bounded.
-/

namespace Parley.Conversation

open Template (FlowGraph FlowNode NodeKind Mutation)
open Time (Moment)

/-- A value with its variables filled in, if it is a text. -/
def filledIn (value : Value) (context : Fields Value) : Except Fault Value :=
  match value with
  | .text s => (Template.fillIn s context).map .text
  | v => .ok v

/-- The variables after one mutation. -/
def applyMutation (context : Fields Value) (m : Mutation) : Except Fault (Fields Value) :=
  match m.change with
  | .set => do
    .ok (context.put m.name (← filledIn m.value context))
  | .unset => .ok (context.erase m.name)
  | .increment => do
    let amount := if m.value.isNull then .int 1 else m.value
    .ok (context.put m.name (← ((context.get? m.name).getD (.int 0)).plus amount))

/-- The variables after the mutations of a node. -/
def applyMutations (node : FlowNode) (context : Fields Value) : Except Fault (Fields Value) :=
  node.mutations.foldlM applyMutation context

namespace Reply

/-- Says a text with what else the node shows; nothing is said without text and media. -/
def say (r : Reply) (node : FlowNode) (text : String) : Reply :=
  if !text.isEmpty || node.media.truthy then
    { r with outputs := r.outputs ++ [⟨.text text, node.media, node.buttons⟩] }
  else r

/-- Says the node's content. -/
def prompt (r : Reply) (node : FlowNode) : Except Fault Reply := do
  .ok (r.say node (← node.fill r.state.context))

theorem unlessLimited_prompt (r : Reply) (node : FlowNode) :
    UnlessLimited (· = r.say node (node.render r.state.context)) (r.prompt node) :=
  (node.unlessLimited_fill r.state.context).bind fun _ h => .ok (congrArg (r.say node) h)

/-- Enters a node: it becomes the current one and is noted in the history. -/
def enter (r : Reply) (node : FlowNode) : Reply :=
  let history := r.state.history ++ [.text node.id]
  { r with
    state := { r.state with currentNodeId := .text node.id, history := history }
    visited := r.visited ++ [node.id]
    stages := r.stages ++
      (node.stage.map fun s => ⟨node.id, s, (history.length : Int) - 1⟩).toList }

/-- Enters a node and tells whether execution stops there: a node that waits shows its prompt, a
terminal node its content and ends the conversation. -/
def arrive (r : Reply) (node : FlowNode) : Except Fault (Bool × Reply) :=
  let r := r.enter node
  if node.isBlocking then (r.prompt node).map (true, ·)
  else if node.kind = .terminal then (r.prompt node).map fun r => (true, r.finish)
  else .ok (false, r)

/-- Goes on to the next node, or ends the conversation where there is none. -/
def follow (r : Reply) (node : FlowNode) : Option String × Reply :=
  match node.next with
  | none => (none, r.finish)
  | some id => (some id, r)

/-- Executes a node that only says something and changes variables. -/
def executeMessage (r : Reply) (node : FlowNode) : Except Fault (Option String × Reply) := do
  let context ← applyMutations node r.state.context
  .ok (((r.setContext context).say node (← node.fill context)).follow node)

/-- Stores an answer. -/
def executeInput (r : Reply) (node : FlowNode) (text : String) :
    Except Fault (Option String × Reply) := do
  let state ← r.state.keep (node.variableName.orElse (.text node.id)) (.text text)
  .ok ({ r with state := state, captured := some true }.follow node)

/-- The target of the first branch whose test holds; tests that cannot be evaluated do not hold. -/
def firstBranch (text : String) (context : Fields Value) :
    List (Template.Branch String) → Except Fault (Option String)
  | [] => .ok none
  | b :: more =>
    match b.predicate.holds text context with
    | .ok true => .ok (some b.target)
    | .ok false | .error (.predicate ..) => firstBranch text context more
    | .error fault => .error fault

/-- Takes the first branch whose test holds, else the default link, else asks again. -/
def executeCondition (r : Reply) (node : FlowNode) (text : String) :
    Except Fault (Option String × Reply) := do
  match ← firstBranch text r.state.context node.branches with
  | some target => .ok (some target, r)
  | none =>
    match node.fallback with
    | some target => .ok (some target, r)
    | none => (r.prompt node).map (none, ·)

/-- Executes a node: the next node, or none to stop here. -/
def execute (r : Reply) (node : FlowNode) (text : Option String) :
    Except Fault (Option String × Reply) :=
  match node.kind with
  | .message | .action => r.executeMessage node
  | .input =>
    match text with
    | none => .ok (none, r)
    | some text => r.executeInput node text
  | .condition =>
    match text with
    | none => .ok (none, r)
    | some text => r.executeCondition node text
  | .terminal => .ok (none, r.finish)

def tooManySteps : String := "max chain steps exceeded"

/-- Executes nodes from the given one on, at most `limit` of them.  Only the first one sees the
message.  What goes wrong in executing a node degrades the reply; in entering a node, it ends the
call. -/
def run (graph : FlowGraph) : (limit : Nat) → FlowNode → Option String → Reply →
    Except Fault Reply
  | 0, _, _, r => .ok (r.degrade tooManySteps)
  | limit + 1, node, text, r =>
    match r.execute node text with
    | .error fault => .ok (r.degrade fault.report)
    | .ok (none, r) => .ok r
    | .ok (some id, r) =>
      match graph.node? id with
      | none => .error (.missingField id)
      | some next => do
        let (stop, r) ← r.arrive next
        if stop then .ok r else run graph limit next none r

end Reply

/-- How many nodes one message may execute. -/
structure Interpreter where
  maxChainSteps : Int := 100
  deriving DecidableEq, Repr

namespace Interpreter

/-- What is said of a node that is not there, if its name can be shown. -/
def unknownNode (graph : FlowGraph) (id : Value) : Fault :=
  match id.shown with
  | .ok shown => .unknownNode shown graph.id
  | .error fault => fault

def nodeAt (graph : FlowGraph) (id : Value) : Except Fault FlowNode := do
  match ← graph.lookup id with
  | some node => .ok node
  | none => .error (unknownNode graph id)

/-- Runs from a node on. -/
def runFrom (i : Interpreter) (graph : FlowGraph) (node : FlowNode) (text : Option String)
    (r : Reply) : Except Fault Reply :=
  r.run graph i.maxChainSteps.toNat node text

/-- Enters a node and runs from there without a message. -/
def enterAndRun (i : Interpreter) (graph : FlowGraph) (node : FlowNode) (r : Reply) :
    Except Fault Reply := do
  let (stop, r) ← r.arrive node
  if stop then .ok r else i.runFrom graph node none r

/-- The state that a message is taken to: a copy of the given one, or the start for a session. -/
def workingState (graph : FlowGraph) (state : Option State) (session : Option SessionKey)
    (now : Moment) : Except Fault State :=
  match state, session with
  | some state, _ => state.copy
  | none, some key => .ok (State.initial graph key now)
  | none, none => .error .sessionKeyRequired

/-- What an open conversation at a node does, but for the time of the reply.  The first contact
enters the node where the conversation starts, whatever the message says. -/
def goOn (i : Interpreter) (graph : FlowGraph) (node : FlowNode) (text : Option String)
    (state : State) : Except Fault Reply :=
  if state.history.isEmpty then i.enterAndRun graph node (Reply.idle state)
  else i.runFrom graph node text (Reply.idle state)

/-- A message in a state that nobody else has. -/
def settle (i : Interpreter) (graph : FlowGraph) (text : Option String) (now : Moment)
    (state : State) : Except Fault Reply :=
  if state.completed then .ok (Reply.idle state)
  else do
    let node ← nodeAt graph state.currentNodeId
    .ok ((← i.goOn graph node text state).touch now)

/-- One message. -/
def step (i : Interpreter) (graph : FlowGraph) (state : Option State) (text : Option String)
    (session : Option SessionKey) (now : Moment) : Except Fault Reply := do
  i.settle graph text now (← workingState graph state session now)

/-- A jump to a node, which reopens a completed conversation. -/
def advance (i : Interpreter) (graph : FlowGraph) (state : State) (target : Value) (now : Moment) :
    Except Fault Reply := do
  let node ← nodeAt graph target
  let r := Reply.idle { ← state.copy with completed := false }
  .ok ((← i.enterAndRun graph node r).touch now)

/-! ### What a message comes down to -/

section Step

variable (i : Interpreter) (graph : FlowGraph)

theorem step_some (state : State) (text : Option String) (session : Option SessionKey)
    (now : Moment) :
    i.step graph (some state) text session now = state.copy.bind (i.settle graph text now) := rfl

theorem step_initial (key : SessionKey) (text : Option String) (now : Moment) :
    i.step graph none text (some key) now =
      i.settle graph text now (State.initial graph key now) := rfl

/-- A message has the reply that it has in the state itself, if the state can be copied. -/
theorem step_eq_ok {state : State} {text : Option String} {session : Option SessionKey}
    {now : Moment} {r : Reply} : i.step graph (some state) text session now = .ok r ↔
      state.copyCalls ≤ Limits.calls ∧ i.settle graph text now state = .ok r := by
  rw [step_some]
  refine exceptBind_eq_ok.trans ⟨fun ⟨_, hcopy, h⟩ => ?_, fun ⟨hcopy, h⟩ => ?_⟩
  · obtain ⟨hcalls, rfl⟩ := State.copy_eq_ok.mp hcopy
    exact ⟨hcalls, h⟩
  · exact ⟨state, State.copy_eq_ok.mpr ⟨hcopy, rfl⟩, h⟩

theorem settle_completed {state : State} (h : state.completed = true) (text : Option String)
    (now : Moment) : i.settle graph text now state = .ok (Reply.idle state) := by
  unfold settle
  rw [if_pos h]

theorem settle_open {state : State} (h : state.completed = false) (text : Option String)
    (now : Moment) :
    i.settle graph text now state =
      (nodeAt graph state.currentNodeId).bind fun node =>
        (i.goOn graph node text state).map (·.touch now) := by
  unfold settle
  rw [if_neg (by rw [h]; exact Bool.false_ne_true)]
  show nodeAt graph state.currentNodeId >>= _ = _
  cases nodeAt graph state.currentNodeId with
  | error fault => rfl
  | ok node => cases i.goOn graph node text state <;> rfl

theorem nodeAt_eq {id : Value} {node : FlowNode} (h : graph.lookup id = .ok (some node)) :
    nodeAt graph id = .ok node := by
  unfold nodeAt
  rw [h]
  rfl

end Step

end Interpreter

end Parley.Conversation
