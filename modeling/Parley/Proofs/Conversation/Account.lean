import Parley.Proofs.Conversation.Safety

/-!
# Parley.Proofs.Conversation.Account — what a move does to the variables and says, node by node

`effect` is what one node does to the variables, or why it fails, and `said` what it says then;
`perform` takes the effects of nodes one after the other.  An `Account` of a reply divides the nodes
that a move comes upon into those that were performed and at most one that is left, at which the move
ends as `Ending` says: the variables are those after the nodes performed, and the outputs are what these
said, and what is shown for the last.  `accounted_of_respond`: every reply in a graph of an accepted
template has such an account, so that a node that fails leaves no trace.
-/

namespace Parley.Conversation

open Template (FlowGraph FlowNode)
open Time (Moment)

/-! ### Effects of nodes -/

/-- What is shown for a node: one message, or nothing without text and media. -/
def shown (node : FlowNode) (context : Fields Value) : List OutputMessage :=
  if !(node.render context).isEmpty || node.media.truthy then
    [⟨.text (node.render context), node.media, node.buttons⟩]
  else []

/-- What a node says when it was performed: only messages and actions do. -/
def said (node : FlowNode) (context : Fields Value) : List OutputMessage :=
  match node.kind with
  | .message | .action => shown node context
  | .input | .condition | .terminal => []

/-- The changes of a node, which must have something to say with them. -/
def changed (node : FlowNode) (s : State) : Except Fault State :=
  (applyMutations node s.context).bind fun context =>
    (node.fill context).map fun _ => { s with context := context }

/-- The tests of a condition, which must have something to ask where none holds. -/
def tested (node : FlowNode) (message : String) (s : State) : Except Fault State :=
  (Reply.firstBranch message s.context node.branches).bind fun target =>
    match target, node.fallback with
    | none, none => (node.fill s.context).map fun _ => s
    | _, _ => .ok s

/-- What a node does to the variables.  A question stores the answer, messages and actions make their
changes, a condition only tests. -/
def effect (node : FlowNode) (text : Option String) (s : State) : Except Fault State :=
  match node.kind, text with
  | .message, _ | .action, _ => changed node s
  | .input, some answer => s.keep (node.variableName.orElse (.text node.id)) (.text answer)
  | .condition, some message => tested node message s
  | .input, none | .condition, none | .terminal, _ => .ok s

/-- The effects of nodes one after the other, and all that they say.  Only the first sees the message;
each speaks after its own effect. -/
def perform : Option String → State → List FlowNode → Except Fault (State × List OutputMessage)
  | _, s, [] => .ok (s, [])
  | text, s, node :: more => do
    let s ← effect node text s
    let (last, outputs) ← perform none s more
    .ok (last, said node s.context ++ outputs)

/-- The two states hold the same variables. -/
structure SameHoldings (s s' : State) : Prop where
  context : s.context = s'.context
  slots : s.slots = s'.slots

section Effect

variable {s s' : State} {node : FlowNode} {text : Option String}

theorem SameHoldings.refl (s : State) : SameHoldings s s := ⟨rfl, rfl⟩

theorem SameHoldings.trans {s'' : State} (h : SameHoldings s s') (h' : SameHoldings s' s'') :
    SameHoldings s s'' :=
  ⟨h.context.trans h'.context, h.slots.trans h'.slots⟩

/-- Two results that fail for the same reason, or hold the same variables. -/
inductive SameEffect : Except Fault State → Except Fault State → Prop
  | error (f : Fault) : SameEffect (.error f) (.error f)
  | ok {s s' : State} : SameHoldings s s' → SameEffect (.ok s) (.ok s')

theorem sameEffect_keep (h : SameHoldings s s') (name answer : Value) :
    SameEffect (s.keep name answer) (s'.keep name answer) := by
  unfold State.keep
  split
  · exact .ok ⟨by rw [h.context], h.slots⟩
  · split_ifs
    · exact .ok ⟨h.context, by rw [h.slots]⟩
    · exact .error _

/-- An effect depends on the variables only. -/
theorem sameEffect_effect (h : SameHoldings s s') (node : FlowNode) (text : Option String) :
    SameEffect (effect node text s) (effect node text s') := by
  have hchanged : SameEffect (changed node s) (changed node s') := by
    unfold changed
    rw [h.context]
    cases applyMutations node s'.context with
    | error f => exact .error f
    | ok context =>
      dsimp only [Except.bind]
      cases node.fill context with
      | error f => exact .error f
      | ok text => exact .ok ⟨rfl, h.slots⟩
  have htested (message : String) : SameEffect (tested node message s) (tested node message s') := by
    unfold tested
    rw [h.context]
    cases Reply.firstBranch message s'.context node.branches with
    | error f => exact .error f
    | ok target =>
      dsimp only [Except.bind]
      split
      · cases node.fill s'.context with
        | error f => exact .error f
        | ok text => exact .ok h
      · exact .ok h
  unfold effect
  split
  · exact hchanged
  · exact hchanged
  · exact sameEffect_keep h _ _
  · exact htested _
  · exact .ok h
  · exact .ok h
  · exact .ok h

end Effect

/-! ### One node -/

section Node

variable {r r' : Reply} {node : FlowNode} {text : Option String}

theorem say_render (r : Reply) (node : FlowNode) (context : Fields Value) :
    r.say node (node.render context) = { r with outputs := r.outputs ++ shown node context } := by
  unfold Reply.say shown
  split_ifs
  · rfl
  · rw [List.append_nil]

theorem prompt_eq (h : r.prompt node = .ok r') :
    r' = { r with outputs := r.outputs ++ shown node r.state.context } := by
  rw [(r.unlessLimited_prompt node).holds h]
  exact say_render r node r.state.context

/-- A node that fails in a reply fails to have an effect. -/
theorem effect_of_error {f : Fault} (h : r.execute node text = .error f) :
    effect node text r.state = .error f := by
  have hmessage (h : r.executeMessage node = .error f) : changed node r.state = .error f := by
    unfold changed
    rcases exceptBind_eq_error.mp h with h | ⟨context, hcontext, h⟩
    · rw [h]
      rfl
    · rw [hcontext]
      rcases exceptBind_eq_error.mp h with h | ⟨text, -, h⟩
      · exact exceptMap_eq_error.mpr h
      · exact nomatch h
  unfold Reply.execute at h
  unfold effect
  cases hk : node.kind with
  | message | action =>
    rw [hk] at h
    exact hmessage h
  | terminal =>
    rw [hk] at h
    exact nomatch h
  | input =>
    rw [hk] at h
    cases text with
    | none => exact nomatch h
    | some answer =>
      rcases exceptBind_eq_error.mp h with h | ⟨state, -, h⟩
      · exact h
      · exact nomatch h
  | condition =>
    rw [hk] at h
    cases text with
    | none => exact nomatch h
    | some message =>
      show tested node message r.state = .error f
      unfold tested
      rcases exceptBind_eq_error.mp h with h | ⟨target, htarget, h⟩
      · rw [h]
        rfl
      · rw [htarget]
        cases target with
        | some target => exact nomatch h
        | none =>
          dsimp only at h
          cases hf : node.fallback with
          | some id =>
            rw [hf] at h
            exact nomatch h
          | none =>
            rw [hf] at h
            rcases exceptBind_eq_error.mp (exceptMap_eq_error.mp h) with h | ⟨said, -, h⟩
            · dsimp only [Except.bind]
              exact exceptMap_eq_error.mpr h
            · exact nomatch h

/-- The node was performed: it had its effect, and said what it says. -/
structure Performed (r : Reply) (node : FlowNode) (text : Option String) (r' : Reply) : Prop where
  had : ∃ s, effect node text r.state = .ok s ∧ SameHoldings s r'.state
  outputs : r'.outputs = r.outputs ++ said node r'.state.context

/-- How a node that was executed stops a run. -/
inductive Stopped (r : Reply) (node : FlowNode) (text : Option String) (r' : Reply) : Prop
  /-- It has no next node. -/
  | ended : Performed r node text r' → r'.completed = true → Stopped r node text r'
  /-- It waits for a text. -/
  | waiting : node.isBlocking = true → text = none → r' = r → Stopped r node text r'
  /-- It is a condition that nothing fits, and asks again. -/
  | unmatched {message : String} : node.kind = .condition → text = some message →
    Reply.firstBranch message r.state.context node.branches = .ok none → node.fallback = none →
    r.prompt node = .ok r' → Stopped r node text r'

/-- What the execution of a node does. -/
def Does (r : Reply) (node : FlowNode) (text : Option String) : Option String × Reply → Prop
  | (some _, r') => Performed r node text r'
  | (none, r') => Stopped r node text r'

theorem does_follow (h : Performed r node text r') : Does r node text (r'.follow node) := by
  unfold Reply.follow
  split
  · obtain ⟨s, hs, hsame⟩ := h.had
    exact .ended ⟨⟨s, hs, hsame.context, hsame.slots⟩, h.outputs⟩ rfl
  · exact h

theorem does_of_executeMessage {out : Option String × Reply}
    (hk : node.kind = .message ∨ node.kind = .action) (h : r.executeMessage node = .ok out) :
    Does r node text out := by
  obtain ⟨context, hcontext, h⟩ := exceptBind_eq_ok.mp h
  obtain ⟨text, htext, h⟩ := exceptBind_eq_ok.mp h
  have hchanged : changed node r.state = .ok { r.state with context := context } := by
    unfold changed
    rw [hcontext]
    dsimp only [Except.bind]
    rw [htext]
    rfl
  rw [← Except.ok.inj h, (node.unlessLimited_fill context).holds htext]
  refine does_follow ⟨⟨{ r.state with context := context }, ?_, ?_⟩, ?_⟩
  · unfold effect
    rcases hk with hk | hk <;> rw [hk] <;> exact hchanged
  · show SameHoldings _ (((r.setContext context).say node (node.render context)).state)
    rw [say_render]
    exact ⟨rfl, rfl⟩
  · show ((r.setContext context).say node (node.render context)).outputs =
      r.outputs ++ said node ((r.setContext context).say node (node.render context)).state.context
    rw [say_render]
    rcases hk with hk | hk <;> simp only [said, hk] <;> rfl

theorem does_of_executeInput {out : Option String × Reply} {answer : String}
    (hk : node.kind = .input) (h : r.executeInput node answer = .ok out) :
    Does r node (some answer) out := by
  obtain ⟨state, hkeep, h⟩ := exceptBind_eq_ok.mp h
  rw [← Except.ok.inj h]
  refine does_follow ⟨⟨state, ?_, .refl state⟩, ?_⟩
  · unfold effect
    rw [hk]
    exact hkeep
  · rw [said, hk, List.append_nil]

theorem does_of_executeCondition {out : Option String × Reply} {message : String}
    (hk : node.kind = .condition) (h : r.executeCondition node message = .ok out) :
    Does r node (some message) out := by
  obtain ⟨target, htarget, h⟩ := exceptBind_eq_ok.mp h
  have hperformed (hgo : target ≠ none ∨ node.fallback ≠ none) :
      Performed r node (some message) r := by
    refine ⟨⟨r.state, ?_, .refl _⟩, by rw [said, hk, List.append_nil]⟩
    unfold effect
    rw [hk]
    show tested node message r.state = _
    unfold tested
    rw [htarget]
    dsimp only [Except.bind]
    split
    · rename_i hnone hnone'
      exact absurd hnone' (hgo.resolve_left fun h => h rfl)
    · rfl
  cases target with
  | some target =>
    rw [← Except.ok.inj h]
    exact hperformed (.inl (Option.some_ne_none _))
  | none =>
    dsimp only at h
    split at h
    · rename_i id hfallback
      rw [← Except.ok.inj h]
      exact hperformed (.inr (hfallback ▸ Option.some_ne_none _))
    · rename_i hfallback
      obtain ⟨r', hprompt, rfl⟩ := exceptMap_eq_ok.mp h
      exact .unmatched hk rfl htarget hfallback hprompt

/-- Every node that is executed is performed, or stops there. -/
theorem does_of_execute {out : Option String × Reply} (h : r.execute node text = .ok out) :
    Does r node text out := by
  unfold Reply.execute at h
  cases hk : node.kind with
  | message =>
    rw [hk] at h
    exact does_of_executeMessage (.inl hk) h
  | action =>
    rw [hk] at h
    exact does_of_executeMessage (.inr hk) h
  | input =>
    rw [hk] at h
    cases text with
    | some answer => exact does_of_executeInput hk h
    | none =>
      rw [← Except.ok.inj h]
      exact .waiting (by rw [Template.NodeOf.isBlocking, hk]; rfl) rfl rfl
  | condition =>
    rw [hk] at h
    cases text with
    | some message => exact does_of_executeCondition hk h
    | none =>
      rw [← Except.ok.inj h]
      exact .waiting (by rw [Template.NodeOf.isBlocking, hk]; rfl) rfl rfl
  | terminal =>
    rw [hk] at h
    rw [← Except.ok.inj h]
    refine .ended ⟨⟨r.state, ?_, ⟨rfl, rfl⟩⟩, ?_⟩ rfl
    · unfold effect
      rw [hk]
    · rw [said, hk, List.append_nil]
      rfl

/-- A node is entered: one that stops the run is shown. -/
theorem arrive_cases {out : Bool × Reply} (h : r.arrive node = .ok out) :
    (out.1 = true ∧
      (node.isBlocking = true ∨ node.kind = .terminal ∧ out.2.completed = true) ∧
      out.2.outputs = r.outputs ++ shown node r.state.context ∧
      SameHoldings r.state out.2.state) ∨
    (out.1 = false ∧ Passing node ∧ out.2 = r.enter node) := by
  unfold Reply.arrive at h
  dsimp only at h
  by_cases hb : node.isBlocking = true
  · rw [if_pos hb] at h
    obtain ⟨r', hprompt, rfl⟩ := exceptMap_eq_ok.mp h
    rw [prompt_eq hprompt]
    exact .inl ⟨rfl, .inl hb, rfl, rfl, rfl⟩
  · rw [if_neg hb] at h
    by_cases ht : node.kind = .terminal
    · rw [if_pos ht] at h
      obtain ⟨r', hprompt, rfl⟩ := exceptMap_eq_ok.mp h
      rw [prompt_eq hprompt]
      exact .inl ⟨rfl, .inr ⟨ht, rfl⟩, rfl, rfl, rfl⟩
    · rw [if_neg ht] at h
      rw [← Except.ok.inj h]
      exact .inr ⟨rfl, passing_of_not_isBlocking hb ht, rfl⟩

theorem still_arrive {out : Bool × Reply} (h : r.arrive node = .ok out) :
    Still (r.enter node) out.2 := by
  unfold Reply.arrive at h
  dsimp only at h
  split_ifs at h
  · obtain ⟨r', hprompt, rfl⟩ := exceptMap_eq_ok.mp h
    exact still_prompt hprompt
  · obtain ⟨r', hprompt, rfl⟩ := exceptMap_eq_ok.mp h
    exact (still_prompt hprompt).trans (still_finish _)
  · rw [← Except.ok.inj h]
    exact .refl _

end Node

/-! ### Several nodes -/

/-- The message, for the first node. -/
def heard (text : Option String) : List FlowNode → Option String
  | [] => text
  | _ :: _ => none

section Perform

variable {s s' last : State} {node : FlowNode} {text : Option String} {done : List FlowNode}
  {outputs : List OutputMessage} {f : Fault}

theorem perform_concat (h : perform text s done = .ok (last, outputs))
    (hnode : effect node (heard text done) last = .ok s') :
    perform text s (done ++ [node]) = .ok (s', outputs ++ said node s'.context) := by
  induction done generalizing text s outputs with
  | nil =>
    obtain ⟨rfl, rfl⟩ := Prod.mk.inj (Except.ok.inj h)
    refine exceptBind_eq_ok.mpr ⟨s', hnode, exceptBind_eq_ok.mpr ⟨(s', []), rfl, ?_⟩⟩
    show Except.ok (s', said node s'.context ++ []) = _
    rw [List.append_nil, List.nil_append]
  | cons first more ih =>
    obtain ⟨s₁, hfirst, h⟩ := exceptBind_eq_ok.mp h
    obtain ⟨⟨last', later⟩, hmore, h⟩ := exceptBind_eq_ok.mp h
    obtain ⟨rfl, rfl⟩ := Prod.mk.inj (Except.ok.inj h)
    have hnode : effect node (heard none more) last' = .ok s' := by
      cases more <;> exact hnode
    refine exceptBind_eq_ok.mpr ⟨s₁, hfirst, exceptBind_eq_ok.mpr ⟨_, ih hmore hnode, ?_⟩⟩
    rw [List.append_assoc]

theorem effect_ok_of_same (h : SameHoldings s s') (hs : effect node text s' = .ok last) :
    ∃ last', effect node text s = .ok last' ∧ SameHoldings last' last := by
  have hsame := sameEffect_effect h node text
  rw [hs] at hsame
  cases heffect : effect node text s with
  | error f =>
    rw [heffect] at hsame
    exact nomatch hsame
  | ok last' =>
    rw [heffect] at hsame
    cases hsame with
    | ok h => exact ⟨last', rfl, h⟩

theorem effect_error_of_same (h : SameHoldings s s') (hs : effect node text s' = .error f) :
    effect node text s = .error f := by
  have hsame := sameEffect_effect h node text
  rw [hs] at hsame
  cases heffect : effect node text s with
  | error f' =>
    rw [heffect] at hsame
    cases hsame
    rfl
  | ok last' =>
    rw [heffect] at hsame
    exact nomatch hsame

end Perform

/-! ### Accounts -/

/-- The nodes that a move comes upon: that at which it takes up the conversation, and those that it
enters. -/
structure Came (graph : FlowGraph) (start : Option FlowNode) (r : Reply) (nodes : List FlowNode) :
    Prop where
  entered : ∃ entered : List FlowNode, nodes = start.toList ++ entered ∧
    r.visited = entered.map (·.id) ∧ ∀ node ∈ entered, graph.node? node.id = some node
  /-- The last of them is the current one. -/
  position : ∀ node ∈ nodes.getLast?, r.state.currentNodeId = .text node.id

/-- How a move ends after the nodes `done`: which node is left, and what is shown for it. -/
inductive Ending (limit : Nat) (start : Option FlowNode) (text : Option String)
    (done : List FlowNode) (s : State) (r : Reply) : List FlowNode → List OutputMessage → Prop
  /-- The conversation is over. -/
  | ended : r.degraded = false → r.completed = true → Ending limit start text done s r [] []
  /-- A node was entered that waits, or that closes the conversation. -/
  | entered {node : FlowNode} : r.degraded = false → r.visited.getLast? = some node.id →
    (node.isBlocking = true ∨ node.kind = .terminal ∧ r.completed = true) →
    Ending limit start text done s r [node] (shown node s.context)
  /-- The conversation is taken up at a node that waits, without a text. -/
  | waiting {node : FlowNode} : r.degraded = false → done = [] → start = some node →
    node.isBlocking = true → text = none → Ending limit start text done s r [node] []
  /-- The conversation is taken up at a condition that nothing fits, and which asks again. -/
  | unmatched {node : FlowNode} {message : String} : r.degraded = false → done = [] →
    start = some node → node.kind = .condition → text = some message →
    Reply.firstBranch message s.context node.branches = .ok none → node.fallback = none →
    Ending limit start text done s r [node] (shown node s.context)
  /-- A node failed. -/
  | failed {node : FlowNode} {f : Fault} : r.degraded = true → r.error = some f.report →
    done.length < limit → effect node (heard text done) s = .error f →
    Ending limit start text done s r [node] []
  /-- So many nodes were performed that the next was not. -/
  | cut {node : FlowNode} : r.degraded = true → r.error = some Reply.tooManySteps →
    done.length = limit → Ending limit start text done s r [node] []

/-- What a move in the state `before` did.  The nodes that it came upon are those performed, and at
most one that is left. -/
structure Account (limit : Nat) (graph : FlowGraph) (before : State) (start : Option FlowNode)
    (text : Option String) (r : Reply) where
  done : List FlowNode
  rest : List FlowNode
  after : State
  outputs : List OutputMessage
  closing : List OutputMessage
  came : Came graph start r (done ++ rest)
  /-- Nodes that were entered and performed pass on. -/
  passing : ∀ node ∈ done.drop start.toList.length, Passing node
  performed : perform text before done = .ok (after, outputs)
  /-- The variables are those after the nodes performed. -/
  holdings : SameHoldings after r.state
  /-- The outputs are what these said, and what is shown for the node that is left. -/
  said : r.outputs = outputs ++ closing
  ending : Ending limit start text done after r rest closing

/-- A move after the nodes `done` were performed. -/
structure Progress (graph : FlowGraph) (before : State) (start : Option FlowNode)
    (text : Option String) (done : List FlowNode) (r : Reply) : Prop where
  came : Came graph start r done
  passing : ∀ node ∈ done.drop start.toList.length, Passing node
  performed : ∃ s, perform text before done = .ok (s, r.outputs) ∧ SameHoldings s r.state
  /-- Nothing is left of the message. -/
  spent : heard text done = none
  degraded : r.degraded = false

/-- A move before a node is executed, after the nodes `done` were performed. -/
structure Underway (graph : FlowGraph) (before : State) (start : Option FlowNode)
    (text : Option String) (done : List FlowNode) (e : Execution) : Prop where
  known : graph.node? e.node.id = some e.node
  came : Came graph start e.reply (done ++ [e.node])
  passing : ∀ node ∈ done.drop start.toList.length, Passing node
  /-- The node was entered just now, unless it is the first. -/
  entered : done = [] ∧ start = some e.node ∨ Passing e.node
  performed : ∃ s, perform text before done = .ok (s, e.reply.outputs) ∧
    SameHoldings s e.reply.state
  heard : e.text = heard text done
  degraded : e.reply.degraded = false

section Run

variable {graph : FlowGraph} {before : State} {start : Option FlowNode} {text : Option String}
  {done nodes : List FlowNode} {e : Execution} {r r' : Reply} {next : FlowNode} {limit : Nat}

theorem Came.still (h : Came graph start r nodes) (hs : Still r r') : Came graph start r' nodes := by
  refine ⟨?_, fun node hnode => ?_⟩
  · rw [hs.visited]
    exact h.entered
  · rw [hs.currentNodeId]
    exact h.position node hnode

theorem Came.degrade (h : Came graph start r nodes) (wording : String) :
    Came graph start (r.degrade wording) nodes :=
  ⟨h.entered, h.position⟩

theorem Came.arrive (h : Came graph start r nodes) (hn : graph.node? next.id = some next)
    {out : Bool × Reply} (harrive : r.arrive next = .ok out) :
    Came graph start out.2 (nodes ++ [next]) := by
  refine Came.still ?_ (still_arrive harrive)
  obtain ⟨⟨entered, hnodes, hvisited, hknown⟩, -⟩ := h
  refine ⟨⟨entered ++ [next], ?_, ?_, fun node hnode => ?_⟩, fun node hnode => ?_⟩
  · rw [hnodes, List.append_assoc]
  · rw [List.map_append, ← hvisited]
    rfl
  · rcases List.mem_append.mp hnode with hnode | hnode
    · exact hknown node hnode
    · rw [List.mem_singleton.mp hnode]
      exact hn
  · rw [List.getLast?_concat, Option.mem_some_iff] at hnode
    rw [← hnode]
    rfl

/-- The conversation is over. -/
theorem Progress.account_of_completed (h : Progress graph before start text done r)
    (hcompleted : r.completed = true) : Nonempty (Account limit graph before start text r) := by
  obtain ⟨s, hperform, hsame⟩ := h.performed
  exact ⟨{
    done := done, rest := [], after := s, outputs := r.outputs, closing := []
    came := by rw [List.append_nil]; exact h.came
    passing := h.passing
    performed := hperform
    holdings := hsame
    said := (List.append_nil _).symm
    ending := .ended h.degraded hcompleted }⟩

/-- A node is entered that stops the move. -/
theorem Progress.account_of_arrive (h : Progress graph before start text done r)
    (hn : graph.node? next.id = some next) (harrive : r.arrive next = .ok (true, r')) :
    Nonempty (Account limit graph before start text r') := by
  obtain ⟨s, hperform, hsame⟩ := h.performed
  rcases arrive_cases harrive with ⟨-, hkind, hshown, hheld⟩ | ⟨hgo, -⟩
  · exact ⟨{
      done := done, rest := [next], after := s, outputs := r.outputs, closing := shown next s.context
      came := h.came.arrive hn harrive
      passing := h.passing
      performed := hperform
      holdings := hsame.trans hheld
      said := by rw [hshown, hsame.context]
      ending := .entered (by rw [Execution.degraded_arrive harrive, h.degraded])
        (by rw [(still_arrive harrive).visited]; exact List.getLast?_concat) hkind }⟩
  · exact nomatch hgo

/-- A node is entered and will be executed. -/
theorem Progress.underway (h : Progress graph before start text done r)
    (hn : graph.node? next.id = some next) (harrive : r.arrive next = .ok (false, r')) :
    Underway graph before start text done ⟨next, none, r'⟩ := by
  obtain ⟨s, hperform, hsame⟩ := h.performed
  rcases arrive_cases harrive with ⟨hgo, -⟩ | ⟨-, hpassing, henter⟩
  · exact nomatch hgo
  · refine ⟨hn, h.came.arrive hn harrive, h.passing, .inr hpassing, ⟨s, ?_⟩, h.spent.symm, ?_⟩
    · obtain rfl : r' = r.enter next := henter
      exact ⟨hperform, hsame.context, hsame.slots⟩
    · rw [Execution.degraded_arrive harrive, h.degraded]

/-- The node is performed too. -/
theorem Underway.progress (h : Underway graph before start text done e)
    (hs : Still e.reply r) (hnode : Performed e.reply e.node e.text r) :
    Progress graph before start text (done ++ [e.node]) r where
  came := h.came.still hs
  passing := by
    intro node hnode
    rcases h.entered with ⟨rfl, hstart⟩ | hpassing
    · rw [hstart] at hnode
      exact absurd hnode List.not_mem_nil
    · rw [List.drop_append] at hnode
      rcases List.mem_append.mp hnode with hnode | hnode
      · exact h.passing node hnode
      · rw [List.mem_singleton.mp (List.mem_of_mem_drop hnode)]
        exact hpassing
  performed := by
    obtain ⟨s, hs, hsame⟩ := h.performed
    obtain ⟨s₁, heffect, hsame₁⟩ := hnode.had
    obtain ⟨s', heffect', hsame'⟩ := effect_ok_of_same hsame heffect
    have hsame' := hsame'.trans hsame₁
    rw [h.heard] at heffect'
    refine ⟨s', ?_, hsame'⟩
    rw [perform_concat hs heffect', hnode.outputs, hsame'.context]
  spent := by cases done <;> rfl
  degraded := by rw [hs.degraded, h.degraded]

/-- A node at which a run stops. -/
theorem Underway.account_of_stopped (h : Underway graph before start text done e)
    (hs : Still e.reply r) (hstop : Stopped e.reply e.node e.text r) :
    Nonempty (Account limit graph before start text r) := by
  have hd : r.degraded = false := by rw [hs.degraded, h.degraded]
  obtain ⟨s, hperform, hsame⟩ := h.performed
  -- a node that waits was not entered on the way
  have hfirst (hw : Waiting e.node) : done = [] ∧ start = some e.node := by
    rcases h.entered with hfirst | hp
    · exact hfirst
    · rcases hw with hk | hk <;> rcases hp with hp | hp <;> rw [hk] at hp <;> exact nomatch hp
  cases hstop with
  | ended hnode hcompleted => exact (h.progress hs hnode).account_of_completed hcompleted
  | waiting hb htext hr =>
    obtain ⟨hdone, hstart⟩ := hfirst (waiting_of_isBlocking hb)
    rw [h.heard, hdone] at htext
    rw [hr] at hd ⊢
    exact ⟨{
      done := done, rest := [e.node], after := s, outputs := e.reply.outputs, closing := []
      came := h.came
      passing := h.passing
      performed := hperform
      holdings := hsame
      said := (List.append_nil _).symm
      ending := .waiting hd hdone hstart hb htext }⟩
  | unmatched hk htext hbranch hfallback hr =>
    obtain ⟨hdone, hstart⟩ := hfirst (.inr hk)
    have hcame := h.came.still hs
    rw [h.heard, hdone] at htext
    rw [prompt_eq hr] at hd hcame ⊢
    exact ⟨{
      done := done, rest := [e.node], after := s, outputs := e.reply.outputs
      closing := shown e.node s.context
      came := hcame
      passing := h.passing
      performed := hperform
      holdings := ⟨hsame.context, hsame.slots⟩
      said := by rw [hsame.context]
      ending := .unmatched hd hdone hstart hk htext (hsame.context ▸ hbranch) hfallback }⟩

/-- All that a run does is accounted for. -/
theorem Underway.account_of_run (hg : graph.Closed) (h : Underway graph before start text done e)
    {left : Nat} (hleft : done.length + left = limit) (hrun : e.run graph left = .ok r) :
    Nonempty (Account limit graph before start text r) := by
  induction left generalizing done e with
  | zero =>
    obtain ⟨s, hperform, hsame⟩ := h.performed
    rw [← Except.ok.inj hrun]
    exact ⟨{
      done := done, rest := [e.node], after := s, outputs := e.reply.outputs, closing := []
      came := h.came.degrade _
      passing := h.passing
      performed := hperform
      holdings := hsame
      said := (List.append_nil _).symm
      ending := .cut rfl rfl hleft }⟩
  | succ left ih =>
    cases hout : e.outcome with
    | error f =>
      obtain ⟨s, hperform, hsame⟩ := h.performed
      rw [Execution.run_of_error hout] at hrun
      rw [← Except.ok.inj hrun]
      have hfailed := effect_error_of_same hsame (effect_of_error hout)
      rw [h.heard] at hfailed
      exact ⟨{
        done := done, rest := [e.node], after := s, outputs := e.reply.outputs, closing := []
        came := h.came.degrade _
        passing := h.passing
        performed := hperform
        holdings := hsame
        said := (List.append_nil _).symm
        ending := .failed rfl rfl (by omega) hfailed }⟩
    | ok out =>
      obtain ⟨target, r₁⟩ := out
      have hexec := executed_execute (show e.reply.execute e.node e.text = _ from hout)
      have hdoes := does_of_execute (show e.reply.execute e.node e.text = _ from hout)
      cases target with
      | none =>
        rw [Execution.run_of_stop hout] at hrun
        rw [← Except.ok.inj hrun]
        exact h.account_of_stopped hexec.1 hdoes
      | some id =>
        obtain ⟨hstill, hmem, -⟩ := hexec
        obtain ⟨next, hnode⟩ := Option.isSome_iff_exists.mp (hg.linked h.known hmem)
        obtain rfl : next.id = id := hg.named hnode
        have hprogress := h.progress hstill hdoes
        rw [Execution.run_of_link hout hnode] at hrun
        obtain ⟨⟨stop, r₂⟩, harrive, hrun⟩ := exceptBind_eq_ok.mp hrun
        cases stop with
        | true => exact Except.ok.inj hrun ▸ hprogress.account_of_arrive hnode harrive
        | false =>
          refine ih (hprogress.underway hnode harrive) ?_ hrun
          rw [List.length_append, List.length_singleton]
          omega

end Run

/-! ### Moves -/

/-- The text of a message. -/
def Move.text : Move → Option String
  | message text .. => text
  | jump .. => none

/-- The node at which a move takes up the conversation.  A message does at that where an open
conversation was left; the first message and a jump enter a node instead. -/
def resumed (graph : FlowGraph) (state : State) : Move → Option FlowNode
  | .message .. =>
    if state.completed || state.history.isEmpty then none
    else (graph.lookup state.currentNodeId).toOption.join
  | .jump .. => none

/-- The text for that node. -/
def taken (graph : FlowGraph) (state : State) (move : Move) : Option String :=
  (resumed graph state move).bind fun _ => move.text

section Respond

variable {i : Interpreter} {graph : FlowGraph} {state before : State} {move : Move}
  {node : FlowNode} {r : Reply}

theorem Ending.touch {limit : Nat} {start : Option FlowNode} {text : Option String}
    {done rest : List FlowNode} {s : State} {closing : List OutputMessage} (now : Moment)
    (h : Ending limit start text done s r rest closing) :
    Ending limit start text done s (r.touch now) rest closing := by
  cases h with
  | ended hd hc => exact .ended hd hc
  | entered hd hlast hkind => exact .entered hd hlast hkind
  | waiting hd hdone hstart hb htext => exact .waiting hd hdone hstart hb htext
  | unmatched hd hdone hstart hk htext hbranch hfallback =>
    exact .unmatched hd hdone hstart hk htext hbranch hfallback
  | failed hd he hn hf => exact .failed hd he hn hf
  | cut hd he hn => exact .cut hd he hn

/-- The time of a reply does not matter. -/
theorem account_touch {limit : Nat} {start : Option FlowNode} {text : Option String} (now : Moment)
    (h : Nonempty (Account limit graph before start text r)) :
    Nonempty (Account limit graph before start text (r.touch now)) := by
  obtain ⟨a⟩ := h
  exact ⟨{ a with
    came := ⟨a.came.entered, a.came.position⟩
    holdings := ⟨a.holdings.context, a.holdings.slots⟩
    ending := a.ending.touch now }⟩

theorem progress_idle (graph : FlowGraph) (h : SameHoldings before state) :
    Progress graph before none none [] (Reply.idle state) where
  came := ⟨⟨[], rfl, rfl, fun _ h => absurd h List.not_mem_nil⟩, fun _ h => nomatch h⟩
  passing := fun _ h => absurd h List.not_mem_nil
  performed := ⟨before, rfl, h⟩
  spent := rfl
  degraded := rfl

theorem account_of_enterAndRun (hg : graph.Closed) (hn : graph.node? node.id = some node)
    (h : SameHoldings before state)
    (hrun : i.enterAndRun graph node (Reply.idle state) = .ok r) :
    Nonempty (Account i.maxChainSteps.toNat graph before none none r) := by
  have hidle := progress_idle graph h
  obtain ⟨⟨stop, r₁⟩, harrive, hrun⟩ := exceptBind_eq_ok.mp hrun
  cases stop with
  | true => exact Except.ok.inj hrun ▸ hidle.account_of_arrive hn harrive
  | false => exact (hidle.underway hn harrive).account_of_run hg (Nat.zero_add _) hrun

theorem account_of_runFrom (hg : graph.Closed)
    (hn : graph.lookup state.currentNodeId = .ok (some node)) {text : Option String}
    (hrun : i.runFrom graph node text (Reply.idle state) = .ok r) :
    Nonempty (Account i.maxChainSteps.toNat graph state (some node) text r) := by
  obtain ⟨hid, hnode⟩ := lookup_eq_some hg hn
  have hunderway : Underway graph state (some node) text [] ⟨node, text, Reply.idle state⟩ := {
    known := hnode
    came := by
      refine ⟨⟨[], rfl, rfl, fun _ h => absurd h List.not_mem_nil⟩, fun last hlast => ?_⟩
      rw [List.nil_append, List.getLast?_singleton, Option.mem_some_iff] at hlast
      rw [← hlast]
      exact hid
    passing := fun _ h => absurd h List.not_mem_nil
    entered := .inl ⟨rfl, rfl⟩
    performed := ⟨state, rfl, .refl state⟩
    heard := rfl
    degraded := rfl }
  exact hunderway.account_of_run hg (Nat.zero_add _) hrun

/-- All that a message does is accounted for. -/
theorem account_of_settle (hg : graph.Closed) {text : Option String} (session : Option SessionKey)
    {now : Moment} (h : i.settle graph text now state = .ok r) :
    Nonempty (Account i.maxChainSteps.toNat graph state
      (resumed graph state (.message text session now))
      (taken graph state (.message text session now)) r) := by
  unfold taken resumed
  by_cases hc : state.completed = true
  · rw [i.settle_completed graph hc] at h
    rw [hc, ← Except.ok.inj h]
    exact (progress_idle graph (.refl state)).account_of_completed hc
  · rw [Bool.not_eq_true] at hc
    obtain ⟨node, hnode, -⟩ := exceptBind_eq_ok.mp (i.settle_open graph hc text now ▸ h)
    have hlookup := lookup_of_nodeAt hnode
    obtain ⟨-, hknown⟩ := lookup_eq_some hg hlookup
    rw [settle_at hc i hlookup] at h
    obtain ⟨r', hgo, rfl⟩ := exceptMap_eq_ok.mp h
    refine account_touch now ?_
    unfold Interpreter.goOn at hgo
    rw [hc, Bool.false_or]
    by_cases hh : state.history.isEmpty = true
    · rw [if_pos hh] at hgo ⊢
      exact account_of_enterAndRun hg hknown (.refl state) hgo
    · rw [if_neg hh] at hgo ⊢
      rw [hlookup]
      exact account_of_runFrom hg hlookup hgo

/-- All that a jump does is accounted for. -/
theorem account_of_advance (hg : graph.Closed) {target : Value} {now : Moment}
    (h : i.advance graph state target now = .ok r) :
    Nonempty (Account i.maxChainSteps.toNat graph state none none r) := by
  obtain ⟨node, hnode, -⟩ := exceptBind_eq_ok.mp h
  have hlookup := lookup_of_nodeAt hnode
  obtain ⟨-, hknown⟩ := lookup_eq_some hg hlookup
  rw [advance_at i state hlookup] at h
  obtain ⟨copied, hcopied, hgo⟩ := exceptBind_eq_ok.mp h
  obtain ⟨-, rfl⟩ := State.copy_eq_ok.mp hcopied
  obtain ⟨r', hrun, rfl⟩ := exceptMap_eq_ok.mp hgo
  have hreopened : SameHoldings copied { copied with completed := false } := ⟨rfl, rfl⟩
  exact account_touch now (account_of_enterAndRun hg hknown hreopened hrun)

/-- **A move does what the nodes do that it performs, one after the other, and nothing else.**  In a
graph read from an accepted template, the variables after a message or a jump are those that the
effects of the nodes performed lead to; only the node where a message takes up the conversation sees
its text.  The outputs are what these nodes say, each after its own changes, and what is shown for
the node at which the move stops.  A node that fails is the current one, and has neither changed a
variable nor said anything.  A conversation that stands at a node of the graph has a reply to each
message and each jump to a node, and so has the first contact, unless a limit is met. -/
theorem accounted_of_respond {document templateId version : Value} (i : Interpreter)
    (hread : Template.readGraph document templateId version = .ok graph) :
    (∀ state move r, i.respond graph state move = .ok r →
      Nonempty (Account i.maxChainSteps.toNat graph state (resumed graph state move)
        (taken graph state move) r)) ∧
    (∀ (state : State) (move : Move),
      (∃ node, graph.lookup state.currentNodeId = .ok (some node)) → move.Fits graph →
      ∀ f, i.respond graph state move = .error f → f.isLimit = true) ∧
    ∀ (key : SessionKey) (text : Option String) (now : Moment),
      UnlessLimited (fun r => Nonempty
          (Account i.maxChainSteps.toNat graph (State.initial graph key now) none none r))
        (i.step graph none text (some key) now) := by
  have hg := Template.closed_of_readGraph hread
  refine ⟨fun state move r hr => ?_, fun state move hplace hfits f hf => ?_, fun key text now => ?_⟩
  · cases move with
    | message text session now =>
      exact account_of_settle hg session ((i.step_eq_ok graph).mp hr).2
    | jump target now => exact account_of_advance hg hr
  · exact (limited_of_respond hg hplace hfits hf).isLimit
  · obtain ⟨node, hnode⟩ := Option.isSome_iff_exists.mp hg.entered
    rw [i.step_initial]
    refine .of_cases (fun r hr => account_of_settle hg none hr) fun f hf => ?_
    exact (settle_trail hg i (State.initial graph key now) (congrArg Except.ok hnode) text
      now).isLimit hf

end Respond

/-- A question, a message that notes the answer, and a count that the answer is no number for. -/
def orders : Value :=
  .object [("id", .text "orders"), ("entryNodeId", .text "ask"), ("nodes", .list [
    .object [("id", .text "ask"), ("type", .text "input"), ("content", .text "How many?"),
      ("variableName", .text "count"), ("next", .text "note")],
    .object [("id", .text "note"), ("type", .text "message"), ("content", .text "You said {said}."),
      ("actions", .list [
        .object [("op", .text "set"), ("name", .text "said"), ("value", .text "{count}")]]),
      ("next", .text "add")],
    .object [("id", .text "add"), ("type", .text "action"), ("content", .text "Added."),
      ("actions", .list [
        .object [("op", .text "set"), ("name", .text "said"), ("value", .text "nothing")],
        .object [("op", .text "increment"), ("name", .text "count"), ("value", .int 1)]]),
      ("next", .text "ask")]])]

/-- The question of the orders was asked. -/
def ordering : State := { asked with flowId := .text "orders" }

/-- The answer is kept and noted.  It cannot be counted, so that the last node has not even made the
change before the count, and is where the conversation is now. -/
theorem accounted_of_respond_orders : ∃ graph r,
    Template.readGraph orders .null .null = .ok graph ∧
      (Interpreter.mk 5).respond graph ordering (.message (some "two") none ⟨0, none⟩) = .ok r ∧
      r.degraded = true ∧ r.state.context = [("count", .text "two"), ("said", .text "two")] ∧
      r.outputs = [⟨.text "You said two.", .null, []⟩] ∧ r.state.currentNodeId = .text "add" ∧
      Nonempty (Account 5 graph ordering
        (resumed graph ordering (.message (some "two") none ⟨0, none⟩))
        (taken graph ordering (.message (some "two") none ⟨0, none⟩)) r) := by
  have h : ((Template.readGraph orders .null .null).toOption.any fun graph =>
      ((Interpreter.mk 5).respond graph ordering
        (.message (some "two") none ⟨0, none⟩)).toOption.any fun r =>
          r.degraded && r.state.context = [("count", .text "two"), ("said", .text "two")] &&
          r.outputs = [⟨.text "You said two.", .null, []⟩] &&
          r.state.currentNodeId = .text "add") = true := by
    decide +kernel
  obtain ⟨graph, hread, h⟩ := exists_of_any h
  obtain ⟨r, hr, h⟩ := exists_of_any h
  simp only [Bool.and_eq_true, decide_eq_true_eq] at h
  obtain ⟨⟨⟨hd, hcontext⟩, houtputs⟩, hat⟩ := h
  exact ⟨graph, r, hread, hr, hd, hcontext, houtputs, hat,
    (accounted_of_respond (Interpreter.mk 5) hread).1 ordering _ r hr⟩

end Parley.Conversation
