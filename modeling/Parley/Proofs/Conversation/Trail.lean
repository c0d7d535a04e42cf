import Mathlib.Data.List.Chain
import Parley.Conversation.Interpreter
import Parley.Proofs.Template.Accepted

/-!
# Parley.Proofs.Conversation.Trail — the trail that a message leaves in a graph

`Trail graph before r`: the reply `r` to a message in the state `before` tells of one walk along the
links of the graph.  The history, the current node, the nodes entered and the lead stages reached
are four accounts of that walk, and a reply that is not degraded ends where a message is awaited, or
with the conversation.  `trail_of_step`: all replies of an interpreter on an accepted template have
such a trail.
-/

namespace Parley.Conversation

open Template (FlowGraph FlowNode)
open Time (Moment)

/-! ### Walks -/

/-- The walk goes through the node without a stop. -/
def Passing (node : FlowNode) : Prop := node.kind = .message ∨ node.kind = .action

/-- The walk rests at the node until the next message. -/
def Waiting (node : FlowNode) : Prop := node.kind = .input ∨ node.kind = .condition

theorem waiting_of_isBlocking {node : FlowNode} (h : node.isBlocking = true) : Waiting node := by
  unfold Template.NodeOf.isBlocking at h
  cases hk : node.kind with
  | condition => exact .inr hk
  | input => exact .inl hk
  | message | action | terminal => rw [hk] at h; exact nomatch h

theorem passing_of_not_isBlocking {node : FlowNode} (h : node.isBlocking ≠ true)
    (ht : node.kind ≠ .terminal) : Passing node := by
  unfold Template.NodeOf.isBlocking at h
  cases hk : node.kind with
  | message => exact .inl hk
  | action => exact .inr hk
  | terminal => exact absurd hk ht
  | condition | input => rw [hk] at h; exact absurd rfl h

/-- The next node of `id` is `next`. -/
def Follows (graph : FlowGraph) (id next : String) : Prop :=
  ∃ node, graph.node? id = some node ∧ node.next = some next

/-- The lead stages of the nodes `ids`, which are entered one after the other from a place of the
history on. -/
def stageVisits (graph : FlowGraph) (place : Nat) (ids : List String) : List StageTransition :=
  (ids.zipIdx place).filterMap fun visit =>
    ((graph.node? visit.1).bind (·.stage)).map fun stage => ⟨visit.1, stage, visit.2⟩

theorem stageVisits_append (graph : FlowGraph) (place : Nat) (ids more : List String) :
    stageVisits graph place (ids ++ more) =
      stageVisits graph place ids ++ stageVisits graph (place + ids.length) more := by
  unfold stageVisits
  rw [List.zipIdx_append, List.filterMap_append]

/-- The state `after` belongs to the same conversation as `before`, and was stored as often. -/
def SameConversation (before after : State) : Prop :=
  after = { before with
    currentNodeId := after.currentNodeId
    context := after.context
    slots := after.slots
    history := after.history
    lastUpdatedAt := after.lastUpdatedAt
    completed := after.completed }

/-- What a reply tells of the walk so far. -/
structure Walk (graph : FlowGraph) (before : State) (r : Reply) : Prop where
  kept : SameConversation before r.state
  history : r.state.history = before.history ++ r.visited.map .text
  position : r.state.currentNodeId = (r.visited.getLast?.map Value.text).getD before.currentNodeId
  nodes : ∀ id ∈ r.visited, (graph.node? id).isSome = true
  linked : r.visited.IsChain (Follows graph)
  passing : ∀ id ∈ r.visited.dropLast, ∃ node, graph.node? id = some node ∧ Passing node
  stages : r.stages = stageVisits graph before.history.length r.visited

/-- The account of a whole walk. -/
structure Trail (graph : FlowGraph) (before : State) (r : Reply) : Prop
    extends Walk graph before r where
  resting : r.degraded = false → r.completed = true ∨
    ∃ id node, r.state.currentNodeId = .text id ∧ graph.node? id = some node ∧ Waiting node

/-! ### One node -/

section Node

/-- Nothing was entered between the two replies. -/
structure Still (r r' : Reply) : Prop where
  state : r'.state =
    { r.state with
      context := r'.state.context
      slots := r'.state.slots
      completed := r'.state.completed }
  visited : r'.visited = r.visited
  stages : r'.stages = r.stages
  degraded : r'.degraded = r.degraded

variable {graph : FlowGraph} {before : State} {r r' r'' : Reply} {node : FlowNode}

theorem Still.refl (r : Reply) : Still r r := ⟨rfl, rfl, rfl, rfl⟩

theorem Still.trans (h : Still r r') (h' : Still r' r'') : Still r r'' := by
  refine ⟨?_, h'.visited.trans h.visited, h'.stages.trans h.stages, h'.degraded.trans h.degraded⟩
  rw [h'.state, h.state]

theorem Still.currentNodeId (h : Still r r') : r'.state.currentNodeId = r.state.currentNodeId := by
  rw [h.state]

theorem still_say (r : Reply) (node : FlowNode) (text : String) : Still r (r.say node text) := by
  unfold Reply.say
  split_ifs <;> exact ⟨rfl, rfl, rfl, rfl⟩

theorem still_prompt (h : r.prompt node = .ok r') : Still r r' := by
  rw [(r.unlessLimited_prompt node).holds h]
  exact still_say ..

theorem still_finish (r : Reply) : Still r r.finish := ⟨rfl, rfl, rfl, rfl⟩

theorem still_setContext (r : Reply) (context : Fields Value) : Still r (r.setContext context) :=
  ⟨rfl, rfl, rfl, rfl⟩

/-- What the execution of a node leads to: a link of the node to go on with, or the end of the walk,
which is at a node that waits, or with the conversation. -/
def Executed (r : Reply) (node : FlowNode) : Option String × Reply → Prop
  | (none, r') => Still r r' ∧ (r'.completed = true ∨ Waiting node)
  | (some id, r') => Still r r' ∧ id ∈ node.successors ∧ (Passing node → node.next = some id)

theorem mem_successors_of_next {id : String} (h : node.next = some id) : id ∈ node.successors := by
  simp [Template.NodeOf.successors, h]

theorem mem_successors_of_fallback {id : String} (h : node.fallback = some id) :
    id ∈ node.successors := by
  simp [Template.NodeOf.successors, h]

theorem executed_follow (h : Still r r') : Executed r node (r'.follow node) := by
  unfold Reply.follow
  split
  · exact ⟨h.trans (still_finish r'), .inl rfl⟩
  · rename_i id hnext
    exact ⟨h, mem_successors_of_next hnext, fun _ => hnext⟩

theorem executed_message {out : Option String × Reply} (h : r.executeMessage node = .ok out) :
    Executed r node out := by
  obtain ⟨context, -, h⟩ := exceptBind_eq_ok.mp h
  obtain ⟨text, -, h⟩ := exceptBind_eq_ok.mp h
  rw [← Except.ok.inj h]
  exact executed_follow ((still_setContext r context).trans (still_say ..))

/-- To keep an answer changes the variables only. -/
theorem eq_of_keep {s s' : State} {name answer : Value} (h : s.keep name answer = .ok s') :
    s' = { s with context := s'.context, slots := s'.slots } := by
  unfold State.keep at h
  split at h
  · rw [← Except.ok.inj h]
  · split_ifs at h
    rw [← Except.ok.inj h]

theorem executed_input {text : String} {out : Option String × Reply}
    (h : r.executeInput node text = .ok out) : Executed r node out := by
  obtain ⟨state, hkeep, h⟩ := exceptBind_eq_ok.mp h
  rw [← Except.ok.inj h]
  refine executed_follow ⟨?_, rfl, rfl, rfl⟩
  show state = { r.state with
    context := state.context, slots := state.slots, completed := state.completed }
  have hkept := eq_of_keep hkeep
  have hcompleted : state.completed = r.state.completed := by rw [hkept]
  rw [hcompleted]
  exact hkept

/-- A branch that is taken is one of the list. -/
theorem mem_of_firstBranch {text : String} {context : Fields Value}
    {branches : List (Template.Branch String)} {target : String}
    (h : Reply.firstBranch text context branches = .ok (some target)) :
    ∃ branch ∈ branches, branch.target = target := by
  induction branches with
  | nil => exact nomatch h
  | cons branch more ih =>
    unfold Reply.firstBranch at h
    have later (h : Reply.firstBranch text context more = .ok (some target)) :
        ∃ b ∈ branch :: more, b.target = target := by
      obtain ⟨b, hb, htarget⟩ := ih h
      exact ⟨b, List.mem_cons_of_mem _ hb, htarget⟩
    split at h
    · exact ⟨branch, List.mem_cons_self, Option.some.inj (Except.ok.inj h)⟩
    · exact later h
    · exact later h
    · exact nomatch h

theorem executed_condition {text : String} {out : Option String × Reply}
    (hk : node.kind = .condition) (h : r.executeCondition node text = .ok out) :
    Executed r node out := by
  have hpass : ¬ Passing node := by
    rintro (h | h) <;> rw [hk] at h <;> exact nomatch h
  obtain ⟨chosen, hchosen, h⟩ := exceptBind_eq_ok.mp h
  cases chosen with
  | some target =>
    obtain ⟨branch, hbranch, htarget⟩ := mem_of_firstBranch hchosen
    rw [← Except.ok.inj h]
    refine ⟨Still.refl r, ?_, fun hp => absurd hp hpass⟩
    simp only [Template.NodeOf.successors, List.mem_append, List.mem_map]
    exact .inl (.inr ⟨branch, hbranch, htarget⟩)
  | none =>
    dsimp only at h
    split at h
    · rename_i target hfallback
      rw [← Except.ok.inj h]
      exact ⟨Still.refl r, mem_successors_of_fallback hfallback, fun hp => absurd hp hpass⟩
    · obtain ⟨r', hprompt, rfl⟩ := exceptMap_eq_ok.mp h
      exact ⟨still_prompt hprompt, .inr (.inr hk)⟩

theorem executed_execute {text : Option String} {out : Option String × Reply}
    (h : r.execute node text = .ok out) : Executed r node out := by
  unfold Reply.execute at h
  split at h
  · exact executed_message h
  · exact executed_message h
  · rename_i hk
    split at h
    · rw [← Except.ok.inj h]
      exact ⟨Still.refl r, .inr (.inl hk)⟩
    · exact executed_input h
  · rename_i hk
    split at h
    · rw [← Except.ok.inj h]
      exact ⟨Still.refl r, .inr (.inr hk)⟩
    · exact executed_condition hk h
  · rw [← Except.ok.inj h]
    exact ⟨still_finish r, .inl rfl⟩

end Node

/-! ### Walking on -/

section Walk

variable {graph : FlowGraph} {before : State} {r r' : Reply} {node next : FlowNode}

/-- At the start of a walk, which may reopen the conversation. -/
theorem walk_idle (graph : FlowGraph) (state : State) (completed : Bool) :
    Walk graph state (Reply.idle { state with completed := completed }) :=
  ⟨rfl, (List.append_nil _).symm, rfl, fun _ h => absurd h List.not_mem_nil, List.isChain_nil,
    fun _ h => absurd h List.not_mem_nil, rfl⟩

theorem Walk.still (h : Walk graph before r) (hs : Still r r') : Walk graph before r' := by
  obtain ⟨hkept, hhistory, hposition, hnodes, hlinked, hpassing, hstages⟩ := h
  have hstate := hs.state
  refine ⟨?_, ?_, ?_, ?_, ?_, ?_, ?_⟩
  · unfold SameConversation at hkept ⊢
    rw [hstate, hkept]
  · rw [hs.visited, hstate]
    exact hhistory
  · rw [hs.visited, hs.currentNodeId]
    exact hposition
  · rwa [hs.visited]
  · rwa [hs.visited]
  · rwa [hs.visited]
  · rw [hs.stages, hs.visited]
    exact hstages

theorem Walk.degrade (h : Walk graph before r) (wording : String) :
    Walk graph before (r.degrade wording) :=
  ⟨h.kept, h.history, h.position, h.nodes, h.linked, h.passing, h.stages⟩

theorem Walk.touch (h : Walk graph before r) (now : Moment) : Walk graph before (r.touch now) := by
  refine ⟨?_, h.history, h.position, h.nodes, h.linked, h.passing, h.stages⟩
  have hkept := h.kept
  unfold SameConversation at hkept ⊢
  unfold Reply.touch
  rw [hkept]

/-- A walk from a node of the graph ends at a node of the graph. -/
theorem Walk.placed (h : Walk graph before r)
    (hplace : ∃ node, graph.lookup before.currentNodeId = .ok (some node)) :
    ∃ node, graph.lookup r.state.currentNodeId = .ok (some node) := by
  rw [h.position]
  cases hlast : r.visited.getLast? with
  | none => exact hplace
  | some id =>
    obtain ⟨node, hnode⟩ := Option.isSome_iff_exists.mp (h.nodes id (List.mem_of_getLast? hlast))
    exact ⟨node, congrArg Except.ok hnode⟩

/-- The walk may go on to `next`: it has just begun, or stands at a node that passes on to it. -/
def LeadsTo (graph : FlowGraph) (r : Reply) (next : FlowNode) : Prop :=
  ∀ last, r.visited.getLast? = some last →
    ∃ node, graph.node? last = some node ∧ Passing node ∧ node.next = some next.id

theorem Walk.enter (h : Walk graph before r) (hn : graph.node? next.id = some next)
    (hl : LeadsTo graph r next) : Walk graph before (r.enter next) := by
  have hvisited : (r.enter next).visited = r.visited ++ [next.id] := rfl
  refine ⟨?_, ?_, ?_, ?_, ?_, ?_, ?_⟩
  · have hkept := h.kept
    unfold SameConversation at hkept ⊢
    simp only [Reply.enter]
    rw [hkept]
  · rw [hvisited, List.map_append, ← List.append_assoc, ← h.history]
    rfl
  · rw [hvisited, List.getLast?_append_cons]
    rfl
  · intro id hid
    rcases List.mem_append.mp hid with hid | hid
    · exact h.nodes id hid
    · rw [List.mem_singleton.mp hid, hn]
      rfl
  · rw [hvisited, List.isChain_append]
    refine ⟨h.linked, List.isChain_singleton _, fun last hlast id hid => ?_⟩
    obtain ⟨node, hnode, -, hnext⟩ := hl last hlast
    rw [List.head?_cons, Option.mem_some_iff] at hid
    exact ⟨node, hnode, hid ▸ hnext⟩
  · intro id hid
    rw [hvisited, List.dropLast_concat] at hid
    rcases r.visited.eq_nil_or_concat with hnil | ⟨init, last, hlast⟩
    · rw [hnil] at hid
      exact absurd hid List.not_mem_nil
    · rw [hlast, List.concat_eq_append] at hid
      rcases List.mem_append.mp hid with hid | hid
      · refine h.passing id ?_
        rwa [hlast, List.concat_eq_append, List.dropLast_concat]
      · obtain ⟨node, hnode, hpass, -⟩ := hl last (by rw [hlast]; simp)
        exact ⟨node, List.mem_singleton.mp hid ▸ hnode, hpass⟩
  · have hlength : before.history.length + r.visited.length = r.state.history.length := by
      rw [h.history, List.length_append, List.length_map]
    rw [hvisited, stageVisits_append, ← h.stages, hlength]
    simp only [Reply.enter, stageVisits, List.zipIdx_cons, List.zipIdx_nil, List.filterMap_cons,
      List.filterMap_nil, hn, Option.bind_some, List.length_append, List.length_singleton]
    cases next.stage <;> simp

theorem Walk.trail (h : Walk graph before r)
    (hr : r.degraded = false → r.completed = true ∨
      ∃ node, graph.node? node.id = some node ∧ r.state.currentNodeId = .text node.id ∧
        Waiting node) : Trail graph before r := by
  refine ⟨h, fun hd => ?_⟩
  rcases hr hd with hcompleted | ⟨node, hnode, hat, hwait⟩
  · exact .inl hcompleted
  · exact .inr ⟨node.id, node, hat, hnode, hwait⟩

/-- A node was entered, and if it stops the walk, the walk is over. -/
structure Arrived (graph : FlowGraph) (before : State) (r : Reply) (next : FlowNode)
    (out : Bool × Reply) : Prop where
  visited : out.2.visited = r.visited ++ [next.id]
  walk : Walk graph before out.2
  stop : out.1 = true → Trail graph before out.2
  go : out.1 = false → Passing next ∧ out.2 = r.enter next

/-- Where the walk goes on to, if the prompt can be said. -/
theorem unlessLimited_arrive (h : Walk graph before r) (hn : graph.node? next.id = some next)
    (hl : LeadsTo graph r next) : UnlessLimited (Arrived graph before r next) (r.arrive next) := by
  have hwalk := h.enter hn hl
  have hprompt : UnlessLimited (Still (r.enter next)) ((r.enter next).prompt next) :=
    (Reply.unlessLimited_prompt _ next).imp fun _ h => h ▸ still_say ..
  unfold Reply.arrive
  dsimp only
  by_cases hb : next.isBlocking = true
  · rw [if_pos hb]
    refine hprompt.map fun r' hs => ⟨hs.visited, hwalk.still hs, fun _ => ?_, fun h => nomatch h⟩
    refine (hwalk.still hs).trail fun _ => .inr ?_
    exact ⟨next, hn, hs.currentNodeId, waiting_of_isBlocking hb⟩
  · rw [if_neg hb]
    by_cases ht : next.kind = .terminal
    · rw [if_pos ht]
      refine hprompt.map fun r' hs => ?_
      have hs' := hs.trans (still_finish r')
      exact ⟨hs'.visited, hwalk.still hs', fun _ => (hwalk.still hs').trail fun _ => .inl rfl,
        fun h => nomatch h⟩
    · rw [if_neg ht]
      exact .ok ⟨rfl, hwalk, Bool.noConfusion, fun _ => ⟨passing_of_not_isBlocking hb ht, rfl⟩⟩

/-- A walk that stands at `node`: it has just begun there, or the node passes on. -/
def StandsAt (r : Reply) (node : FlowNode) : Prop :=
  r.state.currentNodeId = .text node.id ∧
    (r.visited = [] ∨ r.visited.getLast? = some node.id ∧ Passing node)

theorem StandsAt.leadsTo (h : StandsAt r node) (hn : graph.node? node.id = some node)
    (hs : Still r r') (hnext : Passing node → node.next = some next.id) :
    LeadsTo graph r' next := by
  intro last hlast
  rw [hs.visited] at hlast
  rcases h.2 with hnil | ⟨hat, hpass⟩
  · rw [hnil] at hlast
    exact nomatch hlast
  · rw [hat] at hlast
    rw [← Option.some.inj hlast]
    exact ⟨node, hn, hpass, hnext hpass⟩

/-- The trail of a run, which goes on from the walk so far by a link of the node. -/
def RunsOn (graph : FlowGraph) (before : State) (r : Reply) (node : FlowNode) (r' : Reply) : Prop :=
  ∃ more, Trail graph before r' ∧ r'.visited = r.visited ++ more ∧
    ∀ id ∈ more.head?, id ∈ node.successors

/-- All runs end, and leave a trail whose continuation begins with a link of the node. -/
theorem trail_of_run (hg : graph.Closed) (limit : Nat) (text : Option String)
    (h : Walk graph before r) (hn : graph.node? node.id = some node) (hat : StandsAt r node)
    (hd : r.degraded = false) :
    UnlessLimited (RunsOn graph before r node) (r.run graph limit node text) := by
  induction limit generalizing r node text with
  | zero =>
    exact .ok ⟨[], (h.degrade _).trail (fun hd => nomatch hd), (List.append_nil _).symm,
      fun _ h => nomatch h⟩
  | succ limit ih =>
    unfold Reply.run
    cases hout : r.execute node text with
    | error fault =>
      exact .ok ⟨[], (h.degrade _).trail (fun hd => nomatch hd), (List.append_nil _).symm,
        fun _ h => nomatch h⟩
    | ok out =>
      obtain ⟨target, r₁⟩ := out
      have hexec := executed_execute hout
      cases target with
      | none =>
        obtain ⟨hs, hrest⟩ := hexec
        refine .ok ⟨[], (h.still hs).trail fun _ => hrest.imp_right fun hw => ?_, ?_,
          fun _ h => nomatch h⟩
        · exact ⟨node, hn, hs.currentNodeId.trans hat.1, hw⟩
        · rw [hs.visited, List.append_nil]
      | some id =>
        obtain ⟨hs, hmem, hnext⟩ := hexec
        obtain ⟨next, hnode⟩ := Option.isSome_iff_exists.mp (hg.linked hn hmem)
        have hid : next.id = id := hg.named hnode
        subst hid
        dsimp only
        rw [hnode]
        refine (unlessLimited_arrive (h.still hs) hnode (hat.leadsTo hn hs hnext)).bind ?_
        rintro ⟨stop, r₂⟩ ⟨hvisited, hwalk, hstop, hgo⟩
        dsimp only at hvisited hwalk hstop hgo ⊢
        rw [hs.visited] at hvisited
        have hfirst (more : List String) : ∀ id ∈ (next.id :: more).head?, id ∈ node.successors := by
          intro id hid
          rw [List.head?_cons, Option.mem_some_iff] at hid
          exact hid ▸ hmem
        cases stop with
        | true => exact .ok ⟨[next.id], hstop rfl, hvisited, hfirst []⟩
        | false =>
          obtain ⟨hpass, heq⟩ := hgo rfl
          have hat' : StandsAt r₂ next := by
            refine ⟨by rw [heq]; rfl, .inr ⟨?_, hpass⟩⟩
            rw [hvisited, List.getLast?_append_cons]
            rfl
          have hd' : r₂.degraded = false := by
            rw [heq, ← hd, ← hs.degraded]
            rfl
          refine (ih none hwalk hnode hat' hd').imp fun r' hr' => ?_
          obtain ⟨more, htrail, hmore, -⟩ := hr'
          refine ⟨next.id :: more, htrail, ?_, hfirst more⟩
          rw [hmore, hvisited, List.append_assoc]
          rfl

end Walk

/-! ### One message -/

section Message

variable {graph : FlowGraph} {before : State} {r : Reply} {node : FlowNode}

theorem Trail.touch (h : Trail graph before r) (now : Moment) : Trail graph before (r.touch now) :=
  ⟨h.toWalk.touch now, h.resting⟩

theorem lookup_eq_some {id : Value} (hg : graph.Closed) (h : graph.lookup id = .ok (some node)) :
    id = .text node.id ∧ graph.node? node.id = some node := by
  unfold FlowGraph.lookup at h
  split at h
  · rename_i name
    have hnode : graph.node? name = some node := Except.ok.inj h
    rw [hg.named hnode]
    exact ⟨rfl, hnode⟩
  · split_ifs at h
    exact nomatch h

theorem lookup_of_nodeAt {id : Value} (h : Interpreter.nodeAt graph id = .ok node) :
    graph.lookup id = .ok (some node) := by
  unfold Interpreter.nodeAt at h
  obtain ⟨found, hfound, h⟩ := exceptBind_eq_ok.mp h
  cases found with
  | none => exact nomatch h
  | some node' => rw [hfound, Except.ok.inj h]

theorem mem_of_nodeAt {id : Value} (h : Interpreter.nodeAt graph id = .ok node) :
    node ∈ graph.nodeList := by
  have hlookup := lookup_of_nodeAt h
  unfold FlowGraph.lookup at hlookup
  split at hlookup
  · exact Table.mem_values_of_get? (Except.ok.inj hlookup)
  · split_ifs at hlookup
    exact nomatch hlookup

theorem settle_at {state : State} (h : state.completed = false) (i : Interpreter)
    (hn : graph.lookup state.currentNodeId = .ok (some node)) (text : Option String)
    (now : Moment) :
    i.settle graph text now state = (i.goOn graph node text state).map (·.touch now) := by
  rw [i.settle_open graph h, Interpreter.nodeAt_eq graph hn]
  rfl

theorem advance_at (i : Interpreter) (state : State) {target : Value}
    (hn : graph.lookup target = .ok (some node)) (now : Moment) :
    i.advance graph state target now = state.copy.bind fun copied =>
      (i.enterAndRun graph node (Reply.idle { copied with completed := false })).map
        (·.touch now) := by
  unfold Interpreter.advance
  rw [Interpreter.nodeAt_eq graph hn]
  rfl

theorem trail_of_runFrom (hg : graph.Closed) (i : Interpreter) (text : Option String)
    (h : Walk graph before (Reply.idle before))
    (hn : graph.lookup before.currentNodeId = .ok (some node)) :
    UnlessLimited (fun r => Trail graph before r ∧ ∀ id ∈ r.visited.head?, id ∈ node.successors)
      (i.runFrom graph node text (Reply.idle before)) := by
  obtain ⟨hid, hnode⟩ := lookup_eq_some hg hn
  refine (trail_of_run hg i.maxChainSteps.toNat text h hnode ⟨hid, .inl rfl⟩ rfl).imp ?_
  rintro r ⟨more, htrail, hmore, hfirst⟩
  rw [hmore]
  exact ⟨htrail, hfirst⟩

theorem trail_of_enterAndRun (hg : graph.Closed) (i : Interpreter)
    (h : Walk graph before r) (hn : graph.node? node.id = some node) (hidle : r.visited = [])
    (hd : r.degraded = false) :
    UnlessLimited (fun r' => Trail graph before r' ∧ r'.visited.head? = some node.id)
      (i.enterAndRun graph node r) := by
  have hl : LeadsTo graph r node := by
    intro last hlast
    rw [hidle] at hlast
    exact nomatch hlast
  refine (unlessLimited_arrive h hn hl).bind ?_
  rintro ⟨stop, r₁⟩ ⟨hvisited, hwalk, hstop, hgo⟩
  dsimp only at hvisited hwalk hstop hgo ⊢
  rw [hidle, List.nil_append] at hvisited
  cases stop with
  | true => exact .ok ⟨hstop rfl, by rw [hvisited]; rfl⟩
  | false =>
    obtain ⟨hpass, heq⟩ := hgo rfl
    have hat : StandsAt r₁ node := ⟨by rw [heq]; rfl, .inr ⟨by rw [hvisited]; rfl, hpass⟩⟩
    refine (trail_of_run hg i.maxChainSteps.toNat none hwalk hn hat (by rw [heq]; exact hd)).imp ?_
    rintro r' ⟨more, htrail, hmore, -⟩
    exact ⟨htrail, by rw [hmore, hvisited]; rfl⟩

/-- What a reply to a message tells: a trail, whose first step is a link of the start or, on first
contact, the start itself.  A completed conversation is left alone. -/
structure Answers (graph : FlowGraph) (start : FlowNode) (state : State) (r : Reply) : Prop where
  trail : Trail graph state r
  later : state.history ≠ [] → ∀ id ∈ r.visited.head?, id ∈ start.successors
  first : state.completed = false → state.history = [] → r.visited.head? = some start.id
  completed : state.completed = true → r = Reply.idle state

/-- A message to a conversation that is at a node of a closed graph. -/
theorem settle_trail (hg : graph.Closed) (i : Interpreter) (state : State) {start : FlowNode}
    (hstart : graph.lookup state.currentNodeId = .ok (some start)) (text : Option String)
    (now : Moment) :
    UnlessLimited (Answers graph start state) (i.settle graph text now state) := by
  obtain ⟨-, hnode⟩ := lookup_eq_some hg hstart
  have hidle := walk_idle graph state state.completed
  cases hc : state.completed with
  | true =>
    rw [i.settle_completed graph hc]
    exact .ok ⟨hidle.trail fun _ => .inl hc, fun _ _ h => (nomatch h),
      fun hopen => (nomatch hc.symm.trans hopen), fun _ => rfl⟩
  | false =>
    have hopen (r : Reply) : state.completed = true → r = Reply.idle state :=
      fun h => nomatch hc.symm.trans h
    rw [settle_at hc i hstart, Interpreter.goOn]
    by_cases hh : state.history.isEmpty = true
    · rw [if_pos hh]
      refine (trail_of_enterAndRun hg i hidle hnode rfl rfl).map fun r ⟨htrail, hfirst⟩ => ?_
      exact ⟨htrail.touch now, fun h => absurd (List.isEmpty_iff.mp hh) h, fun _ _ => hfirst,
        hopen _⟩
    · rw [if_neg hh]
      refine (trail_of_runFrom hg i text hidle hstart).map fun r ⟨htrail, hfirst⟩ => ?_
      exact ⟨htrail.touch now, fun _ => hfirst, fun _ h => absurd (List.isEmpty_iff.mpr h) hh,
        hopen _⟩

theorem step_trail (hg : graph.Closed) (i : Interpreter) (state : State) {start : FlowNode}
    (hstart : graph.lookup state.currentNodeId = .ok (some start)) (text : Option String)
    (session : Option SessionKey) (now : Moment) :
    UnlessLimited (Answers graph start state) (i.step graph (some state) text session now) :=
  state.unlessLimited_copy.bind fun _ h => h ▸ settle_trail hg i state hstart text now

/-- A jump to a node of a closed graph. -/
theorem advance_trail (hg : graph.Closed) (i : Interpreter) (state : State) {target : Value}
    (htarget : graph.lookup target = .ok (some node)) (now : Moment) :
    UnlessLimited (fun r => Trail graph state r ∧ r.visited.head? = some node.id)
      (i.advance graph state target now) := by
  obtain ⟨-, hnode⟩ := lookup_eq_some hg htarget
  rw [advance_at i state htarget]
  refine state.unlessLimited_copy.bind fun copied hcopied => ?_
  subst hcopied
  refine (trail_of_enterAndRun hg i (walk_idle graph copied false) hnode rfl rfl).map ?_
  exact fun r ⟨htrail, hfirst⟩ => ⟨htrail.touch now, hfirst⟩

/-- **Every message leaves a trail.**  In a graph read from an accepted template, a conversation
that is at one of its nodes gets a reply to any message, and a jump to any node succeeds, unless a
limit is met.  The reply tells of one walk, whose first step is a link of the start or, on first
contact and after a jump, the node itself; a completed conversation is left alone. -/
theorem trail_of_step {document templateId version : Value} (i : Interpreter) (state : State)
    (now : Moment) {start : FlowNode}
    (hread : Template.readGraph document templateId version = .ok graph)
    (hstart : graph.lookup state.currentNodeId = .ok (some start)) :
    (∀ text session, UnlessLimited
      (fun r => Trail graph state r ∧
        (state.history ≠ [] → ∀ id ∈ r.visited.head?, id ∈ start.successors) ∧
        (state.completed = false → state.history = [] → r.visited.head? = some start.id) ∧
        (state.completed = true → r = Reply.idle state))
      (i.step graph (some state) text session now)) ∧
    (∀ target node, graph.lookup target = .ok (some node) →
      UnlessLimited (fun r => Trail graph state r ∧ r.visited.head? = some node.id)
        (i.advance graph state target now)) := by
  have hg := Template.closed_of_readGraph hread
  refine ⟨fun text session => ?_, fun target node htarget => advance_trail hg i state htarget now⟩
  exact (step_trail hg i state hstart text session now).imp
    fun r h => ⟨h.trail, h.later, h.first, h.completed⟩

end Message

/-- A question, and two messages that go round in a circle. -/
def circle : Value :=
  .object [("id", .text "circle"), ("entryNodeId", .text "ask"), ("nodes", .list [
    .object [("id", .text "ask"), ("type", .text "input"), ("content", .text "Go on?"),
      ("next", .text "offer")],
    .object [("id", .text "offer"), ("type", .text "message"), ("content", .text "One"),
      ("metadata", .object [("salesStageId", .text "offered")]), ("next", .text "again")],
    .object [("id", .text "again"), ("type", .text "message"), ("content", .text "More"),
      ("next", .text "offer")]])]

/-- The question of the circle was asked. -/
def asked : State where
  flowId := .text "circle"
  tenantId := .text "acme"
  userId := .text "ann"
  sessionId := .text "1"
  currentNodeId := .text "ask"
  context := []
  history := [.text "ask"]
  startedAt := ⟨0, none⟩
  lastUpdatedAt := ⟨0, none⟩
  completed := false
  version := 1

theorem readGraph_circle : ∃ graph start node r r',
    Template.readGraph circle .null .null = .ok graph ∧
      graph.lookup asked.currentNodeId = .ok (some start) ∧
      graph.lookup (.text "again") = .ok (some node) ∧
      (Interpreter.mk 3).step graph (some asked) (some "yes") none asked.startedAt = .ok r ∧
      (Interpreter.mk 3).advance graph asked (.text "again") asked.startedAt = .ok r' := by
  have h : ((Template.readGraph circle .null .null).toOption.any fun graph =>
      (graph.node? "ask").isSome && (graph.node? "again").isSome &&
        (((Interpreter.mk 3).step graph (some asked) (some "yes") none asked.startedAt).isOk &&
          ((Interpreter.mk 3).advance graph asked (.text "again") asked.startedAt).isOk)) = true := by
    decide +kernel
  obtain ⟨graph, hread, h⟩ := exists_of_any h
  simp only [Bool.and_eq_true] at h
  obtain ⟨⟨hask, hagain⟩, hstep, hadvance⟩ := h
  obtain ⟨start, hstart⟩ := Option.isSome_iff_exists.mp hask
  obtain ⟨node, hnode⟩ := Option.isSome_iff_exists.mp hagain
  obtain ⟨r, hr⟩ := exists_of_isOk hstep
  obtain ⟨r', hr'⟩ := exists_of_isOk hadvance
  exact ⟨graph, start, node, r, r', hread, congrArg Except.ok hstart, congrArg Except.ok hnode, hr,
    hr'⟩

/-- The answer runs round the circle into the limit, and a jump back into the circle does too. -/
theorem trail_of_step_circle : ∃ graph start node,
    Template.readGraph circle .null .null = .ok graph ∧
      graph.lookup asked.currentNodeId = .ok (some start) ∧
      graph.lookup (.text "again") = .ok (some node) ∧
      (∃ r, (Interpreter.mk 3).step graph (some asked) (some "yes") none asked.startedAt = .ok r ∧
        Trail graph asked r ∧ ∀ id ∈ r.visited.head?, id ∈ start.successors) ∧
      ∃ r, (Interpreter.mk 3).advance graph asked (.text "again") asked.startedAt = .ok r ∧
        Trail graph asked r ∧ r.visited.head? = some node.id := by
  obtain ⟨graph, start, node, r, r', hread, hstart, hnode, hr, hr'⟩ := readGraph_circle
  obtain ⟨hstep, hadvance⟩ := trail_of_step (Interpreter.mk 3) asked asked.startedAt hread hstart
  obtain ⟨htrail, hfirst, -⟩ := (hstep (some "yes") none).holds hr
  exact ⟨graph, start, node, hread, hstart, hnode,
    ⟨r, hr, htrail, hfirst (List.cons_ne_nil _ _)⟩,
    r', hr', (hadvance (.text "again") node hnode).holds hr'⟩

end Parley.Conversation
