import Parley.Proofs.Conversation.Trail

/-!
# Parley.Proofs.Conversation.Unspoken — nodes that are executed without a message

Only the first node that is executed for a message sees its text.  A run without a text is `Unspoken`:
no answer is taken, and a variable changes only by a node that names it.  So it is with a jump
(`unspoken_of_advance`) and with the first message of a conversation (`unspoken_of_settle`).
-/

namespace Parley.Conversation

open Template (FlowGraph FlowNode Mutation)
open Time (Moment)

/-- No node of the graph changes the variable. -/
def Spares (graph : FlowGraph) (name : String) : Prop :=
  ∀ node ∈ graph.nodeList, ∀ change ∈ node.mutations, change.name ≠ name

/-- Between the two replies no answer was taken, and the variables that no node of the graph changes
are the same. -/
structure Unspoken (graph : FlowGraph) (r r' : Reply) : Prop where
  captured : r'.captured = r.captured
  slots : r'.state.slots = r.state.slots
  spared : ∀ name, Spares graph name → r'.state.context.get? name = r.state.context.get? name

/-! ### Changes of variables -/

section Mutations

variable {name : String} {context context' : Fields Value}

theorem get?_of_applyMutation {change : Mutation} (hne : change.name ≠ name)
    (h : applyMutation context change = .ok context') : context'.get? name = context.get? name := by
  unfold applyMutation at h
  split at h
  · obtain ⟨value, -, h⟩ := exceptBind_eq_ok.mp h
    rw [← Except.ok.inj h]
    exact Table.get?_put_of_ne context _ hne.symm
  · rw [← Except.ok.inj h]
    exact Table.get?_erase_of_ne context hne.symm
  · obtain ⟨sum, -, h⟩ := exceptBind_eq_ok.mp h
    rw [← Except.ok.inj h]
    exact Table.get?_put_of_ne context _ hne.symm

theorem get?_of_foldlM {changes : List Mutation} (hne : ∀ change ∈ changes, change.name ≠ name)
    (h : changes.foldlM applyMutation context = .ok context') :
    context'.get? name = context.get? name := by
  induction changes generalizing context with
  | nil => rw [Except.ok.inj h]
  | cons change more ih =>
    rw [List.foldlM_cons] at h
    obtain ⟨next, hfirst, h⟩ := exceptBind_eq_ok.mp h
    rw [ih (fun c hc => hne c (List.mem_cons_of_mem _ hc)) h]
    exact get?_of_applyMutation (hne change List.mem_cons_self) hfirst

end Mutations

/-! ### Nodes -/

section Node

variable {graph : FlowGraph} {r r' r'' : Reply} {node : FlowNode}

theorem Unspoken.refl (r : Reply) : Unspoken graph r r := ⟨rfl, rfl, fun _ _ => rfl⟩

theorem Unspoken.trans (h : Unspoken graph r r') (h' : Unspoken graph r' r'') :
    Unspoken graph r r'' :=
  ⟨h'.captured.trans h.captured, h'.slots.trans h.slots,
    fun name hname => (h'.spared name hname).trans (h.spared name hname)⟩

theorem unspoken_say (r : Reply) (node : FlowNode) (text : String) :
    Unspoken graph r (r.say node text) := by
  unfold Reply.say
  split_ifs
  · exact ⟨rfl, rfl, fun _ _ => rfl⟩
  · exact .refl r

theorem unspoken_follow (r : Reply) (node : FlowNode) : Unspoken graph r (r.follow node).2 := by
  unfold Reply.follow
  split
  · exact ⟨rfl, rfl, fun _ _ => rfl⟩
  · exact .refl r

theorem unspoken_prompt (h : r.prompt node = .ok r') : Unspoken graph r r' := by
  rw [(r.unlessLimited_prompt node).holds h]
  exact unspoken_say r node _

theorem unspoken_arrive {out : Bool × Reply} (h : r.arrive node = .ok out) :
    Unspoken graph r out.2 := by
  have henter : Unspoken graph r (r.enter node) := ⟨rfl, rfl, fun _ _ => rfl⟩
  unfold Reply.arrive at h
  dsimp only at h
  split_ifs at h
  · obtain ⟨r', hprompt, rfl⟩ := exceptMap_eq_ok.mp h
    exact henter.trans (unspoken_prompt hprompt)
  · obtain ⟨r', hprompt, rfl⟩ := exceptMap_eq_ok.mp h
    exact (henter.trans (unspoken_prompt hprompt)).trans ⟨rfl, rfl, fun _ _ => rfl⟩
  · rw [← Except.ok.inj h]
    exact henter

/-- A node that sees no text takes no answer. -/
theorem unspoken_of_execute (hnode : node ∈ graph.nodeList) {out : Option String × Reply}
    (h : r.execute node none = .ok out) : Unspoken graph r out.2 := by
  have hmessage (h : r.executeMessage node = .ok out) : Unspoken graph r out.2 := by
    obtain ⟨context, hcontext, h⟩ := exceptBind_eq_ok.mp h
    have hset : Unspoken graph r (r.setContext context) :=
      ⟨rfl, rfl, fun name hname => get?_of_foldlM (hname node hnode) hcontext⟩
    obtain ⟨text, -, h⟩ := exceptBind_eq_ok.mp h
    rw [← Except.ok.inj h]
    exact (hset.trans (unspoken_say _ node _)).trans (unspoken_follow _ node)
  unfold Reply.execute at h
  cases hk : node.kind with
  | message | action =>
    rw [hk] at h
    exact hmessage h
  | input | condition =>
    rw [hk] at h
    rw [← Except.ok.inj h]
    exact .refl r
  | terminal =>
    rw [hk] at h
    rw [← Except.ok.inj h]
    exact ⟨rfl, rfl, fun _ _ => rfl⟩

/-- All nodes of a run without a text are executed without one. -/
theorem unspoken_of_run (hnode : node ∈ graph.nodeList) {limit : Nat}
    (h : r.run graph limit node none = .ok r') : Unspoken graph r r' := by
  induction limit generalizing r node with
  | zero =>
    rw [← Except.ok.inj h]
    exact ⟨rfl, rfl, fun _ _ => rfl⟩
  | succ limit ih =>
    unfold Reply.run at h
    split at h
    · rw [← Except.ok.inj h]
      exact ⟨rfl, rfl, fun _ _ => rfl⟩
    · rename_i hexecute
      rw [← Except.ok.inj h]
      exact unspoken_of_execute hnode hexecute
    · rename_i id r₁ hexecute
      have hfirst : Unspoken graph r r₁ := unspoken_of_execute hnode hexecute
      split at h
      · cases h
      · rename_i next hnext
        obtain ⟨⟨stop, r₂⟩, harrive, h⟩ := exceptBind_eq_ok.mp h
        have harrive : Unspoken graph r r₂ := hfirst.trans (unspoken_arrive harrive)
        dsimp only at h
        split_ifs at h
        · rw [← Except.ok.inj h]
          exact harrive
        · exact harrive.trans (ih (Table.mem_values_of_get? hnext) h)

theorem unspoken_of_enterAndRun (hnode : node ∈ graph.nodeList) {i : Interpreter}
    (h : i.enterAndRun graph node r = .ok r') : Unspoken graph r r' := by
  obtain ⟨⟨stop, r₁⟩, harrive, h⟩ := exceptBind_eq_ok.mp h
  have harrive : Unspoken graph r r₁ := unspoken_arrive harrive
  dsimp only at h
  split_ifs at h
  · rw [← Except.ok.inj h]
    exact harrive
  · exact harrive.trans (unspoken_of_run hnode h)

/-- **A jump takes no answer.** -/
theorem unspoken_of_advance {i : Interpreter} {state : State} {target : Value} {now : Moment}
    (h : i.advance graph state target now = .ok r) : Unspoken graph (Reply.idle state) r := by
  obtain ⟨node, hnode, -⟩ := exceptBind_eq_ok.mp h
  rw [advance_at i state (lookup_of_nodeAt hnode)] at h
  obtain ⟨copied, hcopied, hgo⟩ := exceptBind_eq_ok.mp h
  obtain ⟨-, rfl⟩ := State.copy_eq_ok.mp hcopied
  obtain ⟨r', hrun, rfl⟩ := exceptMap_eq_ok.mp hgo
  have hentered : Unspoken graph (Reply.idle { copied with completed := false }) r' :=
    unspoken_of_enterAndRun (mem_of_nodeAt hnode) hrun
  exact ⟨hentered.captured, hentered.slots, hentered.spared⟩

/-- **The first message of a conversation is no answer**, whatever it says. -/
theorem unspoken_of_settle {i : Interpreter} {state : State} (hfirst : state.history = [])
    {text : Option String} {now : Moment} (h : i.settle graph text now state = .ok r) :
    Unspoken graph (Reply.idle state) r := by
  cases hopen : state.completed with
  | true =>
    rw [i.settle_completed graph hopen] at h
    rw [← Except.ok.inj h]
    exact .refl _
  | false =>
    rw [i.settle_open graph hopen] at h
    obtain ⟨node, hnode, h⟩ := exceptBind_eq_ok.mp h
    have hgo : i.goOn graph node text state = i.enterAndRun graph node (Reply.idle state) := by
      unfold Interpreter.goOn
      rw [hfirst]
      rfl
    rw [hgo] at h
    obtain ⟨r', hrun, rfl⟩ := exceptMap_eq_ok.mp h
    have hentered : Unspoken graph (Reply.idle state) r' :=
      unspoken_of_enterAndRun (mem_of_nodeAt hnode) hrun
    exact ⟨hentered.captured, hentered.slots, hentered.spared⟩

end Node

end Parley.Conversation
