import Parley.Proofs.Conversation.Unspoken

/-!
# Parley.Proofs.Conversation.Storing — what becomes of an answer

A question stores the message that answers it.  `Stores`: the reply says so, and the answer is there
under the name of the question; nodes that come after it in the same message may change it again.
`stores_of_step`: this is so for every answer to a question that was asked.  All other variables but
those that a node names stay as they are (`Unnamed.step`).
-/

namespace Parley.Conversation

open Template (FlowGraph FlowNode)
open Time (Moment)

/-- The name that an answer is stored under. -/
def answerName (node : FlowNode) : Value := node.variableName.orElse (.text node.id)

/-- The answer was taken, and is stored under the name of the question.  Lists and tables name
nothing. -/
structure Stores (graph : FlowGraph) (node : FlowNode) (answer : String) (r : Reply) : Prop where
  taken : (answerName node).hashable = true → r.captured = some true
  named : ∀ name, answerName node = .text name → Spares graph name →
    r.state.context.get? name = some (.text answer)
  placed : (∀ name, answerName node ≠ .text name) → (answerName node).hashable = true →
    ∃ written, r.state.slots.get? (answerName node).place = some (written, .text answer)

/-- No node of the graph names the variable, to change it or to store an answer. -/
structure Unnamed (graph : FlowGraph) (name : String) : Prop where
  spared : Spares graph name
  unasked : ∀ node ∈ graph.nodeList, node.kind = .input → answerName node ≠ .text name

section Answer

variable {graph : FlowGraph} {state : State} {node : FlowNode} {r r' : Reply} {name : String}
  {limit : Nat} {text : Option String} {answer : String}

/-! ### The question -/

/-- What comes after a question that has stored the answer sees no message. -/
theorem unspoken_of_answer {s : State} (hk : node.kind = .input)
    (hkeep : r.state.keep (answerName node) (.text answer) = .ok s)
    (h : r.run graph (limit + 1) node (some answer) = .ok r') :
    Unspoken graph { r with state := s, captured := some true } r' := by
  have hexec : r.execute node (some answer) =
      .ok (({ r with state := s, captured := some true } : Reply).follow node) := by
    unfold Reply.execute
    rw [hk]
    show r.state.keep (answerName node) _ >>= _ = _
    rw [hkeep]
    rfl
  have hfollow : Unspoken graph { r with state := s, captured := some true }
      (({ r with state := s, captured := some true } : Reply).follow node).2 :=
    unspoken_follow _ node
  unfold Reply.run at h
  rw [hexec] at h
  generalize Reply.follow { r with state := s, captured := some true } node = out at h hfollow
  obtain ⟨target, r₁⟩ := out
  cases target with
  | none =>
    rw [← Except.ok.inj h]
    exact hfollow
  | some id =>
    dsimp only at h hfollow
    cases hnode : graph.node? id with
    | none =>
      rw [hnode] at h
      cases h
    | some next =>
      rw [hnode] at h
      obtain ⟨⟨stop, r₂⟩, harrive, h⟩ := exceptBind_eq_ok.mp h
      have harrive : Unspoken graph _ r₂ := hfollow.trans (unspoken_arrive harrive)
      dsimp only at h
      split_ifs at h
      · rw [← Except.ok.inj h]
        exact harrive
      · exact harrive.trans (unspoken_of_run (Table.mem_values_of_get? hnode) h)

theorem hashable_text (s : String) : (Value.text s).hashable = true := rfl

/-- An answer has a place under every name but a list or a table. -/
theorem keep_eq (hname : (answerName node).hashable = true) (s : State) :
    ∃ s', s.keep (answerName node) (.text answer) = .ok s' ∧
      (∀ name, answerName node = .text name → s'.context.get? name = some (.text answer)) ∧
      ((∀ name, answerName node ≠ .text name) →
        ∃ written, s'.slots.get? (answerName node).place = some (written, .text answer)) := by
  unfold State.keep
  split
  · rename_i name hname
    refine ⟨_, rfl, fun name' hname' => ?_, fun hother => absurd hname (hother name)⟩
    rw [← Value.text.inj (hname.symm.trans hname')]
    exact Table.get?_put_self _ _ _
  · rename_i hother
    rw [if_pos hname]
    exact ⟨_, rfl, fun name hname => absurd hname (hother name),
      fun _ => ⟨_, Table.get?_put_self _ _ _⟩⟩

/-- **An answer to a question is stored.** -/
theorem stores_of_run (hk : node.kind = .input)
    (h : r.run graph (limit + 1) node (some answer) = .ok r') : Stores graph node answer r' := by
  by_cases hname : (answerName node).hashable = true
  · obtain ⟨s, hkeep, hnamed, hplaced⟩ := keep_eq hname r.state
    have hlater := unspoken_of_answer hk hkeep h
    refine ⟨fun _ => hlater.captured, fun name htext hspared => ?_, fun hother _ => ?_⟩
    · rw [hlater.spared name hspared]
      exact hnamed name htext
    · obtain ⟨written, hwritten⟩ := hplaced hother
      exact ⟨written, by rw [hlater.slots]; exact hwritten⟩
  · refine ⟨fun h => absurd h hname, fun name htext => ?_, fun _ h => absurd h hname⟩
    rw [htext] at hname
    exact absurd (hashable_text name) hname

theorem stores_of_step {i : Interpreter} (hlimit : 1 ≤ i.maxChainSteps)
    (hopen : state.completed = false) (hh : state.history ≠ [])
    (hn : graph.lookup state.currentNodeId = .ok (some node)) (hk : node.kind = .input)
    {session : Option SessionKey} {now : Moment}
    (h : i.step graph (some state) (some answer) session now = .ok r) :
    Stores graph node answer r := by
  obtain ⟨left, hleft⟩ : ∃ left, i.maxChainSteps.toNat = left + 1 :=
    ⟨i.maxChainSteps.toNat - 1, by omega⟩
  obtain ⟨-, h⟩ := (i.step_eq_ok graph).mp h
  rw [settle_at hopen i hn, Interpreter.goOn, if_neg (by rwa [List.isEmpty_iff]),
    Interpreter.runFrom, hleft] at h
  obtain ⟨r', hrun, rfl⟩ := exceptMap_eq_ok.mp h
  have hstores := stores_of_run hk hrun
  exact ⟨hstores.taken, hstores.named, hstores.placed⟩

/-! ### Other variables -/

/-- What one node leaves alone: a variable that no node names. -/
theorem Unnamed.execute (hu : Unnamed graph name) (hnode : node ∈ graph.nodeList)
    {out : Option String × Reply} (h : r.execute node text = .ok out) :
    out.2.state.context.get? name = r.state.context.get? name ∧
      (r.captured ≠ some false → out.2.captured ≠ some false) := by
  cases text with
  | none =>
    have hunspoken : Unspoken graph r out.2 := unspoken_of_execute hnode h
    exact ⟨hunspoken.spared name hu.spared, fun hc => by rwa [hunspoken.captured]⟩
  | some answer =>
    unfold Reply.execute at h
    cases hk : node.kind with
    | message | action | terminal =>
      have hunspoken : Unspoken graph r out.2 := by
        refine unspoken_of_execute hnode ?_
        unfold Reply.execute
        rw [hk] at h ⊢
        exact h
      exact ⟨hunspoken.spared name hu.spared, fun hc => by rwa [hunspoken.captured]⟩
    | condition =>
      rw [hk] at h
      obtain ⟨chosen, -, h⟩ := exceptBind_eq_ok.mp h
      have hunspoken : Unspoken graph r out.2 := by
        split at h
        · rw [← Except.ok.inj h]
          exact .refl r
        · split at h
          · rw [← Except.ok.inj h]
            exact .refl r
          · obtain ⟨asked, hprompt, rfl⟩ := exceptMap_eq_ok.mp h
            exact unspoken_prompt hprompt
      exact ⟨hunspoken.spared name hu.spared, fun hc => by rwa [hunspoken.captured]⟩
    | input =>
      rw [hk] at h
      obtain ⟨s, hkeep, h⟩ := exceptBind_eq_ok.mp h
      have hfollow : Unspoken graph { r with state := s, captured := some true }
          (({ r with state := s, captured := some true } : Reply).follow node).2 :=
        unspoken_follow _ node
      rw [← Except.ok.inj h]
      refine ⟨?_, fun _ => by rw [hfollow.captured]; nofun⟩
      rw [hfollow.spared name hu.spared]
      show s.context.get? name = _
      unfold State.keep at hkeep
      split at hkeep
      · rename_i other hother
        have hne : name ≠ other := fun heq =>
          hu.unasked node hnode hk (heq ▸ hother)
        rw [← Except.ok.inj hkeep]
        exact Table.get?_put_of_ne _ _ hne
      · split_ifs at hkeep
        rw [← Except.ok.inj hkeep]

theorem Unnamed.run (hu : Unnamed graph name) (hnode : node ∈ graph.nodeList)
    (h : r.run graph limit node text = .ok r') :
    r'.state.context.get? name = r.state.context.get? name ∧
      (r.captured ≠ some false → r'.captured ≠ some false) := by
  cases limit with
  | zero =>
    rw [← Except.ok.inj h]
    exact ⟨rfl, id⟩
  | succ limit =>
    unfold Reply.run at h
    split at h
    · rw [← Except.ok.inj h]
      exact ⟨rfl, id⟩
    · rename_i hexec
      rw [← Except.ok.inj h]
      exact hu.execute hnode hexec
    · rename_i id r₁ hexec
      obtain ⟨hfirst, hcaptured⟩ := hu.execute hnode hexec
      split at h
      · exact nomatch h
      · rename_i next hnext
        obtain ⟨⟨stop, r₂⟩, harrive, h⟩ := exceptBind_eq_ok.mp h
        have harrive : Unspoken graph r₁ r₂ := unspoken_arrive harrive
        have hlater : Unspoken graph r₁ r' := by
          dsimp only at h
          split_ifs at h
          · rw [← Except.ok.inj h]
            exact harrive
          · exact harrive.trans (unspoken_of_run (Table.mem_values_of_get? hnext) h)
        refine ⟨(hlater.spared name hu.spared).trans hfirst, fun hc => ?_⟩
        rw [hlater.captured]
        exact hcaptured hc

theorem Unnamed.settle (hu : Unnamed graph name) {i : Interpreter} {now : Moment}
    (h : i.settle graph text now state = .ok r) :
    r.state.context.get? name = state.context.get? name ∧ r.captured ≠ some false := by
  cases hopen : state.completed with
  | true =>
    rw [i.settle_completed graph hopen] at h
    rw [← Except.ok.inj h]
    exact ⟨rfl, nofun⟩
  | false =>
    rw [i.settle_open graph hopen] at h
    obtain ⟨node, hnode, h⟩ := exceptBind_eq_ok.mp h
    have hmem := mem_of_nodeAt hnode
    obtain ⟨r', hgo, rfl⟩ := exceptMap_eq_ok.mp h
    unfold Interpreter.goOn at hgo
    split_ifs at hgo
    · have hentered := unspoken_of_enterAndRun hmem hgo
      refine ⟨hentered.spared name hu.spared, ?_⟩
      show r'.captured ≠ _
      rw [hentered.captured]
      nofun
    · obtain ⟨hkept, hcaptured⟩ := hu.run hmem hgo
      exact ⟨hkept, hcaptured nofun⟩

/-- **A message leaves alone a variable that no node names**, and no reply of the interpreter tells of
an answer that was not taken. -/
theorem Unnamed.step (hu : Unnamed graph name) {i : Interpreter} {session : Option SessionKey}
    {now : Moment} (h : i.step graph (some state) text session now = .ok r) :
    r.state.context.get? name = state.context.get? name ∧ r.captured ≠ some false :=
  hu.settle ((i.step_eq_ok graph).mp h).2

end Answer

end Parley.Conversation
