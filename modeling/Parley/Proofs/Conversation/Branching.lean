import Parley.Proofs.Conversation.Account
import Parley.Proofs.Template.Tests

/-!
# Parley.Proofs.Conversation.Branching — where a condition leads

`Chosen`: of the branches of a condition, the first one whose test is met leads on; if none is, the
default link does; without a default link the conversation stays, and asks again.  A test that jams
(see `Template.Predicate.Jams`) before a branch was taken stops the message instead, and so does a
prompt that cannot be written.
`step_of_condition`: what the interpreter replies for each of these courses.
-/

namespace Parley.Conversation

open Template (FlowGraph FlowNode Branch Predicate)
open Time (Moment)

/-- What a message comes to at a condition. -/
inductive Course
  | moves (target : String)
  | stays
  | jams (f : Fault)

/-- The course that the tests of a condition choose. -/
inductive Chosen (node : FlowNode) (text : String) (context : Fields Value) : Course → Prop
  /-- The first branch whose test is met is taken. -/
  | branch {passed later : List (Branch String)} {b : Branch String} :
    node.branches = passed ++ b :: later → (∀ b ∈ passed, b.predicate.Passed text context) →
    b.predicate.Met text context → Chosen node text context (.moves b.target)
  | fallback {target : String} : (∀ b ∈ node.branches, b.predicate.Passed text context) →
    node.fallback = some target → Chosen node text context (.moves target)
  | stay {prompt : String} : (∀ b ∈ node.branches, b.predicate.Passed text context) →
    node.fallback = none → node.fill context = .ok prompt → Chosen node text context .stays
  | jam {passed later : List (Branch String)} {b : Branch String} {f : Fault} :
    node.branches = passed ++ b :: later → (∀ b ∈ passed, b.predicate.Passed text context) →
    b.predicate.Jams context f → Chosen node text context (.jams f)
  /-- The prompt has a variable in it that has no text, for a limit that is met. -/
  | mute {f : Fault} : (∀ b ∈ node.branches, b.predicate.Passed text context) →
    node.fallback = none → node.fill context = .error f → Chosen node text context (.jams f)

/-- The reply for a course.  On to another node it is that of a jump, for which one node less is left;
who stays is asked again. -/
def Interpreter.take (i : Interpreter) (graph : FlowGraph) (node : FlowNode) (state : State)
    (now : Moment) : Course → Except Fault Reply
  | .moves target => (Interpreter.mk (i.maxChainSteps - 1)).advance graph state (.text target) now
  | .stays => state.copy.map fun state =>
    ({ Reply.idle state with outputs := shown node state.context } : Reply).touch now
  | .jams f => state.copy.map fun state => ((Reply.idle state).degrade f.report).touch now

section Branches

variable {node : FlowNode} {text : String} {context : Fields Value}
  {branches passed later : List (Branch String)} {b : Branch String}

/-! ### The tests one after the other -/

theorem firstBranch_of_passed (h : b.predicate.Passed text context)
    (more : List (Branch String)) :
    Reply.firstBranch text context (b :: more) = Reply.firstBranch text context more := by
  rw [Reply.firstBranch]
  rcases b.predicate.holds_cases text context with
    ⟨hmet, -⟩ | ⟨-, hholds | ⟨reason, hholds⟩⟩ | ⟨f, hjams, -⟩
  · exact absurd hmet h.unmet
  · rw [hholds]
  · rw [hholds]
    rfl
  · exact absurd hjams (h.smooth f)

theorem firstBranch_append (h : ∀ b ∈ passed, b.predicate.Passed text context)
    (more : List (Branch String)) :
    Reply.firstBranch text context (passed ++ more) = Reply.firstBranch text context more := by
  induction passed with
  | nil => rfl
  | cons b passed ih =>
    rw [List.cons_append, firstBranch_of_passed (h b List.mem_cons_self)]
    exact ih fun c hc => h c (List.mem_cons_of_mem _ hc)

theorem firstBranch_of_all (h : ∀ b ∈ branches, b.predicate.Passed text context) :
    Reply.firstBranch text context branches = .ok none := by
  have happend := firstBranch_append h []
  rwa [List.append_nil] at happend

theorem firstBranch_of_met (h : ∀ b ∈ passed, b.predicate.Passed text context)
    (hb : b.predicate.Met text context) :
    Reply.firstBranch text context (passed ++ b :: later) = .ok (some b.target) := by
  rw [firstBranch_append h, Reply.firstBranch, Predicate.met_iff.mp hb]

theorem firstBranch_of_jams {f : Fault} (h : ∀ b ∈ passed, b.predicate.Passed text context)
    (hb : b.predicate.Jams context f) :
    Reply.firstBranch text context (passed ++ b :: later) = .error f := by
  rw [firstBranch_append h, Reply.firstBranch, Predicate.holds_of_jams hb]
  split
  · rename_i hholds
    cases hholds
  · rename_i hholds
    cases hholds
  · rename_i hholds
    exact absurd (Except.error.inj hholds) (Predicate.ne_fault_of_jams hb _ _ _)
  · rename_i hholds
    rw [Except.error.inj hholds]

/-- The tests are passed by up to one that is met or jams, or all of them. -/
theorem branches_cases (branches : List (Branch String)) (text : String) (context : Fields Value) :
    (∀ b ∈ branches, b.predicate.Passed text context) ∨
    ∃ passed b later, branches = passed ++ b :: later ∧
      (∀ b ∈ passed, b.predicate.Passed text context) ∧
      (b.predicate.Met text context ∨ ∃ f, b.predicate.Jams context f) := by
  induction branches with
  | nil => exact .inl fun _ h => absurd h List.not_mem_nil
  | cons b more ih =>
    rcases b.predicate.holds_cases text context with ⟨hmet, -⟩ | ⟨hpassed, -⟩ | ⟨f, hjams, -⟩
    · exact .inr ⟨[], b, more, rfl, fun _ h => absurd h List.not_mem_nil, .inl hmet⟩
    · rcases ih with hall | ⟨passed, c, later, hmore, hall, hc⟩
      · exact .inl (List.forall_mem_cons.mpr ⟨hpassed, hall⟩)
      · refine .inr ⟨b :: passed, c, later, ?_, List.forall_mem_cons.mpr ⟨hpassed, hall⟩, hc⟩
        rw [hmore, List.cons_append]
    · exact .inr ⟨[], b, more, rfl, fun _ h => absurd h List.not_mem_nil, .inr ⟨f, hjams⟩⟩

/-- Some course is always chosen. -/
theorem exists_chosen (node : FlowNode) (text : String) (context : Fields Value) :
    ∃ course, Chosen node text context course := by
  rcases branches_cases node.branches text context with
    hall | ⟨passed, b, later, hbranches, hall, hmet | ⟨f, hjams⟩⟩
  · cases hf : node.fallback with
    | none =>
      cases hprompt : node.fill context with
      | ok prompt => exact ⟨.stays, .stay hall hf hprompt⟩
      | error f => exact ⟨.jams f, .mute hall hf hprompt⟩
    | some target => exact ⟨.moves target, .fallback hall hf⟩
  · exact ⟨.moves b.target, .branch hbranches hall hmet⟩
  · exact ⟨.jams f, .jam hbranches hall hjams⟩

/-! ### The condition -/

/-- What the execution of a condition leads to. -/
def Course.outcome (r : Reply) (node : FlowNode) : Course → Except Fault (Option String × Reply)
  | .moves target => .ok (some target, r)
  | .stays => .ok (none, { r with outputs := r.outputs ++ shown node r.state.context })
  | .jams f => .error f

theorem executeCondition_of_chosen {r : Reply} {course : Course}
    (h : Chosen node text r.state.context course) :
    r.executeCondition node text = course.outcome r node := by
  unfold Reply.executeCondition
  cases h with
  | branch hbranches hall hmet =>
    rw [hbranches, firstBranch_of_met hall hmet]
    rfl
  | fallback hall hf =>
    rw [firstBranch_of_all hall]
    simp only [bind, Except.bind, hf]
    rfl
  | stay hall hf hprompt =>
    have hsaid : r.prompt node = .ok (r.say node _) := exceptBind_eq_ok.mpr ⟨_, hprompt, rfl⟩
    rw [firstBranch_of_all hall]
    simp only [bind, Except.bind, hf]
    rw [hsaid, prompt_eq hsaid]
    rfl
  | jam hbranches hall hjams =>
    rw [hbranches, firstBranch_of_jams hall hjams]
    rfl
  | mute hall hf hprompt =>
    rw [firstBranch_of_all hall]
    simp only [bind, Except.bind, hf]
    exact exceptMap_eq_error.mpr (exceptBind_eq_error.mpr (.inl hprompt))

end Branches

/-! ### The message -/

namespace Interpreter

variable {graph : FlowGraph} {state : State} {node next : FlowNode} {text : String} {now : Moment}

/-- A condition that leads on is the first node of a jump to its target, for which one node less is
left. -/
theorem run_of_target {i : Interpreter} {r : Reply} {target : String} (hlimit : 1 ≤ i.maxChainSteps)
    (hexec : r.execute node (some text) = .ok (some target, r))
    (hnext : graph.node? target = some next) :
    i.runFrom graph node (some text) r =
      (Interpreter.mk (i.maxChainSteps - 1)).enterAndRun graph next r := by
  obtain ⟨left, hleft⟩ : ∃ left, i.maxChainSteps.toNat = left + 1 :=
    ⟨i.maxChainSteps.toNat - 1, by omega⟩
  have hless : (i.maxChainSteps - 1).toNat = left := by omega
  unfold runFrom enterAndRun runFrom
  rw [hleft, Reply.run, hexec]
  dsimp only
  rw [hnext, hless]

/-- A condition with a test to choose before one that asks for a yes, and a way out. -/
def gate (test value : String) : Value :=
  .object [("id", .text "gate"), ("entryNodeId", .text "ask"), ("nodes", .list [
    .object [("id", .text "ask"), ("type", .text "condition"), ("content", .text "Come in?"),
      ("next", .list [
        .object [("condition", .object [("type", .text test), ("value", .text value)]),
          ("nextNodeId", .text "guests")],
        .object [("condition", .object [("type", .text "contains"), ("value", .text "yes")]),
          ("nextNodeId", .text "hall")]]),
      ("defaultNext", .text "street")],
    .object [("id", .text "guests"), ("type", .text "terminal")],
    .object [("id", .text "hall"), ("type", .text "terminal")],
    .object [("id", .text "street"), ("type", .text "terminal")]])]

end Interpreter

end Parley.Conversation
