import Parley.Proofs.Conversation.Account
import Parley.Proofs.Conversation.Frame
import Parley.Proofs.Conversation.Unspoken

/-!
# Parley.Proofs.Conversation.Resumption — the limit for nodes loses nothing

A message that leads through too many nodes is cut off between two of them: the next node was
entered, but not executed, and the next message goes on from there.  `resumed_of_step`: whatever that
message says, it takes no part, and the two replies one after the other are the reply of an
interpreter whose limit is the sum of the two.
-/

namespace Parley.Conversation

open Template (FlowGraph FlowNode)
open Time (Moment)

/-! ### A reply after an earlier one -/

/-- What two replies bring about together. -/
def Reply.followedBy (earlier later : Reply) : Reply :=
  { later with
    outputs := earlier.outputs ++ later.outputs
    visited := earlier.visited ++ later.visited
    stages := earlier.stages ++ later.stages
    captured := later.captured.or earlier.captured }

/-- The reply whose error is dropped unless it is degraded. -/
def Reply.excuse (r : Reply) : Reply := { r with error := if r.degraded then r.error else none }

namespace Reply

/-- No node looks at what was brought about before. -/
theorem framing_followedBy (earlier : Reply) : Framing earlier.followedBy where
  context r := rfl
  say r node text := by
    unfold say
    split_ifs
    · simp only [followedBy, List.append_assoc]
    · rfl
  setContext r context := rfl
  keep r name answer := rfl
  finish r := rfl
  enter r node := by simp only [enter, followedBy, List.append_assoc]
  degrade r wording := rfl

/-- Errors come with degraded replies only. -/
theorem framing_excuse : Framing excuse where
  context r := rfl
  say r node text := by
    unfold say
    split_ifs <;> rfl
  setContext r context := rfl
  keep r name answer := rfl
  finish r := rfl
  enter r node := rfl
  degrade r wording := rfl

variable {r : Reply}

theorem error_eq_none (hr : r.excuse = r) (hd : r.degraded = false) : r.error = none := by
  have herror : r.excuse.error = none := by
    unfold excuse
    rw [hd]
    rfl
  rwa [hr] at herror

/-- A reply in which nothing went wrong is what happened so far, and nothing more yet. -/
theorem followedBy_idle (hr : r.excuse = r) (hd : r.degraded = false) :
    r.followedBy (idle r.state) = r := by
  have herror := error_eq_none hr hd
  cases r
  subst hd herror
  simp only [followedBy, idle, List.append_nil, Option.none_or]

end Reply

/-! ### Where a run is cut off -/

namespace Execution

/-- The conversation is open, and nothing went wrong so far. -/
structure Unharmed (e : Execution) : Prop where
  unfinished : e.reply.state.completed = false
  sound : e.reply.degraded = false
  excused : e.reply.excuse = e.reply

/-- The node was entered without a stop. -/
structure Suspended (e : Execution) : Prop where
  silent : e.text = none
  passing : Passing e.node
  entered : ∃ r : Reply, e.reply = r.enter e.node

variable {graph : FlowGraph} {e e' first last : Execution} {node : FlowNode} {r r' : Reply}
  {n : Nat}

theorem completed_of_follow {id : String} (h : r.follow node = (some id, r')) :
    r'.state.completed = r.state.completed := by
  unfold Reply.follow at h
  split at h
  · exact nomatch congrArg Prod.fst h
  · rw [← (Prod.mk.inj h).2]

/-- A node that leads to another one does not end the conversation. -/
theorem completed_of_execute {text : Option String} {id : String}
    (h : r.execute node text = .ok (some id, r')) :
    r'.state.completed = r.state.completed := by
  have hmessage (h : r.executeMessage node = .ok (some id, r')) :
      r'.state.completed = r.state.completed := by
    obtain ⟨context, -, h⟩ := exceptBind_eq_ok.mp h
    obtain ⟨text, htext, h⟩ := exceptBind_eq_ok.mp h
    rw [completed_of_follow (Except.ok.inj h), (node.unlessLimited_fill context).holds htext,
      say_render]
    rfl
  unfold Reply.execute at h
  split at h
  · exact hmessage h
  · exact hmessage h
  · split at h
    · exact nomatch congrArg Prod.fst (Except.ok.inj h)
    · obtain ⟨state, hkeep, h⟩ := exceptBind_eq_ok.mp h
      rw [completed_of_follow (Except.ok.inj h)]
      show state.completed = _
      rw [eq_of_keep hkeep]
  · split at h
    · exact nomatch congrArg Prod.fst (Except.ok.inj h)
    · obtain ⟨chosen, -, h⟩ := exceptBind_eq_ok.mp h
      split at h
      · rw [← (Prod.mk.inj (Except.ok.inj h)).2]
      · split at h
        · rw [← (Prod.mk.inj (Except.ok.inj h)).2]
        · obtain ⟨asked, -, h⟩ := exceptMap_eq_ok.mp h
          exact nomatch congrArg Prod.fst h
  · exact nomatch congrArg Prod.fst (Except.ok.inj h)

theorem suspended_of_arrive (h : r.arrive node = .ok (false, r')) :
    Suspended ⟨node, none, r'⟩ ∧ r' = r.enter node := by
  rcases arrive_cases h with ⟨hstop, -⟩ | ⟨-, hpassing, hentered⟩
  · exact nomatch hstop
  · exact ⟨⟨rfl, hpassing, r, hentered⟩, hentered⟩

theorem suspended_of_precedes (h : Precedes graph e e') : Suspended e' := by
  obtain ⟨⟨id, r, -, -, harrive⟩, hsilent⟩ := h
  obtain ⟨⟨-, hpassing, hentered⟩, -⟩ := suspended_of_arrive harrive
  exact ⟨hsilent, hpassing, hentered⟩

/-- All nodes of a chain but the first were entered without a stop. -/
theorem Chain.suspended (h : Chain graph n first last) (hn : n ≠ 0) : Suspended last := by
  induction h with
  | here e => exact absurd rfl hn
  | @next n e e' last hp hchain ih =>
    by_cases hlast : n = 0
    · subst hlast
      cases hchain
      exact suspended_of_precedes hp
    · exact ih hlast

theorem Unharmed.precedes (h : Unharmed e) (hp : Precedes graph e e') : Unharmed e' := by
  obtain ⟨⟨id, r, hout, -, harrive⟩, -⟩ := hp
  obtain ⟨-, hentered⟩ := suspended_of_arrive harrive
  have hexec : r.degraded = e.reply.degraded := (executed_execute hout).1.degraded
  have hexcused : r.excuse = r := Reply.framing_excuse.execute_fixed e.node h.excused hout
  refine ⟨?_, ?_, ?_⟩
  · rw [hentered]
    exact (completed_of_execute hout).trans h.unfinished
  · rw [hentered]
    exact hexec.trans h.sound
  · rw [hentered]
    exact (Reply.framing_excuse.enter r e'.node).symm.trans (congrArg (·.enter e'.node) hexcused)

theorem Unharmed.chain (h : Unharmed first) (hchain : Chain graph n first last) :
    Unharmed last := by
  induction hchain with
  | here e => exact h
  | next hp _ ih => exact ih (h.precedes hp)

/-- No fault reads like the limit. -/
theorem report_ne_tooManySteps (f : Fault) : f.report ≠ Reply.tooManySteps := by
  intro h
  have hcolon : ':' ∈ f.report.toList := by
    unfold Fault.report
    simp
  rw [h] at hcolon
  revert hcolon
  decide

/-- **A run that is cut off is left at the node after as many as the limit allows.** -/
theorem cut_of_run (hfirst : Unharmed first) (h : first.run graph n = .ok r)
    (hcut : r.error = some Reply.tooManySteps) :
    ∃ last, Chain graph n first last ∧ r = last.reply.degrade Reply.tooManySteps := by
  have hdegraded : r.degraded = true := by
    by_contra hd
    have hnone := Reply.error_eq_none (Reply.framing_excuse.run_fixed _ hfirst.excused h)
      (Bool.not_eq_true _ ▸ hd)
    rw [hnone] at hcut
    exact nomatch hcut
  cases blamed_of_run h hfirst.sound hdegraded with
  | failure hn hchain hf hr =>
    rw [hr] at hcut
    exact absurd (Option.some.inj hcut) (report_ne_tooManySteps _)
  | overrun hchain hr => exact ⟨_, hchain, hr⟩

/-! ### Where it goes on -/

/-- A node that passes on does not hear the message. -/
theorem run_of_passing (hnode : Passing node) (r : Reply) (limit : Nat) (text : Option String) :
    r.run graph limit node text = r.run graph limit node none := by
  cases limit with
  | zero => rfl
  | succ limit =>
    have hexecute : r.execute node text = r.execute node none := by
      unfold Reply.execute
      rcases hnode with hk | hk <;> rw [hk]
    unfold Reply.run
    rw [hexecute]

/-- The rest of a run does not depend on what was brought about before. -/
theorem run_eq_followedBy (hlast : Unharmed last) (limit : Nat) :
    last.run graph limit =
      ((Reply.idle last.reply.state).run graph limit last.node last.text).map
        last.reply.followedBy := by
  rw [← (Reply.framing_followedBy last.reply).run]
  rw [Reply.followedBy_idle hlast.excused hlast.sound]
  rfl

/-- The state in which a run was cut off, at some time. -/
def left (last : Execution) (now : Moment) : State :=
  { last.reply.state with lastUpdatedAt := now }

theorem Suspended.goOn (hs : Suspended last) (i : Interpreter) (text : Option String)
    (now : Moment) :
    i.goOn graph last.node text (last.left now) =
      ((Reply.idle last.reply.state).run graph i.maxChainSteps.toNat last.node last.text).map
        (Reply.retime last.reply.state.startedAt now) := by
  obtain ⟨hsilent, hpassing, r, hentered⟩ := hs
  have hhistory : (last.left now).history.isEmpty = false := by
    unfold left
    rw [hentered]
    simp [Reply.enter]
  unfold Interpreter.goOn Interpreter.runFrom
  rw [hhistory, if_neg Bool.false_ne_true, run_of_passing hpassing, hsilent]
  exact Reply.framing_retime.run (Reply.idle last.reply.state) last.node graph _ none

end Execution

namespace Interpreter

variable {graph : FlowGraph} {state : State} {node : FlowNode}

/-- An interpreter that goes on at a node stops there, or runs from some first node on; its limit
has no part in which. -/
theorem goOn_eq (hn : graph.node? node.id = some node) (hopen : state.completed = false)
    (text : Option String) :
    (∃ x : Except Fault Reply, (∀ r, x = .ok r → r.error = none) ∧
      ∀ i : Interpreter, i.goOn graph node text state = x) ∨
    ∃ first : Execution, first.Unharmed ∧ graph.node? first.node.id = some first.node ∧
      ∀ i : Interpreter, i.goOn graph node text state = first.run graph i.maxChainSteps.toNat := by
  unfold goOn
  by_cases hfirst : state.history.isEmpty = true
  · simp only [if_pos hfirst, enterAndRun]
    cases harrive : (Reply.idle state).arrive node with
    | error f => exact .inl ⟨.error f, fun _ h => (nomatch h), fun _ => rfl⟩
    | ok out =>
      obtain ⟨stop, r⟩ := out
      have hexcused : r.excuse = r := Reply.framing_excuse.arrive_fixed node rfl harrive
      have hsound : r.degraded = false := Execution.degraded_arrive harrive
      cases stop with
      | true =>
        refine .inl ⟨.ok r, fun r' hr' => ?_, fun _ => rfl⟩
        rw [← Except.ok.inj hr']
        exact Reply.error_eq_none hexcused hsound
      | false =>
        obtain ⟨-, hentered⟩ := Execution.suspended_of_arrive harrive
        refine .inr ⟨⟨node, none, r⟩, ⟨?_, hsound, hexcused⟩, hn, fun _ => rfl⟩
        rw [hentered]
        exact hopen
  · simp only [if_neg hfirst]
    exact .inr ⟨⟨node, text, Reply.idle state⟩, ⟨hopen, rfl, rfl⟩, hn, fun _ => rfl⟩

variable {n m : Int} {text : Option String} {session : Option SessionKey} {now : Moment}
  {first : Reply}

/-- A message that is cut off leaves the conversation at a node of a chain. -/
theorem cut_of_settle (hg : graph.Closed) (hn : 1 ≤ n)
    (h : (Interpreter.mk n).settle graph text now state = .ok first)
    (hcut : first.error = some Reply.tooManySteps) :
    ∃ last : Execution, last.Suspended ∧ last.Unharmed ∧
      graph.node? last.node.id = some last.node ∧
      first = (last.reply.degrade Reply.tooManySteps).touch now ∧
      ∀ m : Int, 0 ≤ m → (Interpreter.mk (n + m)).settle graph text now state =
        (last.run graph m.toNat).map (·.touch now) := by
  have hopen : state.completed = false := by
    by_contra hc
    rw [settle_completed _ graph (Bool.not_eq_false _ ▸ hc)] at h
    rw [← Except.ok.inj h] at hcut
    exact nomatch hcut
  rw [settle_open _ graph hopen] at h
  obtain ⟨node, hnode, h⟩ := exceptBind_eq_ok.mp h
  have hlookup := lookup_of_nodeAt hnode
  obtain ⟨-, hknown⟩ := lookup_eq_some hg hlookup
  obtain ⟨r, hrun, rfl⟩ := exceptMap_eq_ok.mp h
  rcases goOn_eq hknown hopen text with ⟨x, herror, hgo⟩ | ⟨start, hstart, hstartKnown, hgo⟩
  · rw [hgo] at hrun
    exact nomatch (herror r hrun).symm.trans hcut
  · rw [hgo] at hrun
    obtain ⟨last, hchain, hlast⟩ := Execution.cut_of_run hstart hrun hcut
    have hsome : n.toNat ≠ 0 := by omega
    refine ⟨last, hchain.suspended hsome, hstart.chain hchain, hchain.node hg hstartKnown,
      by rw [hlast], fun m hm => ?_⟩
    rw [settle_at hopen _ hlookup, hgo]
    show (start.run graph (n + m).toNat).map _ = _
    rw [Int.toNat_add (by omega) hm, Execution.run_of_chain hchain]

/-- The next message after a cut goes on from the node where the run was left. -/
theorem settle_left {last : Execution} (hs : last.Suspended) (hl : last.Unharmed)
    (hknown : graph.node? last.node.id = some last.node) (i : Interpreter) (text : Option String)
    (now now' : Moment) :
    i.settle graph text now' (last.left now) =
      ((Reply.idle last.reply.state).run graph i.maxChainSteps.toNat last.node last.text).map
        fun rest => (rest.retime last.reply.state.startedAt now).touch now' := by
  have hlookup : graph.lookup (last.left now).currentNodeId = .ok (some last.node) := by
    obtain ⟨-, -, r, hentered⟩ := hs
    unfold Execution.left
    rw [hentered]
    exact congrArg Except.ok hknown
  rw [settle_at (show (last.left now).completed = false from hl.unfinished) i hlookup,
    hs.goOn i text now]
  cases (Reply.idle last.reply.state).run graph i.maxChainSteps.toNat last.node last.text <;> rfl

/-- What the next message comes to, once the state was copied, and what becomes of the first message
under the sum of the limits: both the same, but for the times. -/
structure Resumes (graph : FlowGraph) (i : Interpreter) (first : Reply) (now : Moment)
    (rest whole : Except Fault Reply) : Prop where
  next : ∀ text session,
    i.step graph (some first.state) text session now = first.state.copy.bind fun _ => rest
  uncaptured : ∀ second, rest = .ok second → second.captured = none
  together : ∀ second, rest = .ok second → ∃ r, whole = .ok r ∧ r.Agrees (first.followedBy second)
  limit : ∀ f, rest = .error f → f.isLimit = true ∧ whole = .error f

theorem resumes_of_cut (hg : graph.Closed) (hn : 1 ≤ n) (hm : 0 ≤ m)
    (h : (Interpreter.mk n).settle graph text now state = .ok first)
    (hcut : first.error = some Reply.tooManySteps) (now' : Moment) :
    ∃ rest, Resumes graph (Interpreter.mk m) first now' rest
      ((Interpreter.mk (n + m)).settle graph text now state) := by
  obtain ⟨last, hs, hl, hknown, hfirst, hwhole⟩ := cut_of_settle hg hn h hcut
  have hstate : first.state = last.left now := by rw [hfirst]; rfl
  have hrest (text : Option String) := settle_left hs hl hknown (Interpreter.mk m) text now now'
  rw [hwhole m hm, Execution.run_eq_followedBy hl]
  generalize hrun : (Reply.idle last.reply.state).run graph (Interpreter.mk m).maxChainSteps.toNat
    last.node last.text = run at hrest
  refine ⟨run.map fun rest => (rest.retime last.reply.state.startedAt now).touch now',
    fun text' session' => ?_, fun second hsecond => ?_, fun second hsecond => ?_, fun f hf => ?_⟩
  · rw [step_some, hstate, ← hrest text']
    cases hcopied : (last.left now).copy with
    | error f => rfl
    | ok copied =>
      obtain ⟨-, rfl⟩ := State.copy_eq_ok.mp hcopied
      rfl
  · obtain ⟨rest, rfl, rfl⟩ := exceptMap_eq_ok.mp hsecond
    rw [hs.silent] at hrun
    exact (unspoken_of_run (Table.mem_values_of_get? hknown) hrun).captured
  · obtain ⟨rest, rfl, rfl⟩ := exceptMap_eq_ok.mp hsecond
    refine ⟨_, rfl, ?_⟩
    rw [hfirst]
    rfl
  · rw [exceptMap_eq_error.mp hf]
    refine ⟨?_, rfl⟩
    obtain ⟨node, r, -, harrive⟩ :=
      Execution.enters_of_run (e := ⟨last.node, last.text, Reply.idle last.reply.state⟩) hg hknown
        (hrun.trans (exceptMap_eq_error.mp hf))
    exact Execution.isLimit_of_arrive harrive

/-- **The limit for nodes loses nothing.**  Where a message is cut off, the next one comes to the same
whatever it says, if the state can be copied for it, and no node takes it for an answer.  The two
replies together are what an interpreter with the sum of the limits replies to the first message, but
for the times; and where the next message meets a limit, that interpreter meets it too. -/
theorem resumed_of_step {document templateId version : Value}
    (hread : Template.readGraph document templateId version = .ok graph) (hn : 1 ≤ n) (hm : 0 ≤ m)
    {state : Option State}
    (h : (Interpreter.mk n).step graph state text session now = .ok first)
    (hcut : first.error = some Reply.tooManySteps) (now' now'' : Moment) :
    ∃ rest, Resumes graph (Interpreter.mk m) first now' rest
      ((Interpreter.mk (n + m)).step graph state text session now'') := by
  have hg := Template.closed_of_readGraph hread
  have hresumed : ∃ rest, Resumes graph (Interpreter.mk m) first now' rest
      ((Interpreter.mk (n + m)).step graph state text session now) := by
    cases state with
    | some state =>
      obtain ⟨hcalls, h⟩ := (step_eq_ok _ graph).mp h
      obtain ⟨rest, hrest⟩ := resumes_of_cut hg hn hm h hcut now'
      refine ⟨rest, ?_⟩
      rw [step_some, State.copy_eq_ok.mpr ⟨hcalls, rfl⟩]
      exact hrest
    | none =>
      cases session with
      | none => exact nomatch h
      | some key =>
        rw [step_initial] at h ⊢
        exact resumes_of_cut hg hn hm h hcut now'
  obtain ⟨rest, hnext, huncaptured, htogether, hlimit⟩ := hresumed
  refine ⟨rest, hnext, huncaptured, fun second hsecond => ?_, fun f hf => ?_⟩
  · obtain ⟨whole, hok, hsame⟩ := htogether second hsecond
    obtain ⟨whole', hwhole', hagrees⟩ := step_agrees _ graph hok now''
    exact ⟨whole', hwhole', hagrees.symm.trans hsame⟩
  · obtain ⟨hisLimit, herror⟩ := hlimit f hf
    exact ⟨hisLimit, step_error _ graph herror now''⟩

/-- The answer runs round the circle into a limit of two; with three more nodes the next message
goes round from there, as one message with a limit of five does. -/
theorem resumed_of_step_circle : ∃ graph first second whole,
    Template.readGraph circle .null .null = .ok graph ∧
      (Interpreter.mk 2).step graph (some asked) (some "yes") none ⟨1, none⟩ = .ok first ∧
      first.error = some Reply.tooManySteps ∧
      (Interpreter.mk 3).step graph (some first.state) (some "no") none ⟨2, none⟩ = .ok second ∧
      (Interpreter.mk 5).step graph (some asked) (some "yes") none ⟨3, none⟩ = .ok whole ∧
      whole.Agrees (first.followedBy second) := by
  have h : ((Template.readGraph circle .null .null).toOption.any fun graph =>
      ((Interpreter.mk 2).step graph (some asked) (some "yes") none ⟨1, none⟩).toOption.any
        fun first => first.error = some Reply.tooManySteps &&
          ((Interpreter.mk 3).step graph (some first.state) (some "no") none ⟨2, none⟩).isOk) =
      true := by decide +kernel
  obtain ⟨graph, hread, h⟩ := exists_of_any h
  obtain ⟨first, hfirst, h⟩ := exists_of_any h
  obtain ⟨hcut, hok⟩ := Bool.and_eq_true_iff.mp h
  have hcut : first.error = some Reply.tooManySteps := of_decide_eq_true hcut
  obtain ⟨second, hsecond⟩ := exists_of_isOk hok
  obtain ⟨rest, hrest⟩ :=
    resumed_of_step hread (by decide) (show (0 : Int) ≤ 3 by decide) hfirst hcut ⟨2, none⟩ ⟨3, none⟩
  have hnext := hrest.next (some "no") none
  obtain ⟨copied, -, hreply⟩ := exceptBind_eq_ok.mp (hnext.symm.trans hsecond)
  obtain ⟨whole, hwhole, hsame⟩ := hrest.together second hreply
  exact ⟨graph, first, second, whole, hread, hfirst, hcut, hsecond, hwhole, hsame⟩

/-- Many lists are kept, before anything is said. -/
def heap : Value :=
  .object [("id", .text "heap"), ("entryNodeId", .text "keep"), ("nodes", .list [
    .object [("id", .text "keep"), ("type", .text "action"),
      ("set", .object [("lists", .piled 500)]), ("next", .text "say")],
    .object [("id", .text "say"), ("type", .text "message"), ("content", .text "Done."),
      ("next", .text "ask")],
    .object [("id", .text "ask"), ("type", .text "input"), ("content", .text "Your name?")]])]

/-- **A limit can come in between.**  One message leads past the lists with a limit of two; with a
limit of one it is cut off behind them, and the next message finds a state that cannot be copied. -/
theorem not_resumed_of_piled : ∃ graph first whole,
    Template.readGraph heap .null .null = .ok graph ∧
      (Interpreter.mk 1).step graph none (some "hi") (some caller) ⟨1, none⟩ = .ok first ∧
      first.error = some Reply.tooManySteps ∧
      (Interpreter.mk 1).step graph (some first.state) (some "Ann") none ⟨2, none⟩ =
        .error (.tooDeep "") ∧
      (Interpreter.mk 2).step graph none (some "hi") (some caller) ⟨3, none⟩ = .ok whole ∧
      whole.degraded = false := by
  have h : ((Template.readGraph heap .null .null).toOption.any fun graph =>
      (((Interpreter.mk 1).step graph none (some "hi") (some caller) ⟨1, none⟩).toOption.any
        fun first => first.error = some Reply.tooManySteps &&
          !decide (first.state.copyCalls ≤ Limits.calls)) &&
      ((Interpreter.mk 2).step graph none (some "hi") (some caller) ⟨3, none⟩).toOption.any
        fun whole => !whole.degraded) = true := by decide +kernel
  obtain ⟨graph, hread, h⟩ := exists_of_any h
  obtain ⟨hcut, hwhole⟩ := Bool.and_eq_true_iff.mp h
  obtain ⟨first, hfirst, hcut⟩ := exists_of_any hcut
  obtain ⟨whole, hwhole, hsound⟩ := exists_of_any hwhole
  obtain ⟨herror, hcalls⟩ := Bool.and_eq_true_iff.mp hcut
  have hcopy : first.state.copy = .error (.tooDeep "") := if_neg (by simpa using hcalls)
  refine ⟨graph, first, whole, hread, hfirst, of_decide_eq_true herror, ?_, hwhole,
    by simpa using hsound⟩
  rw [step_some, hcopy]
  rfl

end Interpreter

end Parley.Conversation
