import Parley.Proofs.Turn.Errands
import Parley.Proofs.Turn.Stored
import Parley.Proofs.Turn.Whole

/-!
# Parley.Proofs.Turn.Lineage — how stored states descend from each other

A stored state is at a node of the graph of its turn, and this is where its history ends; it has the
version after the one that the turn started with.  If the turn goes on with a conversation, the
state has all of its history, and is of the same conversation (`Lineage`).  `lineage_of_run`: in any
run of messages, resets and registrations of templates, all states that are stored have such a
lineage.
-/

namespace Parley.Turn

open Conversation (Interpreter Reply State Walk)
open Recovery (Guarded)
open Storage (Replacing Store heldVersion)
open Template (FlowGraph)
open Time (Clocked)

/-- The history ends where the conversation is, unless it has not begun. -/
def Placed (s : State) : Prop :=
  s.history = [] ∨ s.history.getLast? = some s.currentNodeId

/-- The state `after` is stored by a turn in this graph that starts with `base`. -/
structure Lineage (graph : FlowGraph) (base : Option State) (after : State) : Prop where
  stands : ∃ node, graph.lookup after.currentNodeId = .ok (some node)
  placed : Placed after
  version : after.version = heldVersion base + 1
  goesOn : ∀ s, resumed graph base = some s →
    s.history <+: after.history ∧ after.startedAt = s.startedAt ∧ after.flowId = s.flowId

section Walk

variable {graph : FlowGraph} {before : State} {r : Reply}

theorem placed_initial (graph : FlowGraph) (key : Conversation.SessionKey) (now : Time.Moment)
    (version : Int) : Placed { State.initial graph key now with version := version } := .inl rfl

/-- A walk keeps the end of the history where the conversation is. -/
theorem placed_of_walk (h : Walk graph before r) (hbefore : Placed before) : Placed r.state := by
  have hhistory := h.history
  have hposition := h.position
  cases hlast : r.visited.getLast? with
  | none =>
    have hnone : r.visited = [] := List.getLast?_eq_none_iff.mp hlast
    rw [hnone] at hhistory hposition
    simp only [List.map_nil, List.append_nil] at hhistory
    unfold Placed
    rw [hhistory, hposition]
    exact hbefore
  | some id =>
    rw [hlast] at hposition
    right
    rw [hhistory, hposition, List.getLast?_append, List.getLast?_map, hlast]
    rfl

end Walk

variable {ε : Type} [Clocked ε] {p : Processor ε} {i : Interpreter} {m : Inbound}
  {graph : FlowGraph}

section Answered

variable {base state : Option State} {guarded : Guarded}

/-- A turn starts at a node of the graph, where the history ends. -/
theorem starts_placed (hg : graph.Closed) (hbase : ∀ s, base = some s → Placed s)
    {working : State} (h : Starts graph m base working) :
    (∃ node, graph.lookup working.currentNodeId = .ok (some node)) ∧ Placed working := by
  cases hresumed : resumed graph base with
  | none =>
    obtain ⟨now, rfl⟩ := h.anew hresumed
    obtain ⟨node, hnode⟩ := Option.isSome_iff_exists.mp hg.entered
    exact ⟨⟨node, congrArg Except.ok hnode⟩, placed_initial graph m.key now _⟩
  | some s =>
    rw [h.goesOn s hresumed]
    obtain ⟨hs, hresumes⟩ := eq_of_resumed hresumed
    exact ⟨hresumes.2, hbase s hs⟩

theorem lineage_of_answered (hb : p.guard.manager.baseline = Engine.baseline i)
    (hwalks : GuardsWalks p.guard) (hg : graph.Closed) (hbase : ∀ s, base = some s → Placed s)
    (h : Answered p m graph base state guarded) :
    Lineage graph base (storedAt guarded (heldVersion base + 1)).reply.state := by
  obtain ⟨⟨working, hstarts, hwalk⟩, -⟩ := walk_of_answered hb hg hwalks h
  obtain ⟨hstands, hplaced⟩ := starts_placed hg hbase hstarts
  have hplaced' : Placed guarded.reply.state := placed_of_walk hwalk hplaced
  refine ⟨hwalk.placed hstands, hplaced', rfl, fun s hs => ?_⟩
  obtain rfl := hstarts.goesOn s hs
  have hhistory : guarded.reply.state.history = _ := hwalk.history
  have hkept := hwalk.kept
  refine ⟨?_, ?_, ?_⟩
  · show working.history <+: guarded.reply.state.history
    rw [hhistory]
    exact List.prefix_append _ _
  · show guarded.reply.state.startedAt = working.startedAt
    rw [hkept]
  · show guarded.reply.state.flowId = working.flowId
    rw [hkept]

end Answered

section Run

variable {fair : State → Prop} {sound : Store → Prop} {held : Store → String → Option State}
  {errands : List Errand}
  {trace : List (Nat × World ε)} {start : World ε}
  {c : Crew (World ε) (World ε) (Option Outcome)} {job : Nat}

/-- A stored state is under the name of its session, and its history ends where it is. -/
structure Settles (name : String) (s : State) : Prop where
  named : s.key.join = .ok name
  placed : Placed s

theorem upholds_settles (hb : p.guard.manager.baseline = Engine.baseline i)
    (hwalks : GuardsWalks p.guard)
    (hfresh : ∀ m, .request (.message m) ∈ errands → m.prior = none) :
    Upholds Settles p errands := by
  intro m graph base after name hm hg hbase ⟨state, guarded, hanswered, hafter⟩ hname
  have hplaced (s : State) (hs : base = some s) : Placed s := by
    rcases hbase s hs with hsettles | hprior
    · exact hsettles.placed
    · exact nomatch (hfresh m hm).symm.trans hprior
  rw [hafter]
  exact ⟨hafter ▸ hname, (lineage_of_answered hb hwalks hg hplaced hanswered).placed⟩

/-- **All states that are stored have their lineage**, whatever messages without a state of their
own, resets and registrations of templates come to a service, and whatever turns they take: when the
next step of an errand stores a state, this is the reply to a message, in a graph that the message
was served, to a state that it found under the name of its session.  What messages reply has to be
what the store holds as it is: on a server that is so if the templates are whole (`fairly_whole`). -/
theorem lineage_of_run (hstore : Replacing fair sound held)
    (hb : p.guard.manager.baseline = Engine.baseline i) (hequipped : Equipped p.guard)
    (hfresh : ∀ m, .request (.message m) ∈ errands → m.prior = none)
    (hclosed : start.registry.Closed) (hsound : sound start.store)
    (hsettled : ∀ name s, held start.store name = some s → Settles name s)
    (hrun : Crew.Run Places.whole (Decent sound held Settles) glimpse
      ⟨start, errands.map (·.serve p)⟩ trace c)
    (hfair : Fairly fair held Settles p errands trace)
    {x : Action (World ε) (Option Outcome)} (hx : c.tasks[job]? = some x)
    {name : String} {after : State}
    (hafter : held (c.turn Places.whole job x).world.store name = some after)
    (hnew : held c.world.store name ≠ some after) :
    ∃ m graph base, errands[job]? = some (.request (.message m)) ∧ name = m.lockName ∧
      Glimpsed trace job (fun w => w.registry.serves m.templateId = .ok graph) ∧
      Glimpsed trace job (fun w => held w.store m.lockName = base) ∧
      heldVersion (held c.world.store name) = heldVersion base ∧
      Stores p m graph base after ∧ Lineage graph base after := by
  have hwalks := hequipped.walks
  obtain ⟨e, he⟩ : ∃ e, errands[job]? = some e := by
    have hlength := (List.getElem?_eq_some_iff.mp hx).1
    rw [hrun.length_tasks, List.length_map] at hlength
    exact ⟨errands[job], List.getElem?_eq_getElem hlength⟩
  have hchanged := changes_of_turn hstore hfair (upholds_settles hb hwalks hfresh)
    ⟨hsound, hclosed, hsettled⟩ hrun he hx (by rw [hafter]; exact Ne.symm hnew)
  rw [hafter] at hchanged
  cases hchanged with
  | @saved m graph base _ hbegun hstores hname hversion =>
    have hprior := hfresh m (List.mem_of_getElem? he)
    have hsettles (s : State) (hs : base = some s) : Settles m.lockName s := by
      rcases hbegun.fine s hs with hsettles | hbrought
      · exact hsettles
      · exact nomatch hprior.symm.trans hbrought
    have hfound : Glimpsed trace job fun w => held w.store m.lockName = base := by
      rcases hbegun.found with hfound | ⟨hsome, hbrought⟩
      · exact hfound
      · rw [← hbrought, hprior] at hsome
        exact nomatch hsome
    obtain ⟨state, guarded, hanswered, hreply⟩ := hstores
    have hlineage : Lineage graph base after := by
      rw [hreply]
      exact lineage_of_answered hb hwalks hbegun.closed (fun s hs => (hsettles s hs).placed)
        hanswered
    have hproper : Entry.Proper graph m.lockName ⟨job, base, after⟩ := by
      rw [hreply]
      exact proper_of_answered hb hbegun.closed hwalks (fun s hs => (hsettles s hs).named) hanswered
    have hown : after.key.join = .ok m.lockName := hproper.named
    have hsame : name = m.lockName := Except.ok.inj (hname.symm.trans hown)
    exact ⟨m, graph, base, he, hsame, hbegun.served, hfound, hversion,
      ⟨state, guarded, hanswered, hreply⟩, hlineage⟩

end Run

/-! ### A farewell that changes -/

section Farewell

/-- The greeting with another farewell. -/
def laterGreeting : Service.TemplateRequest where
  nodes := [
    [("id", .text "ask"), ("type", .text "input"), ("content", .text "Your name?"),
      ("next", .text "leave")],
    [("id", .text "leave"), ("type", .text "terminal"), ("content", .text "Farewell!")]]
  entryNodeId := "ask"
  version := some "2"
  name := none
  tenantId := none
  metadata := []

/-- Ann is asked for her name, then the template changes, and she answers. -/
def farewellErrands : List Errand :=
  [.request (.message hello), .register "greeting" laterGreeting, .request (.message hello)]

/-- The greeting on a server. -/
def servedSite : World Time.Clock := { greetingSite with store := emptyServer }

/-- The run up to the step that stores the state after the answer. -/
def farewellRun : List (Nat × World Time.Clock) ×
    Crew (World Time.Clock) (World Time.Clock) (Option Outcome) :=
  (Crew.mk servedSite (farewellErrands.map (·.serve greeter))).drive Places.whole glimpse
    (List.replicate 80 0 ++ List.replicate 8 1 ++ List.replicate 53 2)

theorem farewell_fresh (m : Inbound) (hm : .request (.message m) ∈ farewellErrands) :
    m.prior = none ∧ m.templateId = "greeting" := by
  simp only [farewellErrands, List.mem_cons, Errand.request.injEq, Request.message.injEq,
    List.not_mem_nil, or_false, reduceCtorEq, false_or] at hm
  rcases hm with rfl | rfl <;> exact ⟨rfl, rfl⟩

/-- Both templates are whole, and the history is kept when the next state is stored. -/
theorem farewell_run :
    (farewellRun.1.all fun v =>
      (v.2.registry.serves "greeting").toOption.all fun graph => graph.Whole Value.noReals) = true ∧
    (Storage.onRemote farewellRun.2.world.store hello.lockName).map (·.history) =
      some [.text "ask"] ∧
    (farewellRun.2.tasks[2]?.bind fun x =>
      (Storage.onRemote (farewellRun.2.turn Places.whole 2 x).world.store hello.lockName).map
        (·.history)) = some [.text "ask", .text "leave"] := by
  decide +kernel

theorem farewell_whole {job : Nat} {graph : FlowGraph}
    (h : Glimpsed farewellRun.1 job fun w => w.registry.serves "greeting" = .ok graph) :
    graph.Whole Value.noReals := by
  obtain ⟨w, hw, hserved⟩ := h
  have hwhole := List.all_eq_true.mp farewell_run.1 _ hw
  rw [hserved] at hwhole
  exact of_decide_eq_true hwhole

theorem fairly_farewell : Fairly (State.Whole Value.noReals) Storage.onRemote Settles greeter
    farewellErrands farewellRun.1 := by
  refine fairly_whole (i := {}) Value.holdable_none rfl
    (equipped_processor greetingBlueprint deadLine) (fun job m graph he hserved => ?_)
    fun m s hm hs => ?_
  · rw [(farewell_fresh m (List.mem_of_getElem? he)).2] at hserved
    exact farewell_whole hserved
  · exact nomatch (farewell_fresh m hm).1.symm.trans hs

/-- The conversation goes on in the graph of the new template, and keeps its history. -/
theorem lineage_of_run_farewell : ∃ trace c x before after,
    Crew.Run Places.whole (Decent (HoldsWhole Value.noReals) Storage.onRemote Settles) glimpse
      ⟨servedSite, farewellErrands.map (·.serve greeter)⟩ trace c ∧
    c.tasks[2]? = some x ∧
    Storage.onRemote c.world.store hello.lockName = some before ∧
    before.history = [.text "ask"] ∧
    Storage.onRemote (c.turn Places.whole 2 x).world.store hello.lockName = some after ∧
    after.history = [.text "ask", .text "leave"] ∧
    ∃ graph base,
      Glimpsed trace 2 (fun w => w.registry.serves "greeting" = .ok graph) ∧
      Glimpsed trace 2 (fun w => Storage.onRemote w.store hello.lockName = base) ∧
      before.version = heldVersion base ∧ Stores greeter hello graph base after ∧
      Lineage graph base after := by
  have hrun : Crew.Run Places.whole (Decent (HoldsWhole Value.noReals) Storage.onRemote Settles)
      glimpse ⟨servedSite, farewellErrands.map (·.serve greeter)⟩ farewellRun.1 farewellRun.2 :=
    Crew.run_drive _
  obtain ⟨-, hbefore, hafter⟩ := farewell_run
  obtain ⟨before, hbefore, hasked⟩ := Option.map_eq_some_iff.mp hbefore
  obtain ⟨x, hx, hafter⟩ := Option.bind_eq_some_iff.mp hafter
  obtain ⟨after, hafter, hleft⟩ := Option.map_eq_some_iff.mp hafter
  have hnew : Storage.onRemote farewellRun.2.world.store hello.lockName ≠ some after := by
    intro hsame
    rw [hbefore] at hsame
    rw [Option.some.inj hsame, hleft] at hasked
    exact absurd hasked (by decide)
  have hb : greeter.guard.manager.baseline = Engine.baseline {} := rfl
  have hsettled (name : String) (s : State)
      (hs : Storage.onRemote servedSite.store name = some s) : Settles name s := by
    have hnone : Storage.onRemote servedSite.store name = none := rfl
    exact nomatch hnone.symm.trans hs
  obtain ⟨m, graph, base, he, -, hserved, hfound, hversion, hstores, hlineage⟩ :=
    lineage_of_run (replacing_whole Value.holdable_none) hb
      (equipped_processor greetingBlueprint deadLine) (fun m hm => (farewell_fresh m hm).1)
      Template.Registry.closed_empty (onServer_empty _).1 hsettled hrun fairly_farewell hx hafter hnew
  obtain rfl : hello = m := Request.message.inj (Errand.request.inj (Option.some.inj he))
  rw [hbefore] at hversion
  exact ⟨_, _, x, before, after, hrun, hx, hbefore, hasked, hafter, hleft, graph, base, hserved,
    hfound, hversion, hstores, hlineage⟩

end Farewell

end Parley.Turn
