import Parley.Proofs.Enhanced.Walks
import Parley.Proofs.Turn.Conduct
import Parley.Turn.Blueprint

/-!
# Parley.Proofs.Turn.Home — a conversation stays in its session and in its graph

`AtHome graph name s`: the state `s` is stored under the name of its own session, and is at a node
of the graph.  A guard `Keeps` conversations at home if its own engine does; it does so if its engine
is faithful, as the engines of a service are (`guardsWalks_processor`).
-/

namespace Parley.Turn

open Conversation (Interpreter Reply State Walk)
open Recovery (FallbackContext Guard Guarded)
open Template (FlowGraph)
open Time (Clocked)

/-- The state is one of the session with that name, at a node of the graph. -/
structure AtHome (graph : FlowGraph) (name : String) (s : State) : Prop where
  named : s.key.join = .ok name
  resumes : Resumes graph s

section AtHome

variable {graph : FlowGraph} {name : String} {s : State} {r : Reply}

theorem atHome_initial (hg : graph.Closed) {key : Conversation.SessionKey}
    (hname : key.join = .ok name) (now : Time.Moment) :
    AtHome graph name (State.initial graph key now) := by
  obtain ⟨node, hnode⟩ := Option.isSome_iff_exists.mp hg.entered
  exact ⟨hname, rfl, node, congrArg Except.ok hnode⟩

/-- A walk leads to a node of the graph, and to no other session. -/
theorem AtHome.walk (h : AtHome graph name s) (hw : Walk graph s r) :
    AtHome graph name r.state := by
  obtain ⟨hflow, hplace⟩ := h.resumes
  have hkept := hw.kept
  refine ⟨?_, ?_, hw.placed hplace⟩
  · rw [show r.state.key = s.key from by rw [hkept]; rfl]
    exact h.named
  · rw [show r.state.flowId = s.flowId from by rw [hkept]]
    exact hflow

theorem atHome_of_walks {m : Message} (hg : m.graph.Closed)
    (hstate : ∀ s, m.state = some s → AtHome m.graph name s)
    (hsession : ∀ key, m.session = some key → key.join = .ok name) (h : Walks m r) :
    AtHome m.graph name r.state := by
  obtain ⟨working, hstarts, hwalk⟩ := h.walk
  refine AtHome.walk ?_ hwalk
  cases hstarts with
  | state hs => exact hstate _ hs
  | contact now _ hkey => exact atHome_initial hg (hsession _ hkey) now

end AtHome

/-! ### Guards -/

section Guard

variable {ε : Type}

/-- The guard's own engine keeps conversations at home, as far as its replies count. -/
def Keeps (g : Guard ε) (graph : FlowGraph) (name : String) : Prop :=
  ∀ (c : FallbackContext) modules reply object, c.graph = graph → c.key.join = .ok name →
    (∀ s, c.before = some s → AtHome graph name s) →
    (g.primary (c.message modules)).MayLeave c.before (.ok reply) object →
    reply.degraded = false → AtHome graph name reply.state

/-- The guard's own engine tells of walks only, as far as its replies count. -/
def GuardsWalks (g : Guard ε) : Prop :=
  ∀ (c : FallbackContext) modules reply object, c.graph.Closed →
    (g.primary (c.message modules)).MayLeave c.before (.ok reply) object →
    reply.degraded = false → Walks (c.message modules) reply

theorem GuardsWalks.keeps {g : Guard ε} (h : GuardsWalks g) {graph : FlowGraph} (hg : graph.Closed)
    (name : String) : Keeps g graph name := by
  rintro c modules reply object rfl hname hbefore hleave hd
  refine atHome_of_walks hg hbefore (fun key hkey => ?_) (h c modules reply object hg hleave hd)
  rw [← Option.some.inj hkey]
  exact hname

theorem guardsWalks_new {e : Engine ε} (he : Faithful e) (manager : Recovery.Manager ε)
    (limit : Option Number) : GuardsWalks (Guard.new e manager limit) := by
  intro c modules reply object hg hleave _
  obtain ⟨-, hend⟩ := Action.mayLeave_inside hleave
  exact he (c.message modules) reply hg hend

variable [Clocked ε]

/-- The guard's own engine is an interpreter with modules for navigation and for answers, each in
any configuration. -/
def Equipped (g : Guard ε) : Prop :=
  ∃ (s : Enhanced.Setup ε) (limit : Option Number), g = .new s.engine g.manager limit ∧
    ∀ module ∈ s.modules, (∃ config, module = Enhanced.navigationModule config) ∨
      ∃ config normalizer, module = Enhanced.captureModule config normalizer

theorem Equipped.walks {g : Guard ε} (h : Equipped g) : GuardsWalks g := by
  obtain ⟨s, limit, hnew, hmodules⟩ := h
  rw [hnew]
  refine guardsWalks_new (Enhanced.faithful_engine fun module hmodule => ?_) _ _
  rcases hmodules module hmodule with ⟨config, rfl⟩ | ⟨config, normalizer, rfl⟩
  · exact Enhanced.faithful_navigationModule config
  · exact Enhanced.faithful_captureModule config normalizer

theorem equipped_processor (b : Blueprint) (transport : Http.Transport ε) :
    Equipped (b.processor (b.enhanced transport).engine b.baseline).guard := by
  refine ⟨b.enhanced transport, b.limit, rfl, fun module hmodule => ?_⟩
  rcases List.mem_pair.mp hmodule with rfl | rfl
  · exact .inl ⟨_, rfl⟩
  · exact .inr ⟨_, _, rfl⟩

/-- **The engines of a service tell of walks only.** -/
theorem guardsWalks_processor (b : Blueprint) (transport : Http.Transport ε) :
    GuardsWalks (b.processor (b.enhanced transport).engine b.baseline).guard :=
  (equipped_processor b transport).walks

variable {p : Processor ε} {i : Interpreter} {m : Inbound} {graph : FlowGraph}
  {state : Option State} {decision : Routing.Decision} {guarded : Guarded}

/-- What a message is answered with on any path: a reply of the interpreter, or one of the guard's
own engine that counts. -/
theorem reply_of_execute (hb : p.guard.manager.baseline = Engine.baseline i)
    (h : (execute p m graph state decision).MayEnd (.ok guarded)) :
    (∃ now : Time.Moment, now.Proper ∧
        i.step graph state m.text (some m.key) now = .ok guarded.reply) ∨
      guarded.reply.degraded = false ∧ ∃ modules object,
        (p.guard.primary ((m.context graph state).message modules)).MayLeave state
          (.ok guarded.reply) object := by
  unfold execute at h
  cases hpath : decision.path with
  | enhanced =>
    rw [hpath] at h
    obtain ⟨⟨guarded', after⟩, hkeeping, hend⟩ := Action.mayEnd_andThen_ok.mp h
    have hguarded := Except.ok.inj (Action.mayEnd_result.mp hend)
    dsimp only at hguarded
    rw [← hguarded] at hkeeping
    obtain ⟨-, horigin⟩ := Recovery.origin_of_runKeeping hb hkeeping
    cases hrecovered : guarded.recovered with
    | some r =>
      exact .inl (horigin.replayed (by rw [hrecovered]; rfl)).2
    | none =>
      obtain ⟨-, hd, object, hleave⟩ := horigin.own hrecovered
      exact .inr ⟨hd, decision.modules, object, hleave⟩
  | baseline =>
    rw [hpath] at h
    obtain ⟨reply, hreply, hend⟩ := Action.mayEnd_andThen_ok.mp h
    rw [Except.ok.inj (Action.mayEnd_result.mp hend)]
    have hbase := Action.mayEnd_of_inside hreply
    rw [hb] at hbase
    exact .inl (Recovery.step_of_baseline hbase)

theorem atHome_of_execute (hb : p.guard.manager.baseline = Engine.baseline i)
    (hg : graph.Closed) (hk : Keeps p.guard graph m.lockName)
    (hstate : ∀ s, state = some s → AtHome graph m.lockName s)
    (h : (execute p m graph state decision).MayEnd (.ok guarded)) :
    AtHome graph m.lockName guarded.reply.state := by
  rcases reply_of_execute hb h with ⟨now, -, hstep⟩ | ⟨hd, modules, object, hleave⟩
  · have hwalks : Walks ((m.context graph state).message []) guarded.reply :=
      walks_of_step i hg hstep
    refine atHome_of_walks hg hstate (fun key hkey => ?_) hwalks
    rw [← Option.some.inj hkey]
    exact m.key_join
  · exact hk (m.context graph state) modules _ object rfl m.key_join hstate hleave hd

end Guard

/-! ### A greeting -/

section Greeting

/-- A question and a farewell, each with a stage. -/
def greetingTemplate : Value :=
  .object [("id", .text "greeting"), ("version", .text "1"), ("entryNodeId", .text "ask"),
    ("nodes", .list [
      .object [("id", .text "ask"), ("type", .text "input"), ("content", .text "Your name?"),
        ("metadata", .object [("salesStageId", .text "met")]), ("next", .text "bye")],
      .object [("id", .text "bye"), ("type", .text "terminal"), ("content", .text "Bye!"),
        ("metadata", .object [("salesStageId", .text "won")])]])]

def greetingBlueprint : Blueprint := { limit := some 5, moduleTimeout := 2, lockSpan := 10 }

/-- Nobody answers at any address. -/
def deadLine : Http.Transport Time.Clock := ⟨fun _ => Action.fail (.surprise "down")⟩

def greeter : Processor Time.Clock :=
  greetingBlueprint.processor (greetingBlueprint.enhanced deadLine).engine
    greetingBlueprint.baseline

def hello : Inbound := ⟨"acme", "ann", "1", "greeting", some "Ann", none⟩

/-- A site that knows the template and takes the enhanced path with it. -/
def greetingSite : World Time.Clock :=
  { Recovery.freshWorld with
    registry := Template.Registry.empty.putDocument "greeting" greetingTemplate
    router := .new { Routing.RouterConfig.default with forcedEnhancedTemplates := ["greeting"] } }

theorem serves_greeting {graph : FlowGraph} (hread : Template.readGraph greetingTemplate
    (.text "greeting") (.text "1") = .ok graph) :
    greetingSite.registry.serves "greeting" = .ok graph := by
  have hdocument : greetingSite.registry.documents.get? "greeting" = some greetingTemplate := rfl
  have hversion : Template.documentVersion greetingTemplate = .ok "1" := rfl
  rw [Template.Registry.serves_of_document hdocument (fun h => nomatch h)]
  exact Template.Registry.graphOf_eq hversion (.inr ⟨rfl, hread⟩)

/-- A state of somebody else, who was asked for the name. -/
def strayState : State where
  flowId := .text "greeting"
  tenantId := .text "globex"
  userId := .text "bob"
  sessionId := .text "9"
  currentNodeId := .text "ask"
  context := []
  history := [.text "ask"]
  startedAt := ⟨0, some 0⟩
  lastUpdatedAt := ⟨0, some 0⟩
  completed := false
  version := 0

/-- A conversation that names a lead with one digit more than have a text, and forgets it in the end. -/
def towerTemplate : Value :=
  .object [("id", .text "tower"), ("version", .text "1"), ("entryNodeId", .text "start"),
    ("nodes", .list [
      .object [("id", .text "start"), ("type", .text "action"), ("actions", .list [
        .object [("op", .text "set"), ("name", .text "lead_id"),
          ("value", .int (Nat.pow 10 4300 - 1 : Nat))],
        .object [("op", .text "increment"), ("name", .text "lead_id")]]), ("next", .text "ask")],
      .object [("id", .text "ask"), ("type", .text "input"), ("content", .text "Your name?"),
        ("metadata", .object [("salesStageId", .text "met")]), ("next", .text "bye")],
      .object [("id", .text "bye"), ("type", .text "action"), ("actions", .list [
        .object [("op", .text "unset"), ("name", .text "lead_id")]]), ("next", .text "end")],
      .object [("id", .text "end"), ("type", .text "terminal"), ("content", .text "Bye!")]])]

def climb : Inbound := { hello with templateId := "tower" }

/-- A site that knows this template and takes the enhanced path with it. -/
def towerSite : World Time.Clock :=
  { Recovery.freshWorld with
    registry := Template.Registry.empty.putDocument "tower" towerTemplate
    router := .new { Routing.RouterConfig.default with forcedEnhancedTemplates := ["tower"] } }

end Greeting

end Parley.Turn
