import Parley.Complexity.Analysis
import Parley.Turn.Inbound

/-!
# Parley.Turn.Phases — the phases of one attempt at a message

An attempt loads the state, works on the message, and stores the new state.  Only storing changes
what is stored, and it does so only if nobody else stored the session in the meantime.
-/

namespace Parley.Turn

open Complexity (Thresholds)
open Conversation (SessionKey State)
open Recovery (Guard Guarded)
open Routing (Decision Router)
open Storage (Saved Store)
open Template (FlowGraph)
open Time (Clocked Moment)

/-- What messages are processed with. -/
structure Processor (ε : Type) where
  guard : Guard ε
  thresholds : Thresholds
  /-- How long a message waits for its session. -/
  lockSpan : Option Number
  /-- How often a message is tried while others change its session. -/
  attempts : Int

/-- A session goes on where it was, if that is still a place in the graph; else it starts anew. -/
def reconcile (graph : FlowGraph) (key : SessionKey) (now : Moment) (state : State) :
    Except Fault State := do
  let goesOn ← if state.flowId = .text graph.id then
      (graph.lookup state.currentNodeId).map (·.isSome)
    else pure false
  .ok (if goesOn then state
    else { State.initial graph key now with version := state.version })

section Phases

variable {ε : Type} [Clocked ε]

/-- Loads the state; the first attempt takes a copy of the one that came with the message. -/
def load (m : Inbound) (attempt : Nat) : Action (World ε) (Option State) :=
  match attempt, m.prior with
  | 0, some state => return some (← Action.ofExcept state.copy)
  | _, _ => Recovery.withRetry "state_load" do
      let now ← Action.now
      Action.tryPart (Store.load now m.key)

/-- Chooses the path of a message. -/
def route (p : Processor ε) (m : Inbound) (graph : FlowGraph) : Action (World ε) Decision := do
  let call : Router.Call := ⟨graph, m.routing, ← Action.clock⟩
  match ← Action.onPart fun r : Router => r.lookup call with
  | some decision => return decision
  | none =>
    let now ← Action.now
    let metrics ← Action.view Outcomes.Collector
    let performance ← metrics.performance now m.tenantId m.templateId
    let a ← Complexity.analyze p.thresholds graph performance
    let live ← metrics.live now m.tenantId m.templateId
    Action.onPart fun r : Router => r.route call ⟨a.score, a.risk, a.modules⟩ (some live)

/-- Does a message on the chosen path. -/
def execute (p : Processor ε) (m : Inbound) (graph : FlowGraph) (state : Option State)
    (decision : Decision) : Action (World ε) Guarded := do
  let c := m.context graph state
  match decision.path with
  | .enhanced => p.guard.run c decision.modules {}
  | .baseline =>
    let reply ← Action.inside (p.guard.manager.baseline (c.message []))
    return ⟨reply, .baseline, none⟩

/-- Stores the new state, if the stored version is still the one that the turn started with. -/
def save (state : Option State) (reply : Conversation.Reply) : Action (World ε) Saved :=
  Recovery.withRetry "state_save"
    (Action.tryPart (Store.save reply.state ((state.map (·.version)).getD 0)))

end Phases

end Parley.Turn
