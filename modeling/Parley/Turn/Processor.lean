import Parley.Turn.Phases

/-!
# Parley.Turn.Processor — messages, one at a time for each session

The session's lock spans all attempts at a message.  Metrics and stage visits are noted only after
the new state is stored.  A message that fails before that leaves nothing behind but the note of a
failed baseline; one whose lead cannot be found fails after it, with its state stored and its metrics
noted.
-/

namespace Parley.Turn

open Conversation (State)
open Recovery (Guarded)
open Routing (Decision)
open Storage (Store)
open Template (FlowGraph Registry)
open Time (Clocked Seconds)

/-- The result of an attempt that nobody interfered with. -/
structure Settled where
  decision : Decision
  guarded : Guarded

section Process

variable {ε : Type} [Clocked ε]

def elapsedMs (start now : Seconds) : Number := (now - start).toNumber * 1000

/-- The figures of a message; without a reply it failed. -/
def outcomeFigures (m : Inbound) (graph : FlowGraph) (decision : Decision)
    (guarded : Option Guarded) (latencyMs : Number) : Outcomes.Outcome :=
  let captured := guarded.bind fun g => g.reply.captured
  { path := (guarded.map (·.path)).getD decision.path
    templateId := graph.id
    tenantId := m.tenantId
    latencyMs := latencyMs
    captureSuccess := captured ≠ some false
    captureAttempted := captured.isSome
    degraded := (guarded.map (·.reply.degraded)).getD false
    fallback := (guarded.bind (·.recovered)).isSome
    error := guarded.isNone
    sessionId := some m.sessionId
    routedPath := some decision.path }

/-- Notes the figures of a message. -/
def note (m : Inbound) (graph : FlowGraph) (decision : Decision) (guarded : Option Guarded)
    (start : Seconds) : Action (World ε) Unit := do
  let clock ← Action.clock
  let o := outcomeFigures m graph decision guarded (elapsedMs start clock.reading)
  Action.update fun c : Outcomes.Collector => c.recordOutcome o (some clock.now)

/-- Schedules the advances for the stage visits of a reply. -/
def schedule (guarded : Guarded) : Action (World ε) Unit := do
  let advances ← Action.tryPart fun l : Stages.Ledger =>
    Stages.passOn l guarded.reply.state guarded.reply.stages
  Action.change fun w : World ε => { w with advances := w.advances ++ advances }

/-- Does the message, and notes a failure of the baseline. -/
def work (p : Processor ε) (m : Inbound) (graph : FlowGraph) (start : Seconds)
    (loaded : Option State) : Action (World ε) (Option State × Settled) := do
  let now ← Action.now
  let state ← loaded.mapM fun s => (reconcile graph m.key now s : Except Fault State)
  let decision ← route p m graph
  match ← (execute p m graph state decision).attempt with
  | .ok guarded => return (state, ⟨decision, guarded⟩)
  | .error f =>
    match f with
    | .baselineFailed _ =>
      note m graph decision none start
      Action.fail f
    | f => Action.fail f

/-- One attempt at a message: none if somebody else changed the session. -/
def tryOnce (p : Processor ε) (m : Inbound) (graph : FlowGraph) (start : Seconds)
    (attempt : Nat) : Action (World ε) (Option Settled) := do
  let loaded ← load m attempt
  let (state, settled) ← work p m graph start loaded
  if state.any (·.completed) then return some settled
  let saved ← save state settled.guarded.reply
  if saved.ok then
    let reply := settled.guarded.reply
    let stored := { reply with state := saved.adopt reply.state }
    return some { settled with guarded := { settled.guarded with reply := stored } }
  else return none

def interferenceFault (p : Processor ε) (m : Inbound) : Fault :=
  .transient ("Session " ++ m.sessionId ++ " kept changing concurrently") p.attempts

/-- Tries a message `left` more times, after `attempt` attempts. -/
def tryRepeatedly (p : Processor ε) (m : Inbound) (graph : FlowGraph) (start : Seconds) :
    (left attempt : Nat) → Action (World ε) Settled
  | 0, _ => Action.fail (interferenceFault p m)
  | left + 1, attempt => do
    match ← tryOnce p m graph start attempt with
    | some settled => return settled
    | none => tryRepeatedly p m graph start left (attempt + 1)

/-- The graph of a template as it stands now. -/
def graphOf (templateId : String) : Action (World ε) FlowGraph := do
  let registry ← Action.view Registry
  let (graph, registry) ← registry.fetch templateId
  Action.update fun _ : Registry => registry
  return graph

/-- Processes a message. -/
def process (p : Processor ε) (m : Inbound) : Action (World ε) Outcome := do
  let start ← Action.reading
  let graph ← graphOf m.templateId
  let settled ← Session.whileHolding m.lockName p.lockSpan
    (tryRepeatedly p m graph start p.attempts.toNat 0)
  note m graph settled.decision (some settled.guarded) start
  schedule settled.guarded
  let reply := settled.guarded.reply
  return {
    outputs := reply.outputs
    state := reply.state
    path := settled.guarded.path
    degraded := reply.degraded
    decision := settled.decision
    recovered := settled.guarded.recovered
    latencyMs := elapsedMs start (← Action.reading) }

/-- Forgets the state of a session; tells whether there was one. -/
def reset (p : Processor ε) (m : Inbound) : Action (World ε) Bool :=
  Session.whileHolding m.lockName p.lockSpan
    (Recovery.withRetry "state_delete" (Action.tryPart (Store.delete m.key)))

end Process

end Parley.Turn
