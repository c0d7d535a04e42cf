import Parley.Recovery.Guard

/-!
# Parley.Turn.Inbound — a message that comes in, and what comes of it
-/

namespace Parley.Turn

open Conversation (OutputMessage SessionKey State)
open Recovery (FallbackContext Recovered)
open Routing (Decision RoutingContext)
open Template (FlowGraph)

/-- A message of a user for a conversation with a template.  The sender may bring the state along. -/
structure Inbound where
  tenantId : String
  userId : String
  sessionId : String
  templateId : String
  text : Option String
  prior : Option State

namespace Inbound

def key (m : Inbound) : SessionKey := ⟨.text m.tenantId, .text m.userId, .text m.sessionId⟩

/-- The name of the session's lock. -/
def lockName (m : Inbound) : String := ":".intercalate [m.tenantId, m.userId, m.sessionId]

def routing (m : Inbound) : RoutingContext := ⟨m.tenantId, m.userId, m.sessionId, m.templateId⟩

/-- The message in a state, as the enhanced path gets it. -/
def context (m : Inbound) (graph : FlowGraph) (state : Option State) : FallbackContext :=
  ⟨graph, m.key, m.templateId, state, m.text⟩

theorem key_join (m : Inbound) : m.key.join = .ok m.lockName := rfl

end Inbound

/-- What came of a message. -/
structure Outcome where
  outputs : List OutputMessage
  state : State
  path : Path
  degraded : Bool
  decision : Decision
  recovered : Option Recovered
  latencyMs : Number

def Outcome.document (o : Outcome) : Fields Value :=
  [("outputs", .list (o.outputs.map (·.document))), ("state", .object o.state.document),
    ("engineUsed", .text o.path.name), ("degraded", .bool o.degraded),
    ("routing", o.decision.document),
    ("fallback", (o.recovered.map fun r => r.event.document).getD .null)]

end Parley.Turn
