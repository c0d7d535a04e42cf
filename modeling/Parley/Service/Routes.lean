import Parley.Http
import Parley.Service.Call
import Parley.Service.Query
import Parley.Turn.Processor

/-!
# Parley.Service.Routes — what the service does with a call

A route is a place of the service.  Each place has one method.  A fault that callers can do something
about becomes a response; any other fault is one of the service itself.
-/

namespace Parley

/-- A service: its name, and how it processes messages. -/
structure Service (ε : Type) where
  name : String
  processor : Turn.Processor ε

namespace Service

open Conversation (State)
open Outcomes (Collector)
open Template (Registry)
open Time (Clocked)

/-- The places of the service. -/
inductive Route
  | health
  | template (id : String)
  | messages
  | session (tenant user id : String)
  | metrics (tenant : String)
  | comparison (tenant : String)
  | fallbacks (tenant : String)
  deriving DecidableEq, Repr

namespace Route

/-- The place at the end of a path. -/
def ofSegments? (segments : List String) : Option Route :=
  if segments.contains "" then none
  else
    match segments with
    | ["health"] => some health
    | ["v1", "templates", id] => some (template id)
    | ["v1", "messages"] => some messages
    | ["v1", "sessions", tenant, user, id] => some (session tenant user id)
    | ["v1", "metrics", tenant] => some (metrics tenant)
    | ["v1", "metrics", tenant, "comparison"] => some (comparison tenant)
    | ["v1", "metrics", tenant, "fallbacks"] => some (fallbacks tenant)
    | _ => none

def method : Route → String
  | template _ => "PUT"
  | messages => "POST"
  | session .. => "DELETE"
  | _ => "GET"

end Route

/-- The response to a fault, if callers are told about it. -/
def responseOf? (f : Fault) : Option Response :=
  match f with
  | .malformedGraph _ id problems =>
    some (.failure 422 "malformed_graph" f.message
      [("template_id", .text id), ("problems", .list (problems.map .text))])
  | .unknownTemplate _ => some (.failure 404 "unknown_template" f.message [])
  | .baselineFailed _ =>
    some (.failure 500 "processing_error" "The message could not be processed" [])
  | .transient .. =>
    some { Response.failure 503 "temporarily_unavailable" "Please retry shortly" [] with
      retryAfter := some "1" }
  | _ => none

section Handle

variable {ε : Type} [Clocked ε]

/-- Goes on with a sound value, or refuses the call. -/
def checked {α : Type} (value : Record.Checked α) (go : α → Action (World ε) Response) :
    Action (World ε) Response :=
  match value with
  | .sound a => go a
  | .flawed flaws => return .flawed flaws

/-- A universal moment with the letter for its offset. -/
def zulu (m : Time.Moment) : String := { m with offset := none }.iso ++ "Z"

def health (s : Service ε) : Action (World ε) Response := do
  let now ← Action.now
  return .ok [("status", .text "healthy"), ("service", .text s.name), ("timestamp", .text (zulu now))]

def putTemplate (id : String) (t : TemplateRequest) : Action (World ε) Response := do
  let registry ← Action.view Registry
  let (graph, registry) ← registry.register id t.document t.version
  Action.update fun _ : Registry => registry
  let _ ← Action.onPart fun r : Routing.Router => r.invalidate (some id) none
  return .ok [("template_id", .text id), ("version", .text graph.version),
    ("node_count", .int graph.size)]

/-- A mistake in the data of a state that callers are told about. -/
def isDataFault (f : Fault) : Bool :=
  f.family = .shape || f.family = .content || f.family = .missing

/-- The response with a document, which has to be written. -/
def send (fields : Fields Value) : Except Fault Response :=
  (Document.compose (.object fields)).map fun _ => .ok fields

def postMessage (s : Service ε) (m : MessageRequest) : Action (World ε) Response := do
  let now ← Action.now
  let go (prior : Option State) : Action (World ε) Response := do
    let outcome ← Turn.process s.processor
      ⟨m.tenantId, m.userId, m.sessionId, m.templateId, m.text, prior⟩
    Action.ofExcept (send outcome.document)
  match m.priorState with
  | none | some [] => go none
  | some fields =>
    match State.ofDocument now (.object fields) with
    | .ok state => go (some state)
    | .error f =>
      if isDataFault f then return .detail 400 ("Invalid prior_state: " ++ f.message)
      else Action.fail f

def resetSession (s : Service ε) (tenant user session : String) : Action (World ε) Response := do
  let removed ← Turn.reset s.processor ⟨tenant, user, session, "", none, none⟩
  return .ok [("reset", .bool removed)]

def showMetrics (tenant : String) (f : Outcomes.Filter) : Action (World ε) Response := do
  let now ← Action.now
  let aggregate ← (← Action.view Collector).aggregated now tenant f
  return .ok [("tenant_id", .text tenant), ("metrics", .object aggregate.document)]

def compareEngines (tenant : String) (templateId : Option String) : Action (World ε) Response := do
  let now ← Action.now
  let pairs ← (← Action.view Collector).compare now tenant templateId
  return .ok [("tenant_id", .text tenant),
    ("engines", .object (pairs.map fun (path, a) => (path.name, .object a.document)))]

def listFallbacks (tenant : String) (limit : Int) : Action (World ε) Response := do
  let events := (← Action.view Collector).fallbackEvents tenant limit
  return .ok [("tenant_id", .text tenant), ("fallbacks", .list (events.map (·.document)))]

/-- What is done at a place. -/
def serve (s : Service ε) (c : Call) : Route → Action (World ε) Response
  | .health => health s
  | .template id => checked (TemplateRequest.read c.body) (putTemplate id)
  | .messages => checked (MessageRequest.read c.body) (postMessage s)
  | .session tenant user session => resetSession s tenant user session
  | .metrics tenant => checked (filter c.texts) (showMetrics tenant)
  | .comparison tenant =>
    checked (named c.texts "template_id" Record.Shape.textOrNone none) (compareEngines tenant)
  | .fallbacks tenant =>
    checked (named c.texts "limit" Record.Shape.integer 100) (listFallbacks tenant)

/-- Answers a call.  A path may have been meant without the slashes at its end. -/
def handle (s : Service ε) (c : Call) : Action (World ε) Response :=
  match Route.ofSegments? (segments c.place) with
  | none =>
    match Route.ofSegments? (segments (Http.trimUrl c.place)) with
    | none => return .notFound
    | some _ => return .elsewhere
  | some route =>
    if c.method.toUpper ≠ route.method then return .notAllowed
    else
      (serve s c route).recover fun f =>
        match responseOf? f with
        | some response => return response
        | none => Action.fail f

end Handle

end Service

end Parley
