import Parley.Record.Blueprint
import Parley.Record.Source
import Parley.Time.Reader

/-!
# Parley.Record.Metrics — outcomes and questions about them from documents
-/

namespace Parley.Record

open Outcomes (Aggregate Collector Filter Outcome Stamped)
open Recovery (FallbackEvent)
open Time (Moment)

def pathOrNone (v : Value) : Except Fault (Option Path) :=
  if v.truthy then (member Path.ofName? "EngineVariant" v).map some else .ok none

def momentOrNone (v : Value) : Except Fault (Option Moment) :=
  if !v.truthy then .ok none
  else
    match v with
    | .text s => (Time.readMoment s).map some
    | _ => .error (.wrongArgument "fromisoformat: argument must be str")

/-- The moment of something recorded: given, some seconds ago, or now. -/
def pastMoment (now : Moment) (s : Source) : Except Fault (Option Moment) :=
  match Table.get? s "timestamp" with
  | some v => momentOrNone v
  | none => (Outcomes.cutoff (s.number "age" 0) now).map some

/-- The outcome of a message; unless told otherwise it was a short one on the baseline. -/
def outcome (s : Source) : Except Fault Outcome := do
  let more := s.fields "fields"
  .ok { path := ← member Path.ofName? "EngineVariant" (s.getOr "engine" (.text Path.baseline.name))
        templateId := (s.text? "template").getD "greeting"
        tenantId := s.text "tenant"
        latencyMs := s.number "latency_ms" (.real 10)
        captureSuccess := more.flagOrRaised "capture_success"
        captureAttempted := more.flag "capture_attempted"
        degraded := more.flag "degraded"
        fallback := more.flag "fallback"
        error := more.flag "error"
        sessionId := more.text? "session_id"
        routedPath := ← pathOrNone (more.get "routed_engine") }

def fallbackCause (s : Source) : Except Fault Recovery.Cause :=
  member Recovery.Cause.ofName? "FallbackCause" (s.get "cause")

/-- A recovery of which only the cause matters. -/
def fallbackEvent (s : Source) (cause : Recovery.Cause) (moment : Moment) : FallbackEvent :=
  ⟨s.get "tenant", "greeting", s.get "session", cause, .low, true, true, [], none, none, false,
    true, .real 0, moment⟩

def outcomeFilter (s : Source) : Except Fault Filter := do
  .ok ⟨← pathOrNone (s.get "engine"), ← momentOrNone (s.get "start"),
    ← momentOrNone (s.get "end"), s.text? "template", ← pathOrNone (s.get "routed")⟩

/-- An aggregate with the counts behind it. -/
def aggregateDocument (a : Aggregate) : Value :=
  .object (a.document ++ [("success_count", .int a.successes), ("error_count", .int a.errors),
    ("capture_successes", .int a.captureSuccesses)])

def outcomeRow (e : Stamped Outcome) : Value :=
  .list [.text e.moment.iso, .text e.value.path.name, .text e.value.routed.name,
    .text e.value.templateId, .ofNumber e.value.latencyMs, .bool e.value.succeeded]

def droppedDocument (c : Collector) : Value := .object [("dropped", .int c.dropped)]

/-- The answer of a collector to one of the questions that it knows. -/
def collectorAnswer (c : Collector) (now : Moment) (question : String) (s : Source) :
    Except Fault Value := do
  let tenant := s.text "tenant"
  let template := s.text "template"
  match question with
  | "aggregate" => .ok (aggregateDocument (← c.aggregated now tenant (← outcomeFilter s)))
  | "events" =>
    let events ← c.events now tenant (← outcomeFilter s)
    .ok (.object [("events", .list (events.map fun e => rounded 3 (outcomeRow e)))])
  | "live" => .ok (rounded 6 (document liveFields (← c.live now tenant template)))
  | "performance" =>
    let figures ← c.performance now tenant template
    .ok (.object [("performance",
      (figures.map fun p => rounded 6 (document performanceFields p)).getD .null)])
  | "compare" =>
    let pairs ← c.compare now tenant (s.text? "template")
    .ok (.object (pairs.map fun (path, a) => (path.name, aggregateDocument a)))
  | "fallbacks" =>
    let events := c.fallbackEvents tenant (s.int "limit" 100)
    .ok (.object [("fallbacks", .list (events.map (·.document)))])
  | "dropped" => .ok (droppedDocument c)
  | _ => .error (.badValue "unknown question")

end Parley.Record
