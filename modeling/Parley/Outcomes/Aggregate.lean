import Parley.Capability
import Parley.Outcomes.Percentile

/-!
# Parley.Outcomes.Aggregate — outcomes of messages, one by one and taken together
-/

namespace Parley.Outcomes

/-- The outcome of one message. -/
structure Outcome where
  path : Path
  templateId : String
  tenantId : String
  latencyMs : Number
  captureSuccess : Bool
  captureAttempted : Bool
  degraded : Bool
  fallback : Bool
  error : Bool
  sessionId : Option String
  /-- The path that was chosen, if another one was taken in the end. -/
  routedPath : Option Path
  deriving DecidableEq

/-- The path that was chosen. -/
def Outcome.routed (o : Outcome) : Path := o.routedPath.getD o.path

def Outcome.succeeded (o : Outcome) : Bool := !(o.error || o.degraded)

def Outcome.captured (o : Outcome) : Bool := o.captureAttempted && o.captureSuccess

/-- Outcomes taken together. -/
structure Aggregate where
  count : Nat
  successes : Nat
  errors : Nat
  degraded : Nat
  fallbacks : Nat
  captureAttempts : Nat
  captureSuccesses : Nat
  averageLatencyMs : Number
  p95LatencyMs : Number
  deriving DecidableEq

def sumOf (values : List Number) : Number := values.foldl (· + ·) 0

/-- The mean of values; zero if there are none. -/
def mean (values : List Number) : Number :=
  if values.isEmpty then .real 0 else sumOf values / .int values.length

/-- The value below which nearly all values lie; zero if there are none. -/
def p95 (values : List Number) : Number :=
  match percentile values 95 with
  | .ok v => v
  | .error _ => .real 0

def aggregate (outcomes : List Outcome) : Aggregate where
  count := outcomes.length
  successes := outcomes.countP Outcome.succeeded
  errors := outcomes.countP Outcome.error
  degraded := outcomes.countP Outcome.degraded
  fallbacks := outcomes.countP Outcome.fallback
  captureAttempts := outcomes.countP Outcome.captureAttempted
  captureSuccesses := outcomes.countP Outcome.captured
  averageLatencyMs := mean (outcomes.map Outcome.latencyMs)
  p95LatencyMs := p95 (outcomes.map Outcome.latencyMs)

namespace Aggregate

/-- A share of a whole; zero if there is no whole. -/
def rate (part whole : Nat) : Number :=
  if whole = 0 then .real 0 else .int part / .int whole

def successRate (a : Aggregate) : Number := rate a.successes a.count
def errorRate (a : Aggregate) : Number := rate a.errors a.count
def fallbackRate (a : Aggregate) : Number := rate a.fallbacks a.count

/-- The share of answers that were taken, if any were looked for. -/
def captureSuccessRate (a : Aggregate) : Option Number :=
  if a.captureAttempts = 0 then none else some (rate a.captureSuccesses a.captureAttempts)

def document (a : Aggregate) : Fields Value :=
  [("count", .int a.count), ("success_rate", .ofNumber (a.successRate.roundTo 4)),
    ("error_rate", .ofNumber (a.errorRate.roundTo 4)), ("degraded_count", .int a.degraded),
    ("fallback_count", .int a.fallbacks), ("fallback_rate", .ofNumber (a.fallbackRate.roundTo 4)),
    ("capture_attempts", .int a.captureAttempts),
    ("capture_success_rate", match a.captureSuccessRate with
      | some r => .ofNumber (r.roundTo 4)
      | none => .null),
    ("average_latency_ms", .ofNumber (a.averageLatencyMs.roundTo 2)),
    ("p95_latency_ms", .ofNumber (a.p95LatencyMs.roundTo 2))]

end Aggregate

end Parley.Outcomes
