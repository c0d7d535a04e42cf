import Parley.Number
import Parley.Outcomes.Window
import Parley.Table
import Parley.Time.Moment

/-!
# Parley.Recovery.Event — records of turns that left the enhanced path

An event tells of one recovery.  The journal keeps the latest events, and counts all of them by cause,
by module and by success.
-/

namespace Parley.Recovery

open Time (Moment)

/-- Why the enhanced path was abandoned. -/
inductive Cause
  | moduleTimeout | moduleError | moduleUnavailable | degradedResult | sessionLoss
  | dataCorruption | performanceDegradation | adminOverride | unknownError
  deriving DecidableEq, Repr

namespace Cause

def name : Cause → String
  | moduleTimeout => "module_timeout"
  | moduleError => "module_error"
  | moduleUnavailable => "module_unavailable"
  | degradedResult => "degraded_result"
  | sessionLoss => "session_loss"
  | dataCorruption => "data_corruption"
  | performanceDegradation => "performance_degradation"
  | adminOverride => "admin_override"
  | unknownError => "unknown_error"

def all : List Cause :=
  [moduleTimeout, moduleError, moduleUnavailable, degradedResult, sessionLoss, dataCorruption,
    performanceDegradation, adminOverride, unknownError]

def ofName? (s : String) : Option Cause := all.find? (·.name = s)

/-- Causes after which the enhanced path is worth another try. -/
def retryable : Cause → Bool
  | moduleTimeout | moduleUnavailable | performanceDegradation => true
  | _ => false

end Cause

inductive Severity
  | low | medium | high | critical
  deriving DecidableEq, Repr

def Severity.name : Severity → String
  | low => "low"
  | medium => "medium"
  | high => "high"
  | critical => "critical"

def Cause.severity : Cause → Severity
  | moduleTimeout | moduleUnavailable | degradedResult => .medium
  | moduleError | sessionLoss | unknownError => .high
  | dataCorruption => .critical
  | performanceDegradation | adminOverride => .low

/-- The steps of a recovery. -/
inductive RecoveryStep
  | logIncident | preserveSession | switchEngine | verifyLeadStage
  deriving DecidableEq, Repr

def RecoveryStep.name : RecoveryStep → String
  | logIncident => "log_incident"
  | preserveSession => "preserve_session"
  | switchEngine => "switch_engine"
  | verifyLeadStage => "verify_lead_stage"

inductive StepStatus
  | completed | failed | skipped
  deriving DecidableEq, Repr

def StepStatus.name : StepStatus → String
  | completed => "completed"
  | failed => "failed"
  | skipped => "skipped"

/-- One step of a recovery and what came of it. -/
structure RecoveryAction where
  step : RecoveryStep
  status : StepStatus
  detail : String
  deriving DecidableEq, Repr

def RecoveryAction.document (a : RecoveryAction) : Value :=
  .object [("type", .text a.step.name), ("status", .text a.status.name),
    ("detail", .text a.detail)]

/-- The record of one recovery. -/
structure FallbackEvent where
  tenantId : Value
  templateId : String
  sessionId : Value
  cause : Cause
  severity : Severity
  preservedState : Bool
  leadDataPreserved : Bool
  actions : List RecoveryAction
  error : Option String
  failedModule : Option String
  retryable : Bool
  succeeded : Bool
  durationMs : Number
  timestamp : Moment
  deriving DecidableEq

/-- An event as data.  Its identifier starts with `fb_`; the random rest has no meaning. -/
def FallbackEvent.document (e : FallbackEvent) : Value :=
  .object [("id", .text "fb_"), ("tenant_id", e.tenantId), ("template_id", .text e.templateId),
    ("session_id", e.sessionId), ("cause", .text e.cause.name),
    ("severity", .text e.severity.name), ("preserved_state", .bool e.preservedState),
    ("lead_data_preserved", .bool e.leadDataPreserved),
    ("recovery_actions", .list (e.actions.map RecoveryAction.document)),
    ("error", .ofOption e.error), ("failed_module", .ofOption e.failedModule),
    ("retryable", .bool e.retryable), ("succeeded", .bool e.succeeded),
    ("duration_ms", .ofNumber (e.durationMs.roundTo 2)), ("timestamp", .text e.timestamp.iso)]

/-! ### The recoveries so far -/

/-- The latest events, oldest first, and the counts. -/
structure Journal where
  historySize : Nat
  history : List FallbackEvent
  byCause : Fields Nat
  byModule : Fields Nat
  succeeded : Nat
  failed : Nat
  deriving DecidableEq

def countIn (counts : Fields Nat) (name : String) : Fields Nat :=
  counts.put name ((counts.get? name).getD 0 + 1)

namespace Journal

def new (historySize : Nat) : Journal := ⟨historySize, [], [], [], 0, 0⟩

/-- Notes an event. -/
def note (j : Journal) (e : FallbackEvent) : Journal where
  historySize := j.historySize
  history := Outcomes.lastEntries j.historySize (j.history ++ [e])
  byCause := countIn j.byCause e.cause.name
  byModule :=
    match e.failedModule with
    | none | some "" => j.byModule
    | some module => countIn j.byModule module
  succeeded := if e.succeeded then j.succeeded + 1 else j.succeeded
  failed := if e.succeeded then j.failed else j.failed + 1

/-- The events that a listing with a limit shows. -/
def latest (j : Journal) (limit : Int) : List FallbackEvent := Outcomes.listed limit j.history

def statsDocument (j : Journal) : Value :=
  let counts (c : Fields Nat) : Value := .object (c.map fun (name, n) => (name, .int n))
  .object [("total", .int (j.succeeded + j.failed : Nat)), ("succeeded", .int j.succeeded),
    ("failed", .int j.failed), ("by_cause", counts j.byCause), ("by_module", counts j.byModule)]

end Journal

end Parley.Recovery
