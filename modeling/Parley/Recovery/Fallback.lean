import Parley.Engine
import Parley.World

/-!
# Parley.Recovery.Fallback — a message done again by the baseline

When the enhanced path fails, the message is done by the baseline, from the state that the turn
started with and never from what the enhanced path left behind.  On the way it is checked that the
store still holds that state and that no stage visit is passed on twice; an event records all this.
-/

namespace Parley.Recovery

open Conversation (Reply SessionKey State StageTransition)
open Stages (Ledger VisitKey)
open Template (FlowGraph)
open Time (Clocked Seconds)

/-- The limit for the enhanced path, how many events are kept, and whether the store is asked. -/
structure FallbackConfig where
  enhancedTimeoutSeconds : Number
  historySize : Int
  verifyWithStore : Bool
  deriving DecidableEq

def FallbackConfig.default : FallbackConfig := ⟨.real 5, 1000, true⟩

/-- What is checked in one recovery. -/
structure FallbackOptions where
  verifyState : Bool := true
  verifyStages : Bool := true
  deriving DecidableEq, Repr

/-- What is needed to do a message again. -/
structure FallbackContext where
  graph : FlowGraph
  key : SessionKey
  templateId : String
  before : Option State
  text : Option String

/-- The message, as the engines get it. -/
def FallbackContext.message (c : FallbackContext) (modules : List Capability) : Message :=
  ⟨c.graph, c.before, c.text, some c.key, modules⟩

/-- Why the enhanced path was left. -/
structure Incident where
  cause : Cause
  error : Option String
  failedModule : Option String
  deriving DecidableEq, Repr

/-- The module that a fault is laid to. -/
def moduleOf : Fault → Option String
  | .moduleFailed module _ | .moduleTimeout module _ _ => some module
  | _ => none

def Incident.ofFault (cause : Cause) (f : Fault) : Incident := ⟨cause, some f.message, moduleOf f⟩

/-- The outcome of a recovery. -/
structure Recovered where
  reply : Reply
  preservedState : Bool
  leadDataPreserved : Bool
  event : FallbackEvent
  actions : List RecoveryAction

def Recovered.document (r : Recovered) : Value :=
  .object [("success", .bool true), ("engine_used", .text Path.baseline.name),
    ("preserved_state", .bool r.preservedState),
    ("lead_data_preserved", .bool r.leadDataPreserved), ("event", r.event.document),
    ("actions", .list (r.actions.map RecoveryAction.document))]

/-- The baseline, and which collaborators a recovery has. -/
structure Manager (ε : Type) where
  baseline : Engine ε
  config : FallbackConfig
  hasStore : Bool
  hasMetrics : Bool
  hasLedger : Bool

/-- Whether what is stored is what the turn started with. -/
def matchesStored (before stored : Option State) : Except Fault Bool :=
  match before with
  | none => .ok stored.isNone
  | some s =>
    if s.version = 0 then .ok stored.isNone
    else
      match stored with
      | none => .ok false
      | some r => if r.version = s.version then return (← r.signature) = (← s.signature) else .ok false

/-- Whether a stage visit is in its place in the history. -/
def inHistory (history : List Value) (t : StageTransition) : Bool :=
  0 ≤ t.historyIndex && history[t.historyIndex.toNat]? = some (.text t.nodeId)

/-- The first stage visit that comes twice, is not in the history, or was passed on before. -/
def badVisit? (claimed : VisitKey → Bool) (state : State) :
    List (Int × String) → List StageTransition → Option StageTransition
  | _, [] => none
  | seen, t :: more =>
    if seen.contains (t.historyIndex, t.stageId) || !inHistory state.history t
        || claimed (.of state t) then some t
    else badVisit? claimed state ((t.historyIndex, t.stageId) :: seen) more

/-- The check of the stage visits of a reply. -/
def stageCheck (claimed : VisitKey → Bool) (reply : Reply) : Bool × RecoveryAction :=
  if reply.stages.isEmpty then (true, ⟨.verifyLeadStage, .skipped, "no stage nodes visited"⟩)
  else
    match badVisit? claimed reply.state [] reply.stages with
    | some t =>
      (false, ⟨.verifyLeadStage, .failed, "stage '" ++ t.stageId ++ "' not applied exactly once"⟩)
    | none =>
      (true, ⟨.verifyLeadStage, .completed, ",".intercalate (reply.stages.map (·.stageId))⟩)

namespace Manager

variable {ε : Type} [Clocked ε]

/-- Asks the store whether it holds the state that the turn started with. -/
def askStore (c : FallbackContext) : Action (World ε) (Bool × RecoveryAction) := do
  let now ← Action.now
  match ← (Action.tryPart (Storage.Store.load now c.key)).attempt with
  | .ok stored =>
    if ← Action.ofExcept (matchesStored c.before stored) then
      return (true, ⟨.preserveSession, .completed, ""⟩)
    else return (false, ⟨.preserveSession, .failed, "stored state differs from turn input"⟩)
  | .error f =>
    match f with
    | .storePersistence .. =>
      return (false, ⟨.preserveSession, .failed, "reload failed: " ++ f.message⟩)
    | f => Action.fail f

/-- The check of the stored state. -/
def checkState (m : Manager ε) (o : FallbackOptions) (c : FallbackContext) :
    Action (World ε) (Bool × RecoveryAction) :=
  if o.verifyState && m.config.verifyWithStore && m.hasStore then askStore c
  else return (true, ⟨.preserveSession, .skipped, "no store verification"⟩)

/-- The check of the stage visits. -/
def checkStages (m : Manager ε) (o : FallbackOptions) (reply : Reply) :
    Action (World ε) (Bool × RecoveryAction) := do
  if o.verifyStages then
    let ledger ← Action.view Ledger
    return stageCheck (fun k => m.hasLedger && ledger.isClaimed k) reply
  else return (true, ⟨.verifyLeadStage, .skipped, ""⟩)

/-- Notes an event in the journal and in the metrics. -/
def emit (m : Manager ε) (e : FallbackEvent) : Action (World ε) Unit := do
  Action.update fun j : Journal => j.note e
  if m.hasMetrics then
    Action.update fun c : Outcomes.Collector => c.recordFallback e (some e.timestamp)

/-- The event of a recovery that started at a reading of the clock. -/
def event (c : FallbackContext) (i : Incident) (start : Seconds) (preserved leadOk : Bool)
    (actions : List RecoveryAction) (succeeded : Bool) : Action (World ε) FallbackEvent := do
  let clock ← Action.clock
  return {
    tenantId := c.key.tenant
    templateId := c.templateId
    sessionId := c.key.session
    cause := i.cause
    severity := if succeeded then i.cause.severity else .critical
    preservedState := preserved
    leadDataPreserved := leadOk
    actions := actions
    error := i.error
    failedModule := i.failedModule
    retryable := i.cause.retryable
    succeeded := succeeded
    durationMs := (clock.reading - start).toNumber * 1000
    timestamp := clock.now }

/-- Does the message of a turn by the baseline. -/
def recover (m : Manager ε) (c : FallbackContext) (i : Incident) (o : FallbackOptions) :
    Action (World ε) Recovered := do
  let start ← Action.reading
  let (preserved, kept) ← m.checkState o c
  let begun : List RecoveryAction := [⟨.logIncident, .completed, ""⟩, kept]
  let before ← Action.ofExcept (c.before.mapM State.copy)
  match ← (Action.inside (m.baseline ({ c with before := before }.message []))).attempt with
  | .ok reply =>
    let (leadOk, staged) ← m.checkStages o reply
    let actions := begun ++ [⟨.switchEngine, .completed, "baseline"⟩, staged]
    let e ← event c i start preserved leadOk actions true
    m.emit e
    return ⟨reply, preserved, leadOk, e, actions⟩
  | .error f =>
    match f with
    | .baselineFailed wording =>
      let actions := begun ++ [⟨.switchEngine, .failed, wording⟩]
      m.emit (← event c i start preserved false actions false)
      Action.fail f
    | f => Action.fail f

end Manager

end Parley.Recovery
