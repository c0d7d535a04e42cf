import Parley.Complexity.Signals
import Parley.Capability
import Parley.Scalar

/-!
# Parley.Complexity.Analysis — how hard a template is for the baseline path

A score weighs the shape of a graph and, where known, how conversations with it went.  The risk of
running it on the baseline path is a level that the score reaches.  Features that the baseline path
handles badly name the abilities that would help.
-/

namespace Parley.Complexity

open Template (FlowGraph)

/-! ### Levels of risk -/

inductive RiskLevel
  | low | medium | high | critical
  deriving DecidableEq, Repr

def RiskLevel.name : RiskLevel → String
  | low => "low"
  | medium => "medium"
  | high => "high"
  | critical => "critical"

def RiskLevel.all : List RiskLevel := [low, medium, high, critical]

def RiskLevel.ofName? (s : String) : Option RiskLevel := all.find? (·.name = s)

/-- The scores from which on the levels above the lowest are reached. -/
structure RiskBounds (α : Type) where
  medium : α
  high : α
  critical : α

/-- The highest level whose bound a score reaches. -/
def RiskBounds.level {α : Type} [Scalar α] (bounds : RiskBounds α) (score : α) : RiskLevel :=
  if Scalar.atMost bounds.critical score then .critical
  else if Scalar.atMost bounds.high score then .high
  else if Scalar.atMost bounds.medium score then .medium
  else .low

/-! ### The analysis -/

/-- What counts as large, and what counts as bad. -/
structure Thresholds where
  mediumRisk : Number
  highRisk : Number
  criticalRisk : Number
  maxNodes : Number
  maxInputFraction : Number
  maxBranching : Number
  maxChainLength : Number
  sequentialInputs : Number
  branchingFactor : Number
  chainLength : Number
  minCaptureSuccessRate : Number
  maxDropRate : Number
  maxErrorRate : Number
  maxResponseMs : Number
  performanceWeight : Number
  deriving DecidableEq

def Thresholds.default : Thresholds where
  mediumRisk := .real 0.25
  highRisk := .real 0.5
  criticalRisk := .real 0.75
  maxNodes := 30
  maxInputFraction := .real 0.4
  maxBranching := .real 4
  maxChainLength := 10
  sequentialInputs := 3
  branchingFactor := .real 3
  chainLength := 8
  minCaptureSuccessRate := .real 0.8
  maxDropRate := .real 0.2
  maxErrorRate := .real 0.1
  maxResponseMs := .real 2000
  performanceWeight := .real 0.3

def Thresholds.bounds (t : Thresholds) : RiskBounds Number :=
  ⟨t.mediumRisk, t.highRisk, t.criticalRisk⟩

/-- How conversations with a template went. -/
structure Performance where
  captureSuccessRate : Option Number
  dropRate : Option Number
  errorRate : Option Number
  averageResponseMs : Option Number
  sampleSize : Number
  deriving DecidableEq

/-- The verdict on one version of a template. -/
structure Analysis where
  templateId : String
  version : String
  score : Number
  risk : RiskLevel
  modules : List Capability
  signals : Signals
  issues : List String
  deriving DecidableEq

/-- What speaks for a module, and what is said about it. -/
structure Finding where
  modules : List Capability
  issue : String

/-- A quotient of numbers; nothing can be divided by zero. -/
def divide (a b : Number) : Except Fault Number :=
  if b.isZero then
    .error (.divisionByZero (match a, b with
      | .int _, .int _ => "division by zero"
      | _, _ => "float division by zero"))
  else .ok (a / b)

def clipRatio (a b : Number) : Except Fault Number := (divide a b).map Scalar.clip

/-- The score of a graph's shape; the weights of its five parts sum to one. -/
def structuralScore (t : Thresholds) (s : Signals) : Except Fault Number := do
  let size ← clipRatio (.int s.nodeCount) t.maxNodes
  let inputs ← clipRatio s.blockingInputFraction t.maxInputFraction
  let branching ← clipRatio s.branchingFactor t.maxBranching
  let depth ← clipRatio (.int s.maxChainLength) t.maxChainLength
  let cycles : Number := .real (if s.hasCycles then 1 else 0)
  .ok (.real 0.25 * size + .real 0.25 * inputs + .real 0.2 * branching + .real 0.2 * depth
    + .real 0.1 * cycles)

/-- Features of the shape that the baseline path handles badly. -/
def structuralFindings (t : Thresholds) (s : Signals) : List Finding :=
  (if t.sequentialInputs.atMost (.int s.maxSequentialInputs) then
    [⟨[.enhancedCapture], toString s.maxSequentialInputs ++ " sequential blocking inputs"⟩]
   else [])
  ++ (if s.hasCycles then [⟨[.dynamicNavigation], "graph contains loop-back cycles"⟩] else [])
  ++ (if t.branchingFactor.atMost s.branchingFactor then
    [⟨[.dynamicNavigation], "high branching factor (" ++ s.branchingFactor.fixed 1 ++ ")"⟩]
   else [])
  ++ (if t.chainLength.atMost (.int s.maxChainLength) then
    [⟨[.dynamicNavigation], "long navigation chain (" ++ toString s.maxChainLength ++ " nodes)"⟩]
   else [])

/-- One measure of performance: its part of the score, and a finding if it is bad. -/
structure Measure where
  component : Number
  finding : Option Finding

/-- A measure that is bad above a limit, where it weighs one half. -/
def limitedMeasure (value limit : Number) (modules : List Capability) (issue : String) :
    Except Fault Measure := do
  let component := Scalar.clip (← divide (← divide value limit) 2)
  .ok ⟨component, if limit.less value then some ⟨modules, issue⟩ else none⟩

def captureMeasure (t : Thresholds) (rate : Number) : Measure where
  component := Scalar.clip (.real 1 - rate)
  finding :=
    if rate.less t.minCaptureSuccessRate then
      some ⟨[.enhancedCapture], "capture success rate " ++ rate.percent 0 ++ " below "
        ++ t.minCaptureSuccessRate.percent 0⟩
    else none

/-- The measures that are known. -/
def measures (t : Thresholds) (p : Performance) : Except Fault (List Measure) := do
  let capture := (p.captureSuccessRate.map (captureMeasure t)).toList
  let drop ← p.dropRate.toList.mapM fun v =>
    limitedMeasure v t.maxDropRate [.dynamicNavigation] ("session drop rate " ++ v.percent 0)
  let errors ← p.errorRate.toList.mapM fun v =>
    limitedMeasure v t.maxErrorRate [] ("error rate " ++ v.percent 0)
  let response ← p.averageResponseMs.toList.mapM fun v =>
    limitedMeasure v t.maxResponseMs [] ("average response " ++ v.fixed 0 ++ "ms")
  .ok (capture ++ drop ++ errors ++ response)

/-- The score of shape and measures together. -/
def combinedScore (t : Thresholds) (structural : Number) (ms : List Measure) : Number :=
  if ms.isEmpty then structural
  else
    let performance := Scalar.total (ms.map Measure.component) / .int ms.length
    (1 - t.performanceWeight) * structural + t.performanceWeight * performance

/-- Problems that were seen never leave a template at low risk. -/
def raiseRisk (problems : Bool) (risk : RiskLevel) : RiskLevel :=
  if problems && risk = .low then .medium else risk

/-- The verdict on a template. -/
def analyze (t : Thresholds) (graph : FlowGraph) (performance : Option Performance) :
    Except Fault Analysis := do
  let signals := measure graph
  let structural ← structuralScore t signals
  let ms ← match performance with
    | none => pure []
    | some p => measures t p
  let problems := ms.filterMap Measure.finding
  let findings := structuralFindings t signals ++ problems
  let score := Scalar.clip (combinedScore t structural ms)
  .ok {
    templateId := graph.id
    version := graph.version
    score := score
    risk := raiseRisk (!problems.isEmpty) (t.bounds.level score)
    modules := Capability.order.filter fun c => findings.any fun f => c ∈ f.modules
    signals := signals
    issues := findings.map Finding.issue }

def Analysis.document (a : Analysis) : Value :=
  .object [("template_id", .text a.templateId), ("version", .text a.version),
    ("score", .ofNumber (a.score.roundTo 4)), ("risk_level", .text a.risk.name),
    ("recommended_modules", .list ((Capability.sorted a.modules).map fun c => .text c.name)),
    ("signals", a.signals.document), ("issues", .list (a.issues.map .text))]

end Parley.Complexity
