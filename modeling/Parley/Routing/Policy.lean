import Parley.Capability
import Parley.Complexity.Analysis

/-!
# Parley.Routing.Policy — when the enhanced path is worth it

The policy weighs how hard a template is against how its conversations went of late, for any kind of
scalar.  `Policy.decide` says which path is taken, with what confidence, and why.
-/

namespace Parley.Routing

open Complexity (RiskLevel)

/-- How eagerly the enhanced path is taken. -/
inductive Strategy
  | conservative | balanced | aggressive
  deriving DecidableEq, Repr

def Strategy.name : Strategy → String
  | conservative => "conservative"
  | balanced => "balanced"
  | aggressive => "aggressive"

def Strategy.all : List Strategy := [conservative, balanced, aggressive]

def Strategy.ofName? (s : String) : Option Strategy := all.find? (·.name = s)

/-- What a strategy makes of a confidence threshold. -/
def Strategy.shift {α : Type} [Scalar α] (s : Strategy) (threshold : α) : α :=
  match s with
  | conservative => threshold + Scalar.hundredths 15
  | balanced => threshold + Scalar.low
  | aggressive => threshold - Scalar.hundredths 15

/-- What is known about a template: how hard it is, and what would help. -/
structure Assessment (α : Type) where
  score : α
  risk : RiskLevel
  modules : List Capability

/-- How conversations with a template went of late. -/
structure LiveRates (α : Type) where
  sampleSize : α
  captureSuccessRate : Option α
  errorRate : α
  enhancedFallbackRate : α
  enhancedSampleSize : α

/-- The weights and bounds of the policy. -/
structure Policy (α : Type) where
  confidenceThreshold : α
  strategy : Strategy
  scoreWeight : α
  captureWeight : α
  errorWeight : α
  lowRiskConfidence : α
  minLiveSamples : α
  maxEnhancedFallbackRate : α

/-- Why a path was taken. -/
inductive Cause (α : Type)
  | lowRisk
  /-- Too many messages fell back from the enhanced path of late. -/
  | suspended (rate : α)
  | weighed (risk : RiskLevel) (confidence threshold : α) (modules : Bool)

/-- A path, the confidence in it, and the cause. -/
structure Choice (α : Type) where
  path : Path
  confidence : α
  modules : List Capability
  cause : Cause α

namespace Policy

variable {α : Type} [Scalar α]

/-- The confidence that the enhanced path has to reach. -/
def threshold (p : Policy α) : α :=
  Scalar.smallest Scalar.high
    (Scalar.largest Scalar.low (p.strategy.shift p.confidenceThreshold))

/-- What the confidence weighs: the score, and recent rates once there are enough samples. -/
def terms (p : Policy α) (a : Assessment α) (live : Option (LiveRates α)) : List (α × α) :=
  (p.scoreWeight, a.score) ::
    match live with
    | none => []
    | some l =>
      if Scalar.atMost p.minLiveSamples l.sampleSize then
        (l.captureSuccessRate.map fun rate => (p.captureWeight, Scalar.high - rate)).toList
          ++ [(p.errorWeight, l.errorRate)]
      else []

/-- The confidence in the enhanced path. -/
def confidence (p : Policy α) (a : Assessment α) (live : Option (LiveRates α)) : α :=
  Scalar.weightedRate (p.terms a live)

/-- The rate of fallbacks of late, if it is known well enough and too high. -/
def suspension? (p : Policy α) (live : Option (LiveRates α)) : Option α :=
  match live with
  | none => none
  | some l =>
    if Scalar.atMost p.minLiveSamples l.enhancedSampleSize
        && Scalar.less p.maxEnhancedFallbackRate l.enhancedFallbackRate then
      some l.enhancedFallbackRate
    else none

/-- Weighs the confidence in the enhanced path against the threshold. -/
def weigh (p : Policy α) (a : Assessment α) (live : Option (LiveRates α)) : Choice α :=
  let confidence := p.confidence a live
  let cause := Cause.weighed a.risk confidence p.threshold (!a.modules.isEmpty)
  if Scalar.atMost p.threshold confidence && !a.modules.isEmpty then
    ⟨.enhanced, confidence, a.modules, cause⟩
  else ⟨.baseline, Scalar.high - confidence, [], cause⟩

/-- The path for a template. -/
def decide (p : Policy α) (a : Assessment α) (live : Option (LiveRates α)) : Choice α :=
  if a.risk = .low then ⟨.baseline, p.lowRiskConfidence, [], .lowRisk⟩
  else
    match p.suspension? live with
    | some rate => ⟨.baseline, Scalar.hundredths 90, [], .suspended rate⟩
    | none => p.weigh a live

end Policy

/-- What is said about a cause. -/
def Cause.reasons : Cause Number → List String
  | lowRisk => ["low risk template"]
  | suspended rate => ["enhanced fallback rate " ++ rate.percent 0]
  | weighed risk confidence threshold modules =>
    ["risk " ++ risk.name,
      "enhanced confidence " ++ confidence.fixed 2 ++ " vs threshold " ++ threshold.fixed 2]
    ++ (if modules then [] else ["no enhanced modules recommended"])

end Parley.Routing
