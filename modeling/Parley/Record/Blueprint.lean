import Parley.Complexity.Analysis
import Parley.Enhanced.Capture
import Parley.Enhanced.Navigation
import Parley.Outcomes.Collector
import Parley.Record.Field
import Parley.Recovery.Fallback
import Parley.Routing.Router
import Parley.Turn.Blueprint
import Parley.Value.Display

/-!
# Parley.Record.Blueprint — the fields of configurations, of a blueprint and of planned outages

Each configuration is a list of its fields by name, with which it is read from a document and written
as one.  A blueprint has configurations in its fields.
-/

namespace Parley.Record

/-! ### The router -/

section Routing

open Routing (RouterConfig Strategy Policy)

/-- A strategy by its name. -/
def strategyField : NamedField Fault RouterConfig where
  name := "strategy"
  read c := .text c.policy.strategy.name
  write v c :=
    match v.text?.bind Strategy.ofName? with
    | some s => .ok { c with policy := { c.policy with strategy := s } }
    | none => .error (.notAMember v.quoted "RoutingStrategy")

def weightField (name : String) (get : Policy Number → Number)
    (set : Policy Number → Number → Policy Number) : NamedField Fault RouterConfig :=
  numberField name (fun c => get c.policy) fun c n => { c with policy := set c.policy n }

def routerFields : List (NamedField Fault RouterConfig) := [
  flagField "enhanced_enabled" (·.enhancedEnabled) fun c b => { c with enhancedEnabled := b },
  textsField "disabled_tenants" (·.disabledTenants) fun c s => { c with disabledTenants := s },
  textsField "disabled_templates" (·.disabledTemplates)
    fun c s => { c with disabledTemplates := s },
  textsField "forced_enhanced_tenants" (·.forcedEnhancedTenants)
    fun c s => { c with forcedEnhancedTenants := s },
  textsField "forced_enhanced_templates" (·.forcedEnhancedTemplates)
    fun c s => { c with forcedEnhancedTemplates := s },
  textsField "forced_baseline_tenants" (·.forcedBaselineTenants)
    fun c s => { c with forcedBaselineTenants := s },
  textsField "forced_baseline_templates" (·.forcedBaselineTemplates)
    fun c s => { c with forcedBaselineTemplates := s },
  numberField "rollout_percentage" (·.rolloutPercentage)
    fun c n => { c with rolloutPercentage := n },
  weightField "confidence_threshold" (·.confidenceThreshold)
    fun p n => { p with confidenceThreshold := n },
  strategyField,
  weightField "score_weight" (·.scoreWeight) fun p n => { p with scoreWeight := n },
  weightField "capture_weight" (·.captureWeight) fun p n => { p with captureWeight := n },
  weightField "error_weight" (·.errorWeight) fun p n => { p with errorWeight := n },
  weightField "low_risk_confidence" (·.lowRiskConfidence)
    fun p n => { p with lowRiskConfidence := n },
  weightField "min_live_samples" (·.minLiveSamples) fun p n => { p with minLiveSamples := n },
  weightField "max_enhanced_fallback_rate" (·.maxEnhancedFallbackRate)
    fun p n => { p with maxEnhancedFallbackRate := n },
  numberField "cache_ttl_seconds" (·.cacheTtlSeconds) fun c n => { c with cacheTtlSeconds := n },
  intField "cache_max_entries" (·.cacheMaxEntries) fun c i => { c with cacheMaxEntries := i },
  numberField "fallback_timeout_seconds" (·.fallbackTimeoutSeconds)
    fun c n => { c with fallbackTimeoutSeconds := n }]

end Routing

/-! ### The analysis -/

section Complexity

open Complexity (Thresholds)

def thresholdFields : List (NamedField Fault Thresholds) := [
  numberField "medium_risk" (·.mediumRisk) fun t n => { t with mediumRisk := n },
  numberField "high_risk" (·.highRisk) fun t n => { t with highRisk := n },
  numberField "critical_risk" (·.criticalRisk) fun t n => { t with criticalRisk := n },
  numberField "max_nodes" (·.maxNodes) fun t n => { t with maxNodes := n },
  numberField "max_input_fraction" (·.maxInputFraction) fun t n => { t with maxInputFraction := n },
  numberField "max_branching" (·.maxBranching) fun t n => { t with maxBranching := n },
  numberField "max_chain_length" (·.maxChainLength) fun t n => { t with maxChainLength := n },
  numberField "sequential_inputs" (·.sequentialInputs) fun t n => { t with sequentialInputs := n },
  numberField "branching_factor" (·.branchingFactor) fun t n => { t with branchingFactor := n },
  numberField "chain_length" (·.chainLength) fun t n => { t with chainLength := n },
  numberField "min_capture_success_rate" (·.minCaptureSuccessRate)
    fun t n => { t with minCaptureSuccessRate := n },
  numberField "max_drop_rate" (·.maxDropRate) fun t n => { t with maxDropRate := n },
  numberField "max_error_rate" (·.maxErrorRate) fun t n => { t with maxErrorRate := n },
  numberField "max_response_ms" (·.maxResponseMs) fun t n => { t with maxResponseMs := n },
  numberField "performance_weight" (·.performanceWeight)
    fun t n => { t with performanceWeight := n }]

end Complexity

/-! ### The collector -/

section Outcomes

open Outcomes (CollectorConfig)

def collectorFields : List (NamedField Fault CollectorConfig) := [
  numberField "window_seconds" (·.windowSeconds) fun c n => { c with windowSeconds := n },
  intField "max_events_per_tenant" (·.maxEventsPerTenant)
    fun c i => { c with maxEventsPerTenant := i },
  intField "max_fallback_events_per_tenant" (·.maxFallbackEventsPerTenant)
    fun c i => { c with maxFallbackEventsPerTenant := i },
  numberField "min_samples" (·.minSamples) fun c n => { c with minSamples := n }]

/-- The figures of a template's conversations of late. -/
def liveFields : List (NamedField Fault (Routing.LiveRates Number)) := [
  numberField "sample_size" (·.sampleSize) fun l n => { l with sampleSize := n },
  numberOrNoneField "capture_success_rate" (·.captureSuccessRate)
    fun l n => { l with captureSuccessRate := n },
  numberField "error_rate" (·.errorRate) fun l n => { l with errorRate := n },
  numberField "enhanced_fallback_rate" (·.enhancedFallbackRate)
    fun l n => { l with enhancedFallbackRate := n },
  numberField "enhanced_sample_size" (·.enhancedSampleSize)
    fun l n => { l with enhancedSampleSize := n }]

def noLiveRates : Routing.LiveRates Number := ⟨0, none, .real 0, .real 0, 0⟩

/-- The figures that an analysis takes into account. -/
def performanceFields : List (NamedField Fault Complexity.Performance) := [
  numberOrNoneField "capture_success_rate" (·.captureSuccessRate)
    fun p n => { p with captureSuccessRate := n },
  numberOrNoneField "drop_rate" (·.dropRate) fun p n => { p with dropRate := n },
  numberOrNoneField "error_rate" (·.errorRate) fun p n => { p with errorRate := n },
  numberOrNoneField "average_response_ms" (·.averageResponseMs)
    fun p n => { p with averageResponseMs := n },
  numberField "sample_size" (·.sampleSize) fun p n => { p with sampleSize := n }]

def noPerformance : Complexity.Performance := ⟨none, none, none, none, 0⟩

end Outcomes

/-! ### Interpreter and modules -/

section Engines

open Conversation (Interpreter)
open Enhanced (CaptureConfig NavigationConfig)

def interpreterFields : List (NamedField Fault Interpreter) := [
  intField "max_chain_steps" (·.maxChainSteps) fun c i => { c with maxChainSteps := i }]

def captureFields : List (NamedField Fault CaptureConfig) := [
  numberField "max_attempts" (·.maxAttempts) fun c n => { c with maxAttempts := n },
  textField "attempts_key" (·.attemptsKey) fun c s => { c with attemptsKey := s },
  tableField "messages" (·.messages) fun c t => { c with messages := t }]

def navigationFields : List (NamedField Fault NavigationConfig) := [
  tableField "keywords" (·.keywords) fun c t => { c with keywords := t },
  intField "loop_window" (·.loopWindow) fun c i => { c with loopWindow := i },
  numberField "max_visits_in_window" (·.maxVisitsInWindow)
    fun c n => { c with maxVisitsInWindow := n }]

end Engines

/-! ### Recovery -/

section Recovery

open Recovery (RetryConfig FallbackConfig FallbackOptions)

def retryFields : List (NamedField Fault RetryConfig) := [
  intField "max_attempts" (·.maxAttempts) fun c i => { c with maxAttempts := i },
  numberField "base_delay" (·.baseDelay) fun c n => { c with baseDelay := n },
  numberField "max_delay" (·.maxDelay) fun c n => { c with maxDelay := n },
  numberField "exponential_base" (·.exponentialBase) fun c n => { c with exponentialBase := n },
  numberField "jitter" (·.jitter) fun c n => { c with jitter := n }]

def fallbackFields : List (NamedField Fault FallbackConfig) := [
  numberField "enhanced_timeout_seconds" (·.enhancedTimeoutSeconds)
    fun c n => { c with enhancedTimeoutSeconds := n },
  intField "history_size" (·.historySize) fun c i => { c with historySize := i },
  flagField "verify_with_store" (·.verifyWithStore) fun c b => { c with verifyWithStore := b }]

def fallbackOptions : List (NamedField Fault FallbackOptions) := [
  flagField "verify_preserved_state" (·.verifyState) fun c b => { c with verifyState := b },
  flagField "verify_lead_stage" (·.verifyStages) fun c b => { c with verifyStages := b }]

end Recovery

/-! ### Blueprints and outages -/

open Storage (Outage)
open Turn (Blueprint)

/-- A record in a field.  Its own fields are replaced one by one. -/
def recordField {ε γ δ : Type} (name : String) (fields : List (NamedField ε δ)) (get : γ → δ)
    (set : γ → δ → γ) : NamedField ε γ where
  name := name
  read c := document fields (get c)
  write v c :=
    match v with
    | .object values => (overlay fields values (get c)).map (set c)
    | _ => .ok c

def blueprintFields : List (NamedField Fault Blueprint) := [
  recordField "router" routerFields (·.router) fun b c => { b with router := c },
  recordField "thresholds" thresholdFields (·.thresholds) fun b c => { b with thresholds := c },
  recordField "metrics" collectorFields (·.metrics) fun b c => { b with metrics := c },
  recordField "retry" retryFields (·.retry) fun b c => { b with retry := c },
  recordField "interpreter" interpreterFields (·.interpreter)
    fun b c => { b with interpreter := c },
  recordField "config" fallbackFields (·.fallback) fun b c => { b with fallback := c },
  numberOrNoneField "timeout" (·.limit) fun b n => { b with limit := n },
  intField "cas_max_retries" (·.attempts) fun b i => { b with attempts := i }]

def countField (name : String) (get : Outage → Nat) (set : Outage → Nat → Outage) :
    NamedField Fault Outage :=
  fieldOf name (fun n : Nat => .int n) (fun v => (int? v).map (·.toNat)) get set

def outageFields : List (NamedField Fault Outage) := [
  countField "load" (·.load) fun o n => { o with load := n },
  countField "save" (·.save) fun o n => { o with save := n },
  countField "delete" (·.delete) fun o n => { o with delete := n },
  countField "conflict" (·.conflict) fun o n => { o with conflict := n }]

end Parley.Record
