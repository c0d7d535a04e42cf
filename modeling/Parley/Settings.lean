import Parley.Record.Shape
import Parley.Record.Field
import Parley.Turn.Blueprint
import Parley.Unicode.Casing

/-!
# Parley.Settings — what can be set from outside

Each setting has a name, a default and a shape.  Values come from those who start the service, or
else from the environment, whose names carry a mark in front and do not mind case.  `Settings.load`
gives the settings or everything that is wrong with the values; `Settings.blueprint` tells how a
service is built by them.
-/

namespace Parley

open Record (Checked Flaw NamedField Shape)
open Routing (Strategy)

/-- The settings of a service. -/
structure Settings where
  -- service
  /-- The name by which the service reports itself. -/
  serviceName : String := "convoflow"
  host : String := "0.0.0.0"
  port : Int := 8090
  debug : Bool := false
  logLevel : String := "info"
  logJson : Bool := true
  -- enhanced path
  enhancedEnabled : Bool := true
  enhancedDisabledTenants : List String := []
  enhancedDisabledTemplates : List String := []
  forcedEnhancedTenants : List String := []
  forcedEnhancedTemplates : List String := []
  forcedBaselineTenants : List String := []
  forcedBaselineTemplates : List String := []
  enhancedRolloutPercentage : Number := .real 100
  -- router
  routerConfidenceThreshold : Number := .real 0.6
  routerStrategy : Strategy := .balanced
  routerCacheTtlSeconds : Number := .real 60
  routerCacheMaxEntries : Int := 10000
  routerMinLiveSamples : Int := 20
  routerMaxEnhancedFallbackRate : Number := .real 0.5
  -- analysis
  analyzerMediumRisk : Number := .real 0.25
  analyzerHighRisk : Number := .real 0.5
  analyzerCriticalRisk : Number := .real 0.75
  analyzerSequentialInputs : Int := 3
  analyzerMinCaptureSuccessRate : Number := .real 0.8
  -- metrics
  metricsWindowSeconds : Number := .real 3600
  metricsMaxEventsPerTenant : Int := 10000
  metricsMinSamples : Int := 20
  -- engines
  interpreterMaxChainSteps : Int := 100
  enhancedModuleTimeoutSeconds : Number := .real 2
  enhancedStepTimeoutSeconds : Number := .real 5
  -- store
  /-- A remote store is used if this is `redis`. -/
  stateBackend : String := "memory"
  redisUrl : String := "redis://localhost:6379/0"
  stateTtlSeconds : Int := 86400
  storeRetryAttempts : Int := 3
  storeRetryBaseDelay : Number := .real 0.05
  casMaxRetries : Int := 3
  sessionLockTimeoutSeconds : Number := .real 10
  -- collaborators
  leadServiceUrl : Option String := none
  leadServiceApiKey : Option String := none
  captureServiceUrl : Option String := none

namespace Settings

def textsShape : Shape (List String) := .listOf .text
def strategyShape : Shape Strategy := .memberOf Strategy.name Strategy.ofName?

def setting {α : Type} (name : String) (shape : Shape α) (get : Settings → α)
    (set : Settings → α → Settings) : NamedField (List Flaw) Settings where
  name := name
  read s := shape.write (get s)
  write v s :=
    match (shape.read v).under (.text name) with
    | .sound a => .ok (set s a)
    | .flawed flaws => .error flaws

/-- All settings. -/
def all : List (NamedField (List Flaw) Settings) := [
  setting "service_name" Shape.text (·.serviceName) fun s x => { s with serviceName := x },
  setting "host" Shape.text (·.host) fun s x => { s with host := x },
  setting "port" Shape.integer (·.port) fun s x => { s with port := x },
  setting "debug" Shape.flag (·.debug) fun s x => { s with debug := x },
  setting "log_level" Shape.text (·.logLevel) fun s x => { s with logLevel := x },
  setting "log_json" Shape.flag (·.logJson) fun s x => { s with logJson := x },
  setting "enhanced_enabled" Shape.flag (·.enhancedEnabled)
    fun s x => { s with enhancedEnabled := x },
  setting "enhanced_disabled_tenants" textsShape (·.enhancedDisabledTenants)
    fun s x => { s with enhancedDisabledTenants := x },
  setting "enhanced_disabled_templates" textsShape (·.enhancedDisabledTemplates)
    fun s x => { s with enhancedDisabledTemplates := x },
  setting "forced_enhanced_tenants" textsShape (·.forcedEnhancedTenants)
    fun s x => { s with forcedEnhancedTenants := x },
  setting "forced_enhanced_templates" textsShape (·.forcedEnhancedTemplates)
    fun s x => { s with forcedEnhancedTemplates := x },
  setting "forced_baseline_tenants" textsShape (·.forcedBaselineTenants)
    fun s x => { s with forcedBaselineTenants := x },
  setting "forced_baseline_templates" textsShape (·.forcedBaselineTemplates)
    fun s x => { s with forcedBaselineTemplates := x },
  setting "enhanced_rollout_percentage" Shape.number (·.enhancedRolloutPercentage)
    fun s x => { s with enhancedRolloutPercentage := x },
  setting "router_confidence_threshold" Shape.number (·.routerConfidenceThreshold)
    fun s x => { s with routerConfidenceThreshold := x },
  setting "router_strategy" strategyShape (·.routerStrategy)
    fun s x => { s with routerStrategy := x },
  setting "router_cache_ttl_seconds" Shape.number (·.routerCacheTtlSeconds)
    fun s x => { s with routerCacheTtlSeconds := x },
  setting "router_cache_max_entries" Shape.integer (·.routerCacheMaxEntries)
    fun s x => { s with routerCacheMaxEntries := x },
  setting "router_min_live_samples" Shape.integer (·.routerMinLiveSamples)
    fun s x => { s with routerMinLiveSamples := x },
  setting "router_max_enhanced_fallback_rate" Shape.number (·.routerMaxEnhancedFallbackRate)
    fun s x => { s with routerMaxEnhancedFallbackRate := x },
  setting "analyzer_medium_risk" Shape.number (·.analyzerMediumRisk)
    fun s x => { s with analyzerMediumRisk := x },
  setting "analyzer_high_risk" Shape.number (·.analyzerHighRisk)
    fun s x => { s with analyzerHighRisk := x },
  setting "analyzer_critical_risk" Shape.number (·.analyzerCriticalRisk)
    fun s x => { s with analyzerCriticalRisk := x },
  setting "analyzer_sequential_inputs" Shape.integer (·.analyzerSequentialInputs)
    fun s x => { s with analyzerSequentialInputs := x },
  setting "analyzer_min_capture_success_rate" Shape.number (·.analyzerMinCaptureSuccessRate)
    fun s x => { s with analyzerMinCaptureSuccessRate := x },
  setting "metrics_window_seconds" Shape.number (·.metricsWindowSeconds)
    fun s x => { s with metricsWindowSeconds := x },
  setting "metrics_max_events_per_tenant" Shape.integer (·.metricsMaxEventsPerTenant)
    fun s x => { s with metricsMaxEventsPerTenant := x },
  setting "metrics_min_samples" Shape.integer (·.metricsMinSamples)
    fun s x => { s with metricsMinSamples := x },
  setting "interpreter_max_chain_steps" Shape.integer (·.interpreterMaxChainSteps)
    fun s x => { s with interpreterMaxChainSteps := x },
  setting "enhanced_module_timeout_seconds" Shape.number (·.enhancedModuleTimeoutSeconds)
    fun s x => { s with enhancedModuleTimeoutSeconds := x },
  setting "enhanced_step_timeout_seconds" Shape.number (·.enhancedStepTimeoutSeconds)
    fun s x => { s with enhancedStepTimeoutSeconds := x },
  setting "state_backend" Shape.text (·.stateBackend) fun s x => { s with stateBackend := x },
  setting "redis_url" Shape.text (·.redisUrl) fun s x => { s with redisUrl := x },
  setting "state_ttl_seconds" Shape.integer (·.stateTtlSeconds)
    fun s x => { s with stateTtlSeconds := x },
  setting "store_retry_attempts" Shape.integer (·.storeRetryAttempts)
    fun s x => { s with storeRetryAttempts := x },
  setting "store_retry_base_delay" Shape.number (·.storeRetryBaseDelay)
    fun s x => { s with storeRetryBaseDelay := x },
  setting "cas_max_retries" Shape.integer (·.casMaxRetries)
    fun s x => { s with casMaxRetries := x },
  setting "session_lock_timeout_seconds" Shape.number (·.sessionLockTimeoutSeconds)
    fun s x => { s with sessionLockTimeoutSeconds := x },
  setting "lead_service_url" Shape.textOrNone (·.leadServiceUrl)
    fun s x => { s with leadServiceUrl := x },
  setting "lead_service_api_key" Shape.textOrNone (·.leadServiceApiKey)
    fun s x => { s with leadServiceApiKey := x },
  setting "capture_service_url" Shape.textOrNone (·.captureServiceUrl)
    fun s x => { s with captureServiceUrl := x }]

/-- The settings that are lists; the environment gives them as documents. -/
def lists : List String := [
  "enhanced_disabled_tenants", "enhanced_disabled_templates", "forced_enhanced_tenants",
  "forced_enhanced_templates", "forced_baseline_tenants", "forced_baseline_templates"]

def document (s : Settings) : Value := Record.document all s

/-! ### Where values come from -/

/-- Why there are no settings. -/
inductive Refusal
  | flawed (flaws : List Flaw)
  /-- The environment has text that is no document where one is needed. -/
  | unreadable

def Refusal.document : Refusal → Fields Value
  | flawed flaws =>
    [("error", .text "ValidationError"), ("fields", .list (flaws.map Flaw.document))]
  | unreadable => [("error", .text "SettingsError")]

/-- What stands before the names of settings in the environment. -/
def mark : String := "convoflow_"

/-- The last entry of the environment with a name, whatever its case. -/
def entry? (environment : Fields String) (name : String) : Option String :=
  (environment.reverse.find? fun (key, _) => Unicode.lowercase key = mark ++ name).map (·.2)

/-- The value that the environment has for a setting; for a list, null is no value. -/
def fromEnvironment (environment : Fields String) (name : String) :
    Except Refusal (Option Value) :=
  match entry? environment name with
  | none => .ok none
  | some text =>
    if lists.contains name then
      match Document.read text with
      | .ok .null => .ok none
      | .ok v => .ok (some v)
      | .error _ => .error .unreadable
    else .ok (some (.text text))

/-- The value for each setting; one that is given goes before the environment. -/
def sources (environment : Fields String) (given : Fields Value) :
    List (NamedField (List Flaw) Settings) → Except Refusal (Fields Value)
  | [] => .ok []
  | field :: more => do
    let outer ← fromEnvironment environment field.name
    let rest ← sources environment given more
    match (given.get? field.name).or outer with
    | some v => .ok ((field.name, v) :: rest)
    | none => .ok rest

/-- Takes one value over, or adds its flaws. -/
def takeOver (values : Fields Value) (done : Settings × List Flaw)
    (field : NamedField (List Flaw) Settings) : Settings × List Flaw :=
  match values.get? field.name with
  | none => done
  | some v =>
    match field.write v done.1 with
    | .ok s => (s, done.2)
    | .error flaws => (done.1, done.2 ++ flaws)

/-- The settings for some values. -/
def ofValues (values : Fields Value) : Checked Settings :=
  let (settings, flaws) := all.foldl (takeOver values) ({}, [])
  if flaws.isEmpty then .sound settings else .flawed flaws

/-- The settings that an environment and the given values make. -/
def load (environment : Fields String) (given : Fields Value) : Except Refusal Settings := do
  match ofValues (← sources environment given all) with
  | .sound s => .ok s
  | .flawed flaws => .error (.flawed flaws)

/-! ### The service that they make -/

def routerConfig (s : Settings) : Routing.RouterConfig where
  enhancedEnabled := s.enhancedEnabled
  disabledTenants := s.enhancedDisabledTenants
  disabledTemplates := s.enhancedDisabledTemplates
  forcedEnhancedTenants := s.forcedEnhancedTenants
  forcedEnhancedTemplates := s.forcedEnhancedTemplates
  forcedBaselineTenants := s.forcedBaselineTenants
  forcedBaselineTemplates := s.forcedBaselineTemplates
  rolloutPercentage := s.enhancedRolloutPercentage
  policy := { Routing.Policy.default with
    confidenceThreshold := s.routerConfidenceThreshold
    strategy := s.routerStrategy
    minLiveSamples := .int s.routerMinLiveSamples
    maxEnhancedFallbackRate := s.routerMaxEnhancedFallbackRate }
  cacheTtlSeconds := s.routerCacheTtlSeconds
  cacheMaxEntries := s.routerCacheMaxEntries
  fallbackTimeoutSeconds := s.enhancedStepTimeoutSeconds

def thresholds (s : Settings) : Complexity.Thresholds :=
  { Complexity.Thresholds.default with
    mediumRisk := s.analyzerMediumRisk
    highRisk := s.analyzerHighRisk
    criticalRisk := s.analyzerCriticalRisk
    sequentialInputs := .int s.analyzerSequentialInputs
    minCaptureSuccessRate := s.analyzerMinCaptureSuccessRate }

def collectorConfig (s : Settings) : Outcomes.CollectorConfig :=
  { Outcomes.CollectorConfig.default with
    windowSeconds := s.metricsWindowSeconds
    maxEventsPerTenant := s.metricsMaxEventsPerTenant
    minSamples := .int s.metricsMinSamples }

def retryConfig (s : Settings) : Recovery.RetryConfig :=
  { Recovery.RetryConfig.default with
    maxAttempts := s.storeRetryAttempts
    baseDelay := s.storeRetryBaseDelay }

def fallbackConfig (s : Settings) : Recovery.FallbackConfig :=
  { Recovery.FallbackConfig.default with
    enhancedTimeoutSeconds := s.enhancedStepTimeoutSeconds }

/-- A text that is not empty. -/
def nonempty (s : Option String) : Option String := s.filter (!·.isEmpty)

def storeKind (s : Settings) : Turn.StoreKind :=
  if s.stateBackend = "redis" then .remote s.redisUrl (some s.stateTtlSeconds) else .memory

/-- How a service with these settings is built. -/
def blueprint (s : Settings) : Turn.Blueprint where
  router := s.routerConfig
  thresholds := s.thresholds
  metrics := s.collectorConfig
  retry := s.retryConfig
  interpreter := ⟨s.interpreterMaxChainSteps⟩
  fallback := s.fallbackConfig
  moduleTimeout := s.enhancedModuleTimeoutSeconds
  lockSpan := s.sessionLockTimeoutSeconds
  attempts := s.casMaxRetries
  store := s.storeKind
  leads := (nonempty s.leadServiceUrl).map fun url =>
    ⟨Http.trimUrl url, nonempty s.leadServiceApiKey⟩
  captureUrl := (nonempty s.captureServiceUrl).map Http.trimUrl

end Settings

end Parley
