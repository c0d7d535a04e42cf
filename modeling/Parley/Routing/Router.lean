import Parley.Digest.Md5
import Parley.Routing.Cache
import Parley.Routing.Policy
import Parley.Template.Graph
import Parley.Time.Clock
import Parley.Value.Display

/-!
# Parley.Routing.Router — the path of each message

Switches come first, then a decision by the policy, which is kept for some time for each template
and tenant, and last the rollout, which depends on the user.
-/

namespace Parley.Routing

open Template (FlowGraph)
open Time (Clock Moment Seconds)

/-! Each user has a fixed place between zero and one hundred, in steps of a hundredth, and takes part
in a rollout to a percentage above that place. -/

/-- The place of a user in hundredths. -/
def rolloutPlace (tenant user : Value) : Nat :=
  Digest.Md5.number (tenant.display ++ ":" ++ user.display) % 10000

theorem rolloutPlace_lt (tenant user : Value) : rolloutPlace tenant user < 10000 :=
  Nat.mod_lt _ (by decide)

/-- The place of a user as a percentage. -/
def rolloutBucket (tenant user : Value) : Number :=
  .real (Number.quotient (.int (rolloutPlace tenant user)) (.real 100))

/-- Switches, rollout, policy and the keeping of decisions. -/
structure RouterConfig where
  enhancedEnabled : Bool
  disabledTenants : List String
  disabledTemplates : List String
  forcedEnhancedTenants : List String
  forcedEnhancedTemplates : List String
  forcedBaselineTenants : List String
  forcedBaselineTemplates : List String
  rolloutPercentage : Number
  policy : Policy Number
  cacheTtlSeconds : Number
  cacheMaxEntries : Int
  fallbackTimeoutSeconds : Number

def Policy.default : Policy Number where
  confidenceThreshold := .real 0.6
  strategy := .balanced
  scoreWeight := .real 0.6
  captureWeight := .real 0.25
  errorWeight := .real 0.15
  lowRiskConfidence := .real 0.95
  minLiveSamples := 20
  maxEnhancedFallbackRate := .real 0.5

def RouterConfig.default : RouterConfig where
  enhancedEnabled := true
  disabledTenants := []
  disabledTemplates := []
  forcedEnhancedTenants := []
  forcedEnhancedTemplates := []
  forcedBaselineTenants := []
  forcedBaselineTemplates := []
  rolloutPercentage := .real 100
  policy := Policy.default
  cacheTtlSeconds := .real 60
  cacheMaxEntries := 10000
  fallbackTimeoutSeconds := .real 5

/-- Who a message comes from, and the template of the conversation. -/
structure RoutingContext where
  tenantId : String
  userId : String
  sessionId : String
  templateId : String
  deriving DecidableEq, Repr

/-- The path of one message. -/
structure Decision where
  path : Path
  confidence : Number
  modules : List Capability
  timeoutSeconds : Number
  reasons : List String
  templateId : String
  templateVersion : String
  decidedAt : Moment
  cached : Bool
  deriving DecidableEq

def Decision.document (d : Decision) : Value :=
  .object [("engine", .text d.path.name), ("confidence", .ofNumber (d.confidence.roundTo 4)),
    ("recommended_modules", .list ((Capability.sorted d.modules).map fun c => .text c.name)),
    ("fallback_strategy", .object [("name", .text "revert_to_baseline_preserve_state"),
      ("revert_to", .text Path.baseline.name), ("preserve_state", .bool true),
      ("timeout_seconds", .ofNumber d.timeoutSeconds)]),
    ("reasons", .list (d.reasons.map .text)), ("template_id", .text d.templateId),
    ("template_version", .text d.templateVersion), ("decided_at", .text d.decidedAt.iso),
    ("cached", .bool d.cached)]

/-- How many decisions were made, and how. -/
structure RouterStats where
  decisions : Nat
  cacheHits : Nat
  enhanced : Nat
  baseline : Nat
  deriving DecidableEq, Repr

/-- Template and tenant. -/
abbrev CacheKey := String × String

/-- The decisions kept, and the statistics. -/
structure Router where
  config : RouterConfig
  cache : Cache CacheKey Decision
  stats : RouterStats

namespace Router

def new (config : RouterConfig) : Router := ⟨config, [], ⟨0, 0, 0, 0⟩⟩

/-- What a call of the router is about. -/
structure Call where
  graph : FlowGraph
  context : RoutingContext
  clock : Clock

def Call.key (c : Call) : CacheKey := (c.context.templateId, c.context.tenantId)

/-- A fresh decision about a call. -/
def decision (config : RouterConfig) (c : Call) (path : Path) (confidence : Number)
    (modules : List Capability) (reasons : List String) : Decision where
  path := path
  confidence := confidence
  modules := modules
  timeoutSeconds := config.fallbackTimeoutSeconds
  reasons := reasons
  templateId := c.graph.id
  templateVersion := c.graph.version
  decidedAt := c.clock.now
  cached := false

/-- The reason why the enhanced path is switched off for a call, if it is. -/
def switchedOff? (config : RouterConfig) (x : RoutingContext) : Option String :=
  if !config.enhancedEnabled then some "enhanced path disabled globally"
  else if config.disabledTenants.contains x.tenantId then some "enhanced path disabled for tenant"
  else if config.disabledTemplates.contains x.templateId then
    some "enhanced path disabled for template"
  else if config.forcedBaselineTemplates.contains x.templateId then
    some "template forced to baseline"
  else if config.forcedBaselineTenants.contains x.tenantId then some "tenant forced to baseline"
  else none

def isForced (config : RouterConfig) (x : RoutingContext) : Bool :=
  config.forcedEnhancedTemplates.contains x.templateId
    || config.forcedEnhancedTenants.contains x.tenantId

/-- The decision that the switches settle, if they do. -/
def gate (config : RouterConfig) (c : Call) : Option Decision :=
  match switchedOff? config c.context with
  | some reason => some (decision config c .baseline (.real 1) [] [reason])
  | none =>
    if isForced config c.context then
      some (decision config c .enhanced (.real 1) Capability.all
        ["enhanced path forced by override"])
    else none

/-- The decision of the policy. -/
def decide (config : RouterConfig) (c : Call) (a : Assessment Number)
    (live : Option (LiveRates Number)) : Decision :=
  let choice := config.policy.decide a live
  decision config c choice.path choice.confidence choice.modules choice.cause.reasons

/-- Whether a user takes part in the rollout. -/
def inRollout (config : RouterConfig) (x : RoutingContext) : Bool :=
  (Number.atMost 100 config.rolloutPercentage)
    || (rolloutBucket (.text x.tenantId) (.text x.userId)).less config.rolloutPercentage

/-- The decision for one user: outside the rollout there is no enhanced path. -/
def applyRollout (config : RouterConfig) (c : Call) (d : Decision) : Decision :=
  if d.path = .baseline || inRollout config c.context then d
  else
    { d with
      path := .baseline
      confidence := .real 1
      modules := []
      reasons := d.reasons ++ ["user outside " ++ config.rolloutPercentage.fixed 0 ++ "% rollout"]
      decidedAt := c.clock.now }

/-- Counts a decision. -/
def record (r : Router) (d : Decision) : Router :=
  let s := r.stats
  let s := { s with decisions := s.decisions + 1 }
  { r with
    stats := match d.path with
      | .enhanced => { s with enhanced := s.enhanced + 1 }
      | .baseline => { s with baseline := s.baseline + 1 } }

def countHit (r : Router) : Router :=
  { r with stats := { r.stats with cacheHits := r.stats.cacheHits + 1 } }

/-- Keeps a decision for the next calls for its template and tenant. -/
def keep (r : Router) (c : Call) (d : Decision) : Router :=
  let now := c.clock.reading
  let entry : CacheEntry Decision :=
    ⟨c.graph.version, (Seconds.ofNumber? r.config.cacheTtlSeconds).map (now + ·), d⟩
  { r with cache := r.cache.store r.config.cacheMaxEntries now c.key entry }

/-- The decision kept for a call, if there is one and it is current. -/
def kept? (r : Router) (c : Call) : Option Decision :=
  (r.cache.lookup? c.key c.graph.version c.clock.reading).map fun d => { d with cached := true }

/-- The path of a message.  The assessment is used only if nothing else settles it. -/
def route (r : Router) (c : Call) (a : Assessment Number) (live : Option (LiveRates Number)) :
    Decision × Router :=
  match gate r.config c with
  | some d => (d, r.record d)
  | none =>
    match r.kept? c with
    | some d =>
      let d := applyRollout r.config c d
      (d, r.countHit.record d)
    | none =>
      let fresh := decide r.config c a live
      let d := applyRollout r.config c fresh
      (d, (r.keep c fresh).record d)

/-- The path of a message as far as switches or a kept decision settle it: any decision that is not
outdated. -/
def lookup (r : Router) (c : Call) : Option Decision × Router :=
  match gate r.config c with
  | some d => (some d, r.record d)
  | none =>
    match r.cache.get? c.key with
    | some entry =>
      if Cache.isOutdated entry c.graph.version c.clock.reading then (none, r)
      else
        let d := applyRollout r.config c { entry.value with cached := true }
        (some d, r.countHit.record d)
    | none => (none, r)

/-- Whether a key is for a template and a tenant, where they are given. -/
def concerns (templateId tenantId : Option String) (key : CacheKey) : Bool :=
  (match templateId with
    | some id => key.1 = id
    | none => true)
  && match tenantId with
    | some id => key.2 = id
    | none => true

/-- Drops decisions kept for a template, a tenant, or both, and tells how many. -/
def invalidate (r : Router) (templateId tenantId : Option String) : Nat × Router :=
  let (removed, cache) := Cache.invalidate r.cache (concerns templateId tenantId)
  (removed, { r with cache := cache })

def statsDocument (r : Router) : Value :=
  .object [("decisions", .int r.stats.decisions), ("cache_hits", .int r.stats.cacheHits),
    ("enhanced", .int r.stats.enhanced), ("baseline", .int r.stats.baseline),
    ("cached_decisions", .int r.cache.length)]

end Router

end Parley.Routing
