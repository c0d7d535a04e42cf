import Parley.Complexity.Analysis
import Parley.Outcomes.Aggregate
import Parley.Outcomes.Window
import Parley.Recovery.Event
import Parley.Routing.Policy

/-!
# Parley.Outcomes.Collector — the outcomes of each tenant

A collector keeps the outcomes and the recoveries of each tenant in a window of time, and answers
questions about them.  Recording never fails: what cannot be recorded is counted as dropped.
-/

namespace Parley.Outcomes

open Recovery (FallbackEvent)
open Time (Moment)

/-- The window, and how many samples make a performance known. -/
structure CollectorConfig where
  windowSeconds : Number
  maxEventsPerTenant : Int
  maxFallbackEventsPerTenant : Int
  minSamples : Number

def CollectorConfig.default : CollectorConfig := ⟨.real 3600, 10000, 1000, 20⟩

/-- Outcomes and recoveries by tenant, and how many could not be recorded. -/
structure Collector where
  config : CollectorConfig
  outcomes : Fields (List (Stamped Outcome))
  fallbacks : Fields (List (Stamped FallbackEvent))
  dropped : Nat

/-- Which outcomes a question is about. -/
structure Filter where
  path : Option Path
  start : Option Moment
  finish : Option Moment
  templateId : Option String
  routed : Option Path

def Filter.everything : Filter := ⟨none, none, none, none, none⟩

/-- The outcome is of the paths and the template that are asked for. -/
def Filter.fits (f : Filter) (o : Outcome) : Bool :=
  f.path.all (· = o.path) && f.templateId.all (fun id => id.isEmpty || id = o.templateId)
    && f.routed.all (· = o.routed)

namespace Collector

def new (config : CollectorConfig) : Collector := ⟨config, [], [], 0⟩

def countDropped (c : Collector) (recorded : Bool) : Nat :=
  if recorded then c.dropped else c.dropped + 1

/-- Records the outcome of a message at a moment, which may be missing. -/
def recordOutcome (c : Collector) (o : Outcome) (moment : Option Moment) : Collector :=
  let size : WindowSize := ⟨c.config.windowSeconds, c.config.maxEventsPerTenant⟩
  let (recorded, events) := record size ((c.outcomes.get? o.tenantId).getD []) moment o
  { c with outcomes := c.outcomes.put o.tenantId events, dropped := c.countDropped recorded }

/-- Records a recovery at a moment, which may be missing. -/
def recordFallback (c : Collector) (e : FallbackEvent) (moment : Option Moment) : Collector :=
  let size : WindowSize := ⟨c.config.windowSeconds, c.config.maxFallbackEventsPerTenant⟩
  let tenant := e.tenantId.display
  let (recorded, events) := record size ((c.fallbacks.get? tenant).getD []) moment e
  { c with fallbacks := c.fallbacks.put tenant events, dropped := c.countDropped recorded }

/-- The later of a given start and the start of the window. -/
def lowerBound (windowStart : Moment) (start : Option Moment) : Except Fault Moment :=
  match start with
  | none => .ok windowStart
  | some s => do if ← s.before windowStart then .ok windowStart else .ok s

/-- Whether an outcome lies between the bounds and fits. -/
def selects (f : Filter) (lower : Moment) (e : Stamped Outcome) : Except Fault Bool := do
  if ← e.moment.before lower then .ok false
  else
    match f.finish with
    | none => .ok (f.fits e.value)
    | some finish => do if ← finish.before e.moment then .ok false else .ok (f.fits e.value)

/-- The outcomes of a tenant within the window and the bounds, in the order of their recording. -/
def events (c : Collector) (now : Moment) (tenant : String) (f : Filter) :
    Except Fault (List (Stamped Outcome)) := do
  let lower ← lowerBound (← cutoff c.config.windowSeconds now) f.start
  ((c.outcomes.get? tenant).getD []).filterM (selects f lower)

/-- The outcomes of a tenant taken together. -/
def aggregated (c : Collector) (now : Moment) (tenant : String) (f : Filter) :
    Except Fault Aggregate := do
  .ok (aggregate ((← c.events now tenant f).map Stamped.value))

/-- How a template's conversations went of late. -/
def live (c : Collector) (now : Moment) (tenant templateId : String) :
    Except Fault (Routing.LiveRates Number) := do
  let events := (← c.events now tenant { Filter.everything with templateId := templateId }).map
    Stamped.value
  let overall := aggregate events
  let enhanced := aggregate (events.filter (·.routed = .enhanced))
  .ok ⟨.int overall.count, overall.captureSuccessRate, overall.errorRate, enhanced.fallbackRate,
    .int enhanced.count⟩

/-- How a template performs, once there are enough samples. -/
def performance (c : Collector) (now : Moment) (tenant templateId : String) :
    Except Fault (Option Complexity.Performance) := do
  let a ← c.aggregated now tenant { Filter.everything with templateId := some templateId }
  if Number.less (.int a.count) c.config.minSamples then .ok none
  else .ok (some ⟨a.captureSuccessRate, none, some a.errorRate, some a.averageLatencyMs,
    .int a.count⟩)

/-- The outcomes of the messages routed to each path. -/
def compare (c : Collector) (now : Moment) (tenant : String) (templateId : Option String) :
    Except Fault (List (Path × Aggregate)) :=
  Path.all.mapM fun (path : Path) => do
    let a ← c.aggregated now tenant
      { Filter.everything with templateId := templateId, routed := some path }
    .ok (path, a)

/-- The latest recoveries of a tenant. -/
def fallbackEvents (c : Collector) (tenant : String) (limit : Int) : List FallbackEvent :=
  (listed limit ((c.fallbacks.get? tenant).getD [])).map Stamped.value

end Collector

end Parley.Outcomes
