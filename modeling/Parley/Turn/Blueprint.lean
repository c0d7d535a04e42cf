import Parley.Enhanced.Capture
import Parley.Enhanced.Engine
import Parley.Enhanced.Navigation
import Parley.Turn.Processor

/-!
# Parley.Turn.Blueprint — what a service is built from

A blueprint has the configurations of all parts.  One interpreter serves both paths, and one ledger
serves the dispatch of stage visits and their check after a recovery.
-/

namespace Parley.Turn

open Recovery (FallbackConfig Guard Journal Manager RetryConfig RetryStats)
open Time (Clocked)

/-- Where states are kept; a remote store forgets them after some seconds. -/
inductive StoreKind
  | memory
  | remote (address : String) (keptFor : Option Int)
  deriving DecidableEq, Repr

/-- What the address of a remote store can begin with. -/
def storeSchemes : List String := ["redis", "rediss", "unix"]

/-- A store, if it can be addressed. -/
def StoreKind.build : StoreKind → Except Fault Storage.Store
  | memory => .ok (.ofMemory .empty)
  | remote address keptFor =>
    let scheme := address.toList.takeWhile (· ≠ ':')
    if scheme.length < address.length
        && storeSchemes.contains (String.ofList (scheme.map Char.toLower)) then
      .ok (.ofRemote (.new Storage.Remote.defaultKeyStart keptFor))
    else .error (.badValue "the address of a store has to begin with a known scheme")

/-- Where the lead system is, and the key to it. -/
structure LeadService where
  url : String
  key : Option String
  deriving DecidableEq, Repr

def LeadService.authorization (l : LeadService) : Option String := l.key.map ("Bearer " ++ ·)

/-- The configurations of a service. -/
structure Blueprint where
  router : Routing.RouterConfig := .default
  thresholds : Complexity.Thresholds := .default
  metrics : Outcomes.CollectorConfig := .default
  retry : RetryConfig := .default
  interpreter : Conversation.Interpreter := {}
  fallback : FallbackConfig := .default
  /-- A limit for the enhanced path that goes before the one in `fallback`. -/
  limit : Option Number := none
  moduleTimeout : Number := .real 2
  lockSpan : Number := .real 10
  attempts : Int := 3
  store : StoreKind := .memory
  leads : Option LeadService := none
  captureUrl : Option String := none

/-- A journal of so many events. -/
def journalOf (c : FallbackConfig) : Except Fault Journal :=
  if c.historySize < 0 then .error (.badValue "maxlen must be non-negative")
  else .ok (.new c.historySize.toNat)

namespace Blueprint

section Engines

variable {ε : Type} [Clocked ε]

/-- The enhanced path: both modules around the interpreter. -/
def enhanced (b : Blueprint) (transport : Http.Transport ε) : Enhanced.Setup ε :=
  ⟨[Enhanced.navigationModule .default,
    Enhanced.captureModule .default (b.captureUrl.map fun url => ⟨Http.trimUrl url, transport⟩)],
    b.interpreter, b.moduleTimeout⟩

def baseline (b : Blueprint) : Engine ε := Engine.baseline b.interpreter

def manager (b : Blueprint) (baseline : Engine ε) : Manager ε :=
  ⟨baseline, b.fallback, true, true, true⟩

def guard (b : Blueprint) (primary baseline : Engine ε) : Guard ε :=
  .new primary (b.manager baseline) b.limit

def processor (b : Blueprint) (primary baseline : Engine ε) : Processor ε :=
  ⟨b.guard primary baseline, b.thresholds, some b.lockSpan, b.attempts⟩

end Engines

/-- What a service keeps when it starts. -/
def world {ε : Type} (b : Blueprint) (surroundings : ε) (store : Storage.Store) (draw : Number) :
    Except Fault (World ε) := do
  .ok { surroundings := surroundings
        store := store
        metrics := .new b.metrics
        ledger := .new Stages.Ledger.defaultMaxEntries
        journal := ← journalOf b.fallback
        retry := ⟨b.retry, RetryStats.empty, draw⟩
        registry := .empty
        router := .new b.router
        locks := .empty
        advances := [] }

end Blueprint

end Parley.Turn
