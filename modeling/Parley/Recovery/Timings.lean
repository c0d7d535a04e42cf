import Parley.Action

/-!
# Parley.Recovery.Timings — how long operations take

Operations run under a limit.  For each of them the latest times are kept, whether it came to an end
or reached its limit; an operation that failed leaves no time.
-/

namespace Parley.Recovery

open Time (Clocked Seconds)

/-- The figures of one operation. -/
structure TimingStats where
  totalOperations : Nat
  timedOutOperations : Nat
  average : Number
  p95 : Number
  deriving DecidableEq

def TimingStats.empty : TimingStats := ⟨0, 0, .real 0, .real 0⟩

def TimingStats.document (s : TimingStats) : Value :=
  .object [("total_operations", .int s.totalOperations),
    ("timed_out_operations", .int s.timedOutOperations),
    ("avg_elapsed_time", .ofNumber s.average), ("p95_elapsed_time", .ofNumber s.p95)]

/-- The latest times and the figures of each operation. -/
structure Timings where
  defaultLimit : Number
  windowSize : Int
  elapsed : Fields (List Number)
  stats : Fields TimingStats
  deriving DecidableEq

def Timings.new (defaultLimit : Number) (windowSize : Int) : Timings :=
  ⟨defaultLimit, windowSize, [], []⟩

/-- The index of the value below which nineteen of twenty values lie. -/
def p95Index (count : Nat) : Nat :=
  min (count - 1) ((Decimal.truncInt? (Decimal.floatOfInt count * 0.95)).getD 0).toNat

/-- The figures of some times; there has to be one. -/
def figures (s : TimingStats) (times : List Number) : Except Fault TimingStats :=
  let ordered := times.mergeSort fun a b => !(b.less a)
  if ordered.isEmpty then .error (.divisionByZero "division by zero")
  else
    let sum := ordered.foldl (· + ·) (0 : Number)
    .ok { s with
      average := sum / .int ordered.length
      p95 := ordered.getD (p95Index ordered.length) (.real 0) }

/-- Notes a time of an operation. -/
def Timings.record (t : Timings) (operation : String) (elapsed : Number) (timedOut : Bool) :
    Except Fault Unit × Timings :=
  if t.windowSize < 0 then (.error (.badValue "maxlen must be non-negative"), t)
  else
    let times := (t.elapsed.get? operation).getD [] ++ [elapsed]
    let times := times.drop (times.length - t.windowSize.toNat)
    let s := (t.stats.get? operation).getD TimingStats.empty
    let s := { s with
      totalOperations := s.totalOperations + 1
      timedOutOperations := s.timedOutOperations + (if timedOut then 1 else 0) }
    let t := { t with elapsed := t.elapsed.put operation times }
    match figures s times with
    | .ok s => (.ok (), { t with stats := t.stats.put operation s })
    | .error f => (.error f, { t with stats := t.stats.put operation s })

section Execute

variable {σ α : Type} [Clocked σ] [Holds σ Timings]

def noteTime (operation : String) (elapsed : Seconds) (timedOut : Bool) : Action σ Unit := do
  let noted ← Action.onPart fun t : Timings => t.record operation elapsed.toNumber timedOut
  Action.ofExcept noted

/-- Runs an operation under a limit and notes its time. -/
def timed (operation : String) (limit : Option Number) (act : Action σ α) : Action σ α := do
  let timings ← Action.view Timings
  let limit := limit.getD timings.defaultLimit
  let start ← Action.reading
  match ← Action.within (Seconds.ofNumber limit) act with
  | .done a =>
    noteTime operation ((← Action.reading) - start) false
    return a
  | .failed f => Action.fail f
  | .late elapsed =>
    noteTime operation elapsed true
    Action.fail (.moduleTimeout operation limit elapsed.toNumber)

end Execute

end Parley.Recovery
