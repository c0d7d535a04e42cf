import Parley.Action
import Parley.Number.Power

/-!
# Parley.Recovery.Retry — trying again after a while

An operation that fails because of the store is tried again, each time after a longer delay, up to a
number of attempts.  Any other failure goes through at once.
-/

namespace Parley.Recovery

open Time (Clocked Seconds)

/-- How often is tried, and how long the delays are. -/
structure RetryConfig where
  maxAttempts : Int
  baseDelay : Number
  maxDelay : Number
  exponentialBase : Number
  jitter : Number
  deriving DecidableEq

def RetryConfig.default : RetryConfig := ⟨3, .real 0.05, .real 1, .real 2, .real 0.1⟩

/-- What the attempts came to.  The delays are listed in the order of waiting. -/
structure RetryStats where
  totalAttempts : Nat
  successfulAttempts : Nat
  failedAttempts : Nat
  retriesExhausted : Nat
  delays : List Number
  faultsByLabel : Fields Nat
  deriving DecidableEq

def RetryStats.empty : RetryStats := ⟨0, 0, 0, 0, [], []⟩

def RetryStats.totalDelay (s : RetryStats) : Number := s.delays.foldl (· + ·) (.real 0)

def RetryStats.document (s : RetryStats) : Value :=
  .object [("total_attempts", .int s.totalAttempts),
    ("successful_attempts", .int s.successfulAttempts),
    ("failed_attempts", .int s.failedAttempts), ("retries_exhausted", .int s.retriesExhausted),
    ("total_delay", .ofNumber s.totalDelay),
    ("exceptions_by_type", .object (s.faultsByLabel.map fun (name, n) => (name, .int n)))]

/-- A policy, its statistics so far, and the place between `0` and `1` at which jitter is drawn. -/
structure RetryPolicy where
  config : RetryConfig
  stats : RetryStats
  draw : Number
  deriving DecidableEq

/-- Failures after which another attempt makes sense. -/
def isRetryable : Fault → Bool
  | .storePersistence .. => true
  | _ => false

/-- The delay after an attempt, attempts counting from zero: it grows by a factor with each attempt,
is spread by jitter, and has an upper bound. -/
def retryDelay (config : RetryConfig) (draw : Number) (attempt : Int) : Except Fault Number := do
  let delay ← config.baseDelay.times (← config.exponentialBase.power attempt)
  let low := 0 - config.jitter
  let jitter := low + (config.jitter - low) * draw
  .ok (Number.smallest (← delay.times (1 + jitter)) config.maxDelay)

namespace RetryStats

def started (s : RetryStats) : RetryStats := { s with totalAttempts := s.totalAttempts + 1 }

def succeeded (s : RetryStats) : RetryStats :=
  { s with successfulAttempts := s.successfulAttempts + 1 }

def failed (s : RetryStats) (f : Fault) : RetryStats :=
  { s with
    failedAttempts := s.failedAttempts + 1
    faultsByLabel := s.faultsByLabel.put f.label ((s.faultsByLabel.get? f.label).getD 0 + 1) }

def exhausted (s : RetryStats) : RetryStats := { s with retriesExhausted := s.retriesExhausted + 1 }

def delayed (s : RetryStats) (delay : Number) : RetryStats := { s with delays := s.delays ++ [delay] }

end RetryStats

section Retry

variable {σ α : Type} [Clocked σ] [Holds σ RetryPolicy]

def noteStats (f : RetryStats → RetryStats) : Action σ Unit :=
  Action.update fun p : RetryPolicy => { p with stats := f p.stats }

def exhaustedFault (operation : String) (maxAttempts : Int) (last : Option Fault) : Fault :=
  .transient (operation ++ " failed after " ++ toString maxAttempts ++ " attempts: "
    ++ ((last.map Fault.message).getD "None")) maxAttempts

/-- Gives up after the last attempt. -/
def giveUp (operation : String) (last : Option Fault) : Action σ α := do
  noteStats RetryStats.exhausted
  let policy ← Action.view RetryPolicy
  Action.fail (exhaustedFault operation policy.config.maxAttempts last)

/-- Waits after a failed attempt. -/
def backOff (attempt : Nat) : Action σ Unit := do
  let policy ← Action.view RetryPolicy
  let delay ← Action.ofExcept (retryDelay policy.config policy.draw attempt)
  noteStats (·.delayed delay)
  Action.wait (Seconds.ofNumber delay)

/-- Tries an operation `left` more times, after `attempt` attempts. -/
def tryAgain (operation : String) (act : Action σ α) : (left attempt : Nat) → Action σ α
  | 0, _ => giveUp operation none
  | left + 1, attempt => do
    noteStats RetryStats.started
    match ← act.attempt with
    | .ok a => do
      noteStats RetryStats.succeeded
      return a
    | .error f =>
      if isRetryable f then do
        noteStats (·.failed f)
        if left = 0 then giveUp operation (some f)
        else do
          backOff attempt
          tryAgain operation act left (attempt + 1)
      else Action.fail f

/-- Tries an operation as often as the policy allows. -/
def withRetry (operation : String) (act : Action σ α) : Action σ α := do
  let policy ← Action.view RetryPolicy
  tryAgain operation act policy.config.maxAttempts.toNat 0

end Retry

end Parley.Recovery
