import Mathlib.Algebra.Group.Nat.Defs
import Mathlib.Data.List.Forall2
import Mathlib.Data.Nat.Log
import Parley.Proofs.Action.Pact
import Parley.Recovery.Retry

/-!
# Parley.Proofs.Recovery.Retries — how often an operation is tried, and how long it rests

A `Trial` is an operation whose outcomes are laid down, one for each call, together with the policy
it is tried with.  `disciplined_withRetry` follows it to its end: it is called up to the first
outcome that settles it or up to the number of attempts, it rests once between two calls and never
longer than the longest delay, and the statistics count each call once.  The delay grows by powers
of the double `2`, which are doubles only up to the 1023rd (`realPower_two`), and the bound is
applied after the power is taken.  So a trial with more than 1025 attempts that is not settled by
then ends with the fault of a number that is too large.
-/

namespace Parley

open Time (Clock Clocked Seconds)

/-! ### Doubling -/

namespace Number

open Decimal

/-- The double `2` taken apart. -/
theorem ofFloat_two : Float64.ofFloat 2 = .finite ⟨false, 2 ^ 52, -51⟩ := by decide +kernel

theorem twoPower_pos (e : Int) : 0 < (twoPower e).2 := by
  unfold twoPower
  split_ifs
  · exact Nat.one_pos
  · exact Nat.two_pow_pos _

/-- A power of two scaled by another one, above and below the line. -/
theorem pow_mul_twoPower {n : Nat} {e : Int} (h : e ≤ n) :
    2 ^ n * (twoPower (-e)).1 = 2 ^ (n - e).toNat * (twoPower (-e)).2 := by
  unfold twoPower
  split_ifs with he
  · have hsum : (n - e).toNat = n + (-e).toNat := by omega
    rw [hsum, Nat.pow_add]
    exact (Nat.mul_one _).symm
  · have hsum : n = (n - e).toNat + (-(-e)).toNat := by omega
    rw [Nat.mul_one]
    conv_lhs => rw [hsum]
    exact Nat.pow_add ..

/-- A power of two is the double nearest to itself. -/
theorem nearestFloat_pow (n m : Nat) :
    nearestFloat false (2 ^ n * 2 ^ m) (2 ^ m) = packed false (2 ^ 52) (n - 52) := by
  have hguess : ((2 ^ n * 2 ^ m).log2 : Int) - (2 ^ m).log2 - 53 = n - 53 := by
    rw [← Nat.pow_add, Nat.log2_two_pow, Nat.log2_two_pow]
    omega
  have hscaled (e : Int) (he : e ≤ n) : 2 ^ n * 2 ^ m * (twoPower (-e)).1 =
      2 ^ (n - e).toNat * (2 ^ m * (twoPower (-e)).2) := by
    rw [Nat.mul_right_comm, pow_mul_twoPower he, Nat.mul_assoc, Nat.mul_comm (twoPower _).2]
  have hpos (e : Int) : 0 < 2 ^ m * (twoPower e).2 :=
    Nat.mul_pos (Nat.two_pow_pos m) (twoPower_pos e)
  have hwide : 2 ^ n * 2 ^ m * (twoPower (-(n - 53 : Int))).1 /
      (2 ^ m * (twoPower (-(n - 53 : Int))).2) = 2 ^ 53 := by
    rw [hscaled _ (by omega), Nat.mul_div_cancel _ (hpos _)]
    congr 1
    omega
  have hexact : roundDiv (2 ^ n * 2 ^ m * (twoPower (-(n - 52 : Int))).1)
      (2 ^ m * (twoPower (-(n - 52 : Int))).2) = 2 ^ 52 := by
    rw [hscaled _ (by omega), roundDiv_mul _ (hpos _)]
    congr 1
    omega
  have hexponent : max ((n : Int) - 53 + 1) (-1074) = n - 52 := by omega
  unfold nearestFloat
  rw [if_neg (Nat.mul_pos (Nat.two_pow_pos n) (Nat.two_pow_pos m)).ne']
  dsimp only
  rw [hguess, hwide, if_pos (show Nat.pow 2 53 ≤ 2 ^ 53 from le_refl _), hexponent, hexact,
    if_neg (show (2 ^ 52 : Nat) ≠ Nat.pow 2 53 by decide)]

theorem isFinite_packed :
    ∀ n : Nat, n < 1024 → isFinite (packed false (2 ^ 52) (n - 52)) = true := by
  decide +kernel

/-- Beyond the last exponent there is only infinity. -/
theorem isFinite_packed_of_le {n : Nat} (h : 1024 ≤ n) :
    isFinite (packed false (2 ^ 52) (n - 52)) = false := by
  have hlarge : packed false (2 ^ 52) (n - 52) = packed false (2 ^ 52) (1024 - 52) := by
    unfold packed
    dsimp only
    rw [if_pos (by omega : (2047 : Int) ≤ n - 52 + 1075)]
    rfl
  rw [hlarge]
  decide +kernel

/-- **The double `2` to a power is a double up to the 1023rd power, and a fault beyond.** -/
theorem realPower_two (n : Nat) : realPower 2 n =
    if n < 1024 then .ok (packed false (2 ^ 52) (n - 52)) else .error resultTooLarge := by
  have hnum : Nat.pow (2 ^ 52) n = 2 ^ n * 2 ^ (51 * n) := by
    have hsum : 52 * n = n + 51 * n := by omega
    rw [← Nat.pow_add, ← hsum]
    exact (Nat.pow_mul ..).symm
  have hden : Nat.pow (2 ^ 51) n = 2 ^ (51 * n) := (Nat.pow_mul ..).symm
  have hratio : (⟨false, 2 ^ 52, -51⟩ : Binary64).ratio = (2 ^ 52, 2 ^ 51) := by decide
  unfold realPower
  rw [ofFloat_two]
  dsimp only
  rw [hratio, hnum, hden, Bool.false_and, nearestFloat_pow]
  split_ifs with hfinite hn hn
  · rfl
  · rw [isFinite_packed_of_le (by omega)] at hfinite
    exact absurd hfinite (by decide)
  · exact absurd (isFinite_packed n hn) hfinite
  · rfl

section Family

variable {f : Fault}

theorem family_of_asReal {a : Number} (h : a.asReal = .error f) : f.family ≠ .service := by
  cases a with
  | int i =>
    unfold asReal at h
    dsimp only at h
    split_ifs at h
    rw [← Except.error.inj h]
    exact fun hfamily => nomatch hfamily
  | real x => exact nomatch h

theorem family_of_times {a b : Number} (h : a.times b = .error f) : f.family ≠ .service := by
  unfold times at h
  split at h
  · exact nomatch h
  · rcases exceptBind_eq_error.mp h with h | ⟨_, -, h⟩
    · exact family_of_asReal h
    · rcases exceptBind_eq_error.mp h with h | ⟨_, -, h⟩
      · exact family_of_asReal h
      · exact nomatch h

theorem family_of_realPower {x : Float} {n : Nat} (h : realPower x n = .error f) :
    f.family ≠ .service := by
  unfold realPower at h
  split at h
  · dsimp only at h
    split_ifs at h
    rw [← Except.error.inj h]
    exact fun hfamily => nomatch hfamily
  · split_ifs at h

theorem family_of_power {base : Number} {exponent : Int} (h : base.power exponent = .error f) :
    f.family ≠ .service := by
  have hreal {x : Float} {n : Nat} {g : Float → Number} (h : (realPower x n).map g = .error f) :
      f.family ≠ .service := by
    cases hpower : realPower x n with
    | ok y =>
      rw [hpower] at h
      exact nomatch h
    | error e =>
      rw [hpower] at h
      rw [← Except.error.inj h]
      exact family_of_realPower hpower
  cases base with
  | int i =>
    unfold power at h
    dsimp only at h
    split_ifs at h
    rw [← Except.error.inj h]
    exact fun hfamily => nomatch hfamily
  | real x =>
    unfold power at h
    dsimp only at h
    split_ifs at h
    · exact hreal h
    · rw [← Except.error.inj h]
      exact fun hfamily => nomatch hfamily
    · exact hreal h

end Family

theorem not_less_smallest {a m : Number} (h : ¬ m < m) : ¬ m < smallest a m := by
  unfold smallest
  split_ifs with hless
  · exact h
  · exact hless

end Number

/-! ### Pauses -/

namespace Action

/-- A pause of an action that is alone, and the world it comes in. -/
structure Stop (σ : Type) where
  wake : Wake σ
  world : σ

section Stops

variable {σ α β : Type} [Clocked σ]

/-- The pauses of an action that is alone. -/
def stops : Action σ α → σ → List (Stop σ)
  | finished _, _ => []
  | look next, w => (next w).stops w
  | put w next, _ => next.stops w
  | pause wake next, w => ⟨wake, w⟩ :: next.stops (wake.awaited w)

theorem stops_andThen_of_ok {x : Action σ α} {f : α → Action σ β} {w : σ} {a : α}
    (h : (x.run w).1 = .ok a) :
    (x.andThen f).stops w = x.stops w ++ (f a).stops (x.run w).2 := by
  induction x generalizing w with
  | finished outcome =>
    obtain rfl : outcome = .ok a := h
    rfl
  | look next ih => exact ih w h
  | put v next ih => exact ih h
  | pause wake next ih => exact congrArg (_ :: ·) (ih h)

theorem stops_andThen_of_error {x : Action σ α} (f : α → Action σ β) {w : σ} {e : Fault}
    (h : (x.run w).1 = .error e) : (x.andThen f).stops w = x.stops w := by
  induction x generalizing w with
  | finished outcome =>
    obtain rfl : outcome = .error e := h
    rfl
  | look next ih => exact ih w h
  | put v next ih => exact ih h
  | pause wake next ih => exact congrArg (_ :: ·) (ih h)

/-- Waiting is one pause. -/
theorem run_wait (span : Seconds) (w : σ) : ∃ wake : Wake σ,
    (wait span : Action σ Unit).run w = (.ok (), wake.awaited w) ∧
      (wait span : Action σ Unit).stops w = [⟨wake, w⟩] := by
  unfold wait
  by_cases h : span ≤ 0
  · simp only [if_pos h]
    exact ⟨_, rfl, rfl⟩
  · simp only [if_neg h]
    exact ⟨_, rfl, rfl⟩

end Stops

end Action

namespace Recovery

open Parley.Action (Stop stops)
open Number (realPower resultTooLarge)

/-! ### Delays -/

/-- At most `n` attempts, with delays as they are by default. -/
def RetryConfig.limitedTo (n : Nat) : RetryConfig := { RetryConfig.default with maxAttempts := n }

section Delays

variable (n : Nat) (draw : Number) {attempt : Nat}

theorem retryDelay_limitedTo (attempt : Nat) : ∃ factor : Float,
    retryDelay (.limitedTo n) draw attempt =
      (realPower 2 attempt).map fun p => Number.smallest (.real (0.05 * p * factor)) (.real 1) := by
  have hpower : (RetryConfig.limitedTo n).exponentialBase.power attempt =
      (realPower 2 attempt).map .real := by
    have hnonneg : (0 : Int) ≤ attempt := by omega
    unfold Number.power RetryConfig.limitedTo RetryConfig.default
    dsimp only
    rw [if_pos hnonneg]
    rfl
  refine ⟨(1 + ((0 - .real 0.1) + (.real 0.1 - (0 - .real 0.1)) * draw) : Number).toFloat, ?_⟩
  unfold retryDelay
  rw [hpower]
  cases draw <;> cases realPower 2 attempt <;> rfl

/-- Up to the 1024th attempt there is a delay, which is not longer than the longest one. -/
theorem retryDelay_of_lt (h : attempt < 1024) : ∃ delay,
    retryDelay (.limitedTo n) draw attempt = .ok delay ∧
      ¬ (RetryConfig.limitedTo n).maxDelay < delay := by
  obtain ⟨factor, hdelay⟩ := retryDelay_limitedTo n draw attempt
  rw [Number.realPower_two, if_pos h] at hdelay
  exact ⟨_, hdelay, Number.not_less_smallest (show ¬ Number.real 1 < .real 1 by decide +kernel)⟩

/-- From the 1025th attempt on the power is too large, whatever the longest delay is. -/
theorem retryDelay_of_le (h : 1024 ≤ attempt) :
    retryDelay (.limitedTo n) draw attempt = .error resultTooLarge := by
  obtain ⟨factor, hdelay⟩ := retryDelay_limitedTo n draw attempt
  rw [Number.realPower_two, if_neg (by omega)] at hdelay
  exact hdelay

end Delays

/-- A delay that cannot be computed is no fault of a service. -/
theorem family_of_retryDelay {config : RetryConfig} {draw : Number} {attempt : Int} {f : Fault}
    (h : retryDelay config draw attempt = .error f) : f.family ≠ .service := by
  rcases exceptBind_eq_error.mp h with h | ⟨_, -, h⟩
  · exact Number.family_of_power h
  rcases exceptBind_eq_error.mp h with h | ⟨_, -, h⟩
  · exact Number.family_of_times h
  rcases exceptBind_eq_error.mp h with h | ⟨_, -, h⟩
  · exact Number.family_of_times h
  · exact nomatch h

/-! ### Trials -/

/-- An operation with an outcome laid down for each call, and the policy it is tried with. -/
structure Trial (α : Type) where
  clock : Clock
  policy : RetryPolicy
  outcomes : Nat → Except Fault α
  calls : Nat

instance {α : Type} : Clocked (Trial α) := ⟨Trial.clock, fun w c => { w with clock := c }⟩
instance {α : Type} : Holds (Trial α) RetryPolicy :=
  ⟨Trial.policy, fun w p => { w with policy := p }⟩

/-- A success, or a failure after which another attempt makes no sense. -/
def settles {α : Type} : Except Fault α → Bool
  | .ok _ => true
  | .error f => !isRetryable f

def succeeds {α : Type} : Except Fault α → Bool
  | .ok _ => true
  | .error _ => false

/-- A failure of a class after which another attempt makes sense. -/
def failsAs {α : Type} (label : String) : Except Fault α → Bool
  | .ok _ => false
  | .error f => isRetryable f && f.label == label

/-- The statistics after a call. -/
def RetryStats.after {α : Type} (s : RetryStats) : Except Fault α → RetryStats
  | .ok _ => s.started.succeeded
  | .error f => if isRetryable f then s.started.failed f else s.started

/-- The statistics `after` count each of these calls once. -/
structure Counted {α : Type} (before after : RetryStats) (made : List (Except Fault α)) : Prop where
  total : after.totalAttempts = before.totalAttempts + made.length
  successful : after.successfulAttempts = before.successfulAttempts + made.countP succeeds
  failed : after.failedAttempts = before.failedAttempts + made.countP (!settles ·)
  labelled : ∀ label, (after.faultsByLabel.get? label).getD 0 =
    (before.faultsByLabel.get? label).getD 0 + made.countP (failsAs label)

namespace Counted

variable {α : Type} {before s after : RetryStats} {made more : List (Except Fault α)}

theorem trans (h : Counted before s made) (h' : Counted s after more) :
    Counted before after (made ++ more) where
  total := by rw [h'.total, h.total, List.length_append, Nat.add_assoc]
  successful := by rw [h'.successful, h.successful, List.countP_append, Nat.add_assoc]
  failed := by rw [h'.failed, h.failed, List.countP_append, Nat.add_assoc]
  labelled label := by rw [h'.labelled, h.labelled, List.countP_append, Nat.add_assoc]

/-- A call is counted once. -/
theorem one (s : RetryStats) (outcome : Except Fault α) :
    Counted s (s.after outcome) [outcome] := by
  cases outcome with
  | ok a => exact ⟨rfl, rfl, rfl, fun _ => rfl⟩
  | error f =>
    unfold RetryStats.after
    dsimp only
    split_ifs with hf
    · have hunsettled : settles (.error f : Except Fault α) = false := by simp [settles, hf]
      refine ⟨rfl, rfl, ?_, fun label => ?_⟩
      · rw [List.countP_singleton, hunsettled]
        rfl
      · rw [List.countP_singleton]
        unfold RetryStats.failed
        dsimp only
        by_cases hlabel : f.label = label
        · have hfails : failsAs label (.error f : Except Fault α) = true := by
            simp [failsAs, hf, hlabel]
          rw [← hlabel, Table.get?_put_self, hlabel, hfails]
          rfl
        · have hfails : failsAs label (.error f : Except Fault α) = false := by
            simp [failsAs, hlabel]
          rw [Table.get?_put_of_ne _ _ (Ne.symm hlabel), hfails]
          rfl
    · have hsettled : settles (.error f : Except Fault α) = true := by simp [settles, hf]
      refine ⟨rfl, rfl, ?_, fun label => ?_⟩
      · rw [List.countP_singleton, hsettled]
        rfl
      · have hfails : failsAs label (.error f : Except Fault α) = false := by simp [failsAs, hf]
        rw [List.countP_singleton, hfails]
        rfl

end Counted

namespace Trial

variable {α : Type} (w : Trial α)

/-- A trial before the first call. -/
def fresh (clock : Clock) (stats : RetryStats) (draw : Number) (outcomes : Nat → Except Fault α)
    (n : Nat) : Trial α :=
  ⟨clock, ⟨.limitedTo n, stats, draw⟩, outcomes, 0⟩

/-- One call of the operation. -/
def call : Action (Trial α) α :=
  .look fun w => .put { w with calls := w.calls + 1 } (.finished (w.outcomes w.calls))

/-- The outcome of the call that comes next. -/
def next : Except Fault α := w.outcomes w.calls

/-- The outcomes of the calls so far. -/
def made : List (Except Fault α) := (List.range w.calls).map w.outcomes

def withStats (stats : RetryStats) : Trial α :=
  { w with policy := { w.policy with stats := stats } }

/-- The trial when the next call is over and its outcome is not yet noted. -/
def begun : Trial α := { w.withStats w.policy.stats.started with calls := w.calls + 1 }

/-- The trial after the next call. -/
def called : Trial α := { w.withStats (w.policy.stats.after w.next) with calls := w.calls + 1 }

theorem made_called : w.called.made = w.made ++ [w.next] := by
  unfold made called
  rw [List.range_succ, List.map_append]
  rfl

end Trial

/-- The pause is a wait of so many seconds. -/
def Waits {α : Type} (delay : Number) (s : Stop (Trial α)) : Prop :=
  (Action.wait (Seconds.ofNumber delay)).stops s.world = [s]

section Steps

variable {α : Type} {w : Trial α} {f : Fault} {delay : Number} (operation : String)
  (left attempt : Nat)

/-- What follows on an attempt, with so many left. -/
def followUp (outcome : Except Fault α) : Action (Trial α) α :=
  match outcome with
  | .ok a => (noteStats RetryStats.succeeded).andThen fun _ => .result a
  | .error f =>
    if isRetryable f then
      (noteStats (·.failed f)).andThen fun _ =>
        if left = 0 then giveUp operation (some f)
        else (backOff attempt).andThen fun _ => tryAgain operation Trial.call left (attempt + 1)
    else .fail f

theorem run_tryAgain : (tryAgain operation Trial.call (left + 1) attempt).run w =
    (followUp operation left attempt w.next).run w.begun := rfl

theorem stops_tryAgain : (tryAgain operation Trial.call (left + 1) attempt).stops w =
    (followUp operation left attempt w.next).stops w.begun := rfl

/-- A success or a failure for good is the result at once. -/
theorem tryAgain_of_settles (h : settles w.next = true) :
    (tryAgain operation Trial.call (left + 1) attempt).run w = (w.next, w.called) ∧
      (tryAgain operation Trial.call (left + 1) attempt).stops w = [] := by
  rw [run_tryAgain, stops_tryAgain]
  unfold Trial.called
  cases hnext : w.next with
  | ok a => exact ⟨rfl, rfl⟩
  | error f =>
    have hfinal : ¬ isRetryable f = true := by simpa [hnext, settles] using h
    unfold followUp RetryStats.after
    dsimp only
    rw [if_neg hfinal, if_neg hfinal]
    exact ⟨rfl, rfl⟩

/-- After the last attempt there is no delay. -/
theorem tryAgain_of_last (hnext : w.next = .error f) (hf : isRetryable f = true) :
    (tryAgain operation Trial.call 1 attempt).run w =
        (.error (exhaustedFault operation w.policy.config.maxAttempts (some f)),
          w.called.withStats w.called.policy.stats.exhausted) ∧
      (tryAgain operation Trial.call 1 attempt).stops w = [] := by
  rw [run_tryAgain, stops_tryAgain]
  unfold Trial.called
  rw [hnext]
  unfold followUp RetryStats.after
  dsimp only
  rw [if_pos hf, if_pos hf]
  exact ⟨rfl, rfl⟩

variable {attempt}

theorem backOff_eq : backOff attempt = Action.look fun v : Trial α =>
    (Action.ofExcept (retryDelay v.policy.config v.policy.draw attempt)).andThen fun delay =>
      (noteStats (·.delayed delay)).andThen fun _ => Action.wait (Seconds.ofNumber delay) := rfl

theorem backOff_of_error {v : Trial α} {e : Fault}
    (h : retryDelay v.policy.config v.policy.draw attempt = .error e) :
    (backOff attempt).run v = (.error e, v) ∧ (backOff attempt).stops v = [] := by
  rw [backOff_eq]
  dsimp only [Action.run, Action.stops]
  rw [h]
  exact ⟨rfl, rfl⟩

theorem awaited_eq (wake : Wake (Trial α)) (v : Trial α) :
    ∃ clock, wake.awaited v = { v with clock := clock } := by
  unfold Wake.awaited
  split_ifs
  · exact ⟨v.clock, rfl⟩
  · split
    · exact ⟨_, rfl⟩
    · exact ⟨v.clock, rfl⟩

/-- Backing off is one wait, and its delay is noted. -/
theorem backOff_of_ok {v : Trial α}
    (h : retryDelay v.policy.config v.policy.draw attempt = .ok delay) :
    ∃ clock stop, (backOff attempt).run v =
        (.ok (), { v.withStats (v.policy.stats.delayed delay) with clock := clock }) ∧
      (backOff attempt).stops v = [stop] ∧ Waits delay stop ∧ stop.world.calls = v.calls := by
  obtain ⟨wake, hrun, hstops⟩ := Action.run_wait (Seconds.ofNumber delay)
    (v.withStats (v.policy.stats.delayed delay))
  obtain ⟨clock, hclock⟩ := awaited_eq wake (v.withStats (v.policy.stats.delayed delay))
  refine ⟨clock, ⟨wake, v.withStats (v.policy.stats.delayed delay)⟩, ?_, ?_, hstops, rfl⟩
  · rw [backOff_eq]
    dsimp only [Action.run]
    rw [h]
    exact hrun.trans (by rw [hclock])
  · rw [backOff_eq]
    dsimp only [Action.stops]
    rw [h]
    exact hstops

/-- While attempts are left, a failure is followed by backing off. -/
theorem tryAgain_of_retryable (attempt : Nat) (hnext : w.next = .error f)
    (hf : isRetryable f = true) :
    let rest := (backOff attempt).andThen fun _ =>
      tryAgain operation Trial.call (left + 1) (attempt + 1)
    (tryAgain operation Trial.call (left + 2) attempt).run w = rest.run w.called ∧
      (tryAgain operation Trial.call (left + 2) attempt).stops w = rest.stops w.called := by
  rw [run_tryAgain, stops_tryAgain]
  unfold Trial.called
  rw [hnext]
  unfold followUp RetryStats.after
  dsimp only
  rw [if_pos hf, if_pos hf, if_neg (Nat.succ_ne_zero left)]
  exact ⟨rfl, rfl⟩

theorem tryAgain_of_overflow {e : Fault} (hnext : w.next = .error f) (hf : isRetryable f = true)
    (hdelay : retryDelay w.policy.config w.policy.draw attempt = .error e) :
    (tryAgain operation Trial.call (left + 2) attempt).run w = (.error e, w.called) ∧
      (tryAgain operation Trial.call (left + 2) attempt).stops w = [] := by
  obtain ⟨hrun, hstops⟩ := tryAgain_of_retryable operation left attempt hnext hf
  obtain ⟨hback, hquiet⟩ := backOff_of_error (v := w.called) hdelay
  refine ⟨?_, ?_⟩
  · rw [hrun, Action.run_andThen_of_error _ _ _ (congrArg Prod.fst hback), hback]
  · rw [hstops, Action.stops_andThen_of_error _ (congrArg Prod.fst hback), hquiet]

/-- The trial after a call and a rest. -/
def Trial.rested (w : Trial α) (clock : Clock) (delay : Number) : Trial α :=
  { w.called.withStats (w.called.policy.stats.delayed delay) with clock := clock }

/-- With a delay, the rest of the attempts follows. -/
theorem tryAgain_of_delay (hnext : w.next = .error f) (hf : isRetryable f = true)
    (hdelay : retryDelay w.policy.config w.policy.draw attempt = .ok delay) :
    ∃ clock stop, Waits delay stop ∧ stop.world.calls = w.calls + 1 ∧
      (tryAgain operation Trial.call (left + 2) attempt).run w =
        (tryAgain operation Trial.call (left + 1) (attempt + 1)).run (w.rested clock delay) ∧
      (tryAgain operation Trial.call (left + 2) attempt).stops w =
        stop :: (tryAgain operation Trial.call (left + 1) (attempt + 1)).stops
          (w.rested clock delay) := by
  obtain ⟨hrun, hstops⟩ := tryAgain_of_retryable operation left attempt hnext hf
  obtain ⟨clock, stop, hback, hone, hwaits, hcalls⟩ := backOff_of_ok (v := w.called) hdelay
  refine ⟨clock, stop, hwaits, hcalls, ?_, ?_⟩
  · rw [hrun, Action.run_andThen_of_ok _ _ _ (congrArg Prod.fst hback), hback]
    rfl
  · rw [hstops, Action.stops_andThen_of_ok (congrArg Prod.fst hback), hone, hback]
    rfl

end Steps

/-! ### Runs -/

/-- What a trial comes to: how many calls are made, what the result is, and how often the
operation is given up. -/
inductive Verdict {α : Type} (operation : String) (n : Nat) (outcomes : Nat → Except Fault α) :
    Nat → Except Fault α → Nat → Prop
  /-- The first outcome that settles the operation is the result. -/
  | settled {k : Nat} : k < n → k ≤ 1024 → (∀ i < k, settles (outcomes i) = false) →
    settles (outcomes k) = true → Verdict operation n outcomes (k + 1) (outcomes k) 0
  /-- No attempt is left. -/
  | exhausted {last : Fault} : n ≤ 1025 → (∀ i < n, settles (outcomes i) = false) →
    outcomes (n - 1) = .error last →
    Verdict operation n outcomes n (.error (exhaustedFault operation n (some last))) 1
  /-- There is no delay after the 1025th attempt. -/
  | overflowed : 1025 < n → (∀ i < 1025, settles (outcomes i) = false) →
    Verdict operation n outcomes 1025 (.error resultTooLarge) 0

/-- A trial on its way: no call so far has settled the operation, and each is counted once. -/
structure Unsettled {α : Type} (n : Nat) (before : RetryStats) (w : Trial α) : Prop where
  config : w.policy.config = .limitedTo n
  outcomes : ∀ i < w.calls, settles (w.outcomes i) = false
  counted : Counted before w.policy.stats w.made
  givenUp : w.policy.stats.retriesExhausted = before.retriesExhausted

/-- What becomes of a trial from some call on, and the rests on the way: there is a rest between two
calls and no other one, none is longer than the longest delay, and each call is counted once. -/
structure Disciplined {α : Type} (operation : String) (n : Nat) (before : RetryStats) (w : Trial α)
    (ended : Except Fault α × Trial α) (rests : List (Stop (Trial α))) : Prop where
  verdict : ∃ givenUp, Verdict operation n w.outcomes ended.2.calls ended.1 givenUp ∧
    ended.2.policy.stats.retriesExhausted = before.retriesExhausted + givenUp
  calls : w.calls < ended.2.calls
  counted : Counted before ended.2.policy.stats ended.2.made
  between : rests.map (·.world.calls) =
    List.range' (w.calls + 1) (ended.2.calls - (w.calls + 1))
  delays : ∃ delays, List.Forall₂ Waits delays rests ∧
    (∀ delay ∈ delays, ¬ (RetryConfig.limitedTo n).maxDelay < delay) ∧
    ended.2.policy.stats.delays = w.policy.stats.delays ++ delays

section Runs

variable {α : Type} {n : Nat} {before : RetryStats} {w : Trial α} {operation : String}

theorem exists_of_not_settles {outcome : Except Fault α} (h : settles outcome = false) :
    ∃ f, outcome = .error f ∧ isRetryable f = true := by
  cases outcome with
  | ok a => exact absurd h (by simp [settles])
  | error f => exact ⟨f, rfl, by simpa [settles] using h⟩

/-- Before the first call there is nothing to count. -/
theorem Unsettled.fresh (clock : Clock) (stats : RetryStats) (draw : Number)
    (outcomes : Nat → Except Fault α) (n : Nat) :
    Unsettled n stats (.fresh clock stats draw outcomes n) :=
  ⟨rfl, fun _ hi => absurd hi (Nat.not_lt_zero _), ⟨rfl, rfl, rfl, fun _ => rfl⟩, rfl⟩

theorem Unsettled.counted_called (h : Unsettled n before w) :
    Counted before w.called.policy.stats w.called.made := by
  rw [w.made_called]
  exact h.counted.trans (.one w.policy.stats w.next)

theorem Unsettled.outcomes_called (h : Unsettled n before w) (hnext : settles w.next = false) :
    ∀ i < w.calls + 1, settles (w.outcomes i) = false := by
  intro i hi
  rcases Nat.lt_succ_iff_lt_or_eq.mp hi with hi | rfl
  · exact h.outcomes i hi
  · exact hnext

theorem Trial.givenUp_called (w : Trial α) :
    w.called.policy.stats.retriesExhausted = w.policy.stats.retriesExhausted := by
  unfold Trial.called Trial.withStats RetryStats.after
  dsimp only
  split
  · rfl
  · split_ifs <;> rfl

theorem Trial.delays_called (w : Trial α) :
    w.called.policy.stats.delays = w.policy.stats.delays := by
  unfold Trial.called Trial.withStats RetryStats.after
  dsimp only
  split
  · rfl
  · split_ifs <;> rfl

theorem Unsettled.rested (h : Unsettled n before w) (hnext : settles w.next = false)
    (clock : Clock) (delay : Number) : Unsettled n before (w.rested clock delay) where
  config := h.config
  outcomes := h.outcomes_called hnext
  counted := by
    have hcounted := h.counted_called
    exact ⟨hcounted.total, hcounted.successful, hcounted.failed, hcounted.labelled⟩
  givenUp := w.givenUp_called.trans h.givenUp

/-- The end of a trial with its next call. -/
theorem Unsettled.disciplined_of_called (h : Unsettled n before w) {result : Except Fault α}
    (hverdict : Verdict operation n w.outcomes (w.calls + 1) result 0) :
    Disciplined operation n before w (result, w.called) [] where
  verdict := ⟨0, hverdict, w.givenUp_called.trans h.givenUp⟩
  calls := Nat.lt_succ_self _
  counted := h.counted_called
  between := by
    have hnone : w.called.calls - (w.calls + 1) = 0 := Nat.sub_self _
    rw [hnone]
    rfl
  delays := ⟨[], .nil, fun _ hdelay => absurd hdelay List.not_mem_nil,
    w.delays_called.trans (List.append_nil _).symm⟩

/-- The end of a trial with an outcome that settles the operation. -/
theorem Unsettled.disciplined_of_settles (h : Unsettled n before w) (hcalls : w.calls < n)
    (hlimit : w.calls ≤ 1024) (hnext : settles w.next = true) :
    Disciplined operation n before w (w.next, w.called) [] :=
  h.disciplined_of_called (.settled hcalls hlimit h.outcomes hnext)

/-- The end of a trial whose last attempt fails. -/
theorem Unsettled.disciplined_of_last (h : Unsettled n before w) (hcalls : w.calls + 1 = n)
    (hlimit : w.calls ≤ 1024) {f : Fault} (hnext : w.next = .error f)
    (hunsettled : settles w.next = false) :
    Disciplined operation n before w (.error (exhaustedFault operation n (some f)),
      w.called.withStats w.called.policy.stats.exhausted) [] := by
  have hcounted := h.counted_called
  have hlast : w.outcomes (n - 1) = .error f := by
    have hindex : n - 1 = w.calls := by omega
    rw [hindex]
    exact hnext
  have hverdict : Verdict operation n w.outcomes n
      (.error (exhaustedFault operation n (some f))) 1 := by
    refine .exhausted (by omega) (fun i hi => ?_) hlast
    exact h.outcomes_called hunsettled i (by omega)
  refine ⟨⟨1, ?_, ?_⟩, Nat.lt_succ_self _, ?_, ?_, [], .nil, ?_, ?_⟩
  · have hend : (w.called.withStats w.called.policy.stats.exhausted).calls = n := hcalls
    rw [hend]
    exact hverdict
  · exact congrArg (· + 1) (w.givenUp_called.trans h.givenUp)
  · exact ⟨hcounted.total, hcounted.successful, hcounted.failed, hcounted.labelled⟩
  · have hnone : w.calls + 1 - (w.calls + 1) = 0 := Nat.sub_self _
    exact (congrArg (List.range' (w.calls + 1)) hnone).symm
  · exact fun _ hdelay => absurd hdelay List.not_mem_nil
  · exact w.delays_called.trans (List.append_nil _).symm

/-- What holds from the next call on holds from this one on. -/
theorem Disciplined.rested {clock : Clock} {delay : Number} {stop : Stop (Trial α)}
    {ended : Except Fault α × Trial α} {rests : List (Stop (Trial α))}
    (h : Disciplined operation n before (w.rested clock delay) ended rests)
    (hwaits : Waits delay stop) (hstop : stop.world.calls = w.calls + 1)
    (hbound : ¬ (RetryConfig.limitedTo n).maxDelay < delay) :
    Disciplined operation n before w ended (stop :: rests) := by
  obtain ⟨delays, hall, hbounds, hnoted⟩ := h.delays
  have hcalls : w.calls + 1 < ended.2.calls := h.calls
  refine ⟨h.verdict, Nat.lt_of_succ_lt hcalls, h.counted, ?_, delay :: delays,
    .cons hwaits hall, ?_, ?_⟩
  · have hone : ended.2.calls - (w.calls + 1) = ended.2.calls - (w.calls + 1 + 1) + 1 := by omega
    rw [List.map_cons, hstop, h.between, hone, List.range'_succ]
    rfl
  · intro d hd
    rcases List.mem_cons.mp hd with rfl | hd
    · exact hbound
    · exact hbounds d hd
  · rw [hnoted, ← List.singleton_append, ← List.append_assoc, ← w.delays_called]
    rfl

/-- **Each attempt that does not settle the operation is followed by a rest and the attempts that
are left.** -/
theorem disciplined_tryAgain (h : Unsettled n before w) {left : Nat}
    (hleft : w.calls + (left + 1) = n) (hlimit : w.calls ≤ 1024) :
    Disciplined operation n before w ((tryAgain operation Trial.call (left + 1) w.calls).run w)
      ((tryAgain operation Trial.call (left + 1) w.calls).stops w) := by
  -- An attempt is numbered by the calls before it, so there is a delay after the first 1024 calls.
  induction left generalizing w with
  | zero =>
    cases hsettles : settles w.next with
    | true =>
      obtain ⟨hrun, hstops⟩ := tryAgain_of_settles operation 0 w.calls hsettles
      rw [hrun, hstops]
      exact h.disciplined_of_settles (by omega) hlimit hsettles
    | false =>
      obtain ⟨f, hnext, hf⟩ := exists_of_not_settles hsettles
      obtain ⟨hrun, hstops⟩ := tryAgain_of_last operation w.calls hnext hf
      rw [h.config] at hrun
      rw [hrun, hstops]
      exact h.disciplined_of_last hleft hlimit hnext hsettles
  | succ left ih =>
    cases hsettles : settles w.next with
    | true =>
      obtain ⟨hrun, hstops⟩ := tryAgain_of_settles operation (left + 1) w.calls hsettles
      rw [hrun, hstops]
      exact h.disciplined_of_settles (by omega) hlimit hsettles
    | false =>
      obtain ⟨f, hnext, hf⟩ := exists_of_not_settles hsettles
      by_cases hattempt : w.calls < 1024
      · obtain ⟨delay, hdelay, hbound⟩ := retryDelay_of_lt n w.policy.draw hattempt
        rw [← h.config] at hdelay
        obtain ⟨clock, stop, hwaits, hstop, hrun, hstops⟩ :=
          tryAgain_of_delay operation left hnext hf hdelay
        rw [hrun, hstops]
        have hrest := ih (h.rested hsettles clock delay)
          (show w.calls + 1 + (left + 1) = n by omega) (show w.calls + 1 ≤ 1024 by omega)
        exact hrest.rested hwaits hstop hbound
      · have hdelay := retryDelay_of_le n w.policy.draw (Nat.not_lt.mp hattempt)
        rw [← h.config] at hdelay
        obtain ⟨hrun, hstops⟩ := tryAgain_of_overflow operation left hnext hf hdelay
        rw [hrun, hstops]
        have hcalls : w.calls + 1 = 1025 := by omega
        refine h.disciplined_of_called ?_
        rw [hcalls]
        refine .overflowed (by omega) (fun i hi => ?_)
        exact h.outcomes_called hsettles i (by omega)

theorem disciplined_fresh (operation : String) (clock : Clock) (stats : RetryStats)
    (draw : Number) (outcomes : Nat → Except Fault α) (left : Nat) :
    let w := Trial.fresh clock stats draw outcomes (left + 1)
    Disciplined operation (left + 1) stats w ((withRetry operation Trial.call).run w)
      ((withRetry operation Trial.call).stops w) :=
  disciplined_tryAgain (.fresh clock stats draw outcomes (left + 1))
    (show 0 + (left + 1) = left + 1 from Nat.zero_add _) (show 0 ≤ 1024 by decide)

/-- **An operation is called up to the first outcome that settles it, or as often as the policy
allows, and 1025 times at most without a result.**  It rests once between two calls and never longer
than the longest delay, and the statistics count each call once. -/
theorem disciplined_withRetry (operation : String) (clock : Clock) (stats : RetryStats)
    (draw : Number) (outcomes : Nat → Except Fault α) {n : Nat} (hn : 1 ≤ n) :
    let w := Trial.fresh clock stats draw outcomes n
    Disciplined operation n stats w ((withRetry operation Trial.call).run w)
      ((withRetry operation Trial.call).stops w) := by
  obtain ⟨left, rfl⟩ : ∃ left, n = left + 1 := ⟨n - 1, by omega⟩
  exact disciplined_fresh operation clock stats draw outcomes left

end Runs

/-! ### Examples -/

section Examples

/-- The store does not answer. -/
def unreachable : Fault := .storePersistence "load" "k" "down"

/-- An operation that succeeds when it is called for the second time. -/
def shaky (i : Nat) : Except Fault Nat := if i = 1 then .ok 7 else .error unreachable

/-- Three attempts at most, of which the second one succeeds. -/
theorem disciplined_shaky :
    let w := Trial.fresh ⟨0, 0, default⟩ .empty (.real 0.5) shaky 3
    1 ≤ 3 ∧ ((withRetry "state_load" Trial.call).run w).2.calls = 2 ∧
      Disciplined "state_load" 3 .empty w ((withRetry "state_load" Trial.call).run w)
        ((withRetry "state_load" Trial.call).stops w) :=
  ⟨by decide, by decide +kernel, disciplined_withRetry "state_load" ⟨0, 0, default⟩ .empty
    (.real 0.5) shaky (by decide)⟩

/-- A store that never answers is given 1100 attempts.  The operation is called 1025 times and never
given up, since the delay after the last of these calls is too large to compute. -/
theorem tooLarge_withRetry :
    let w := Trial.fresh ⟨0, 0, default⟩ .empty (.real 0.5)
      (fun _ => (.error unreachable : Except Fault Nat)) 1100
    let ended := (withRetry "operation" Trial.call).run w
    ended.1 = .error resultTooLarge ∧ ended.2.calls = 1025 ∧
      ended.1 ≠ .error (exhaustedFault "operation" 1100 (some unreachable)) := by
  intro w ended
  have h : Disciplined "operation" 1100 .empty w ended _ :=
    disciplined_fresh "operation" ⟨0, 0, default⟩ .empty (.real 0.5) _ 1099
  obtain ⟨givenUp, hverdict, -⟩ := h.verdict
  have hresult : ended.1 = .error resultTooLarge ∧ ended.2.calls = 1025 := by
    generalize ended.1 = result, ended.2.calls = calls at hverdict
    cases hverdict with
    | settled _ _ _ hsettles => exact absurd hsettles Bool.false_ne_true
    | exhausted hfew => exact absurd hfew (by decide)
    | overflowed => exact ⟨rfl, rfl⟩
  refine ⟨hresult.1, hresult.2, ?_⟩
  rw [hresult.1]
  exact fun heq => nomatch Except.error.inj heq

end Examples

end Recovery

end Parley
