import Parley.Proofs.Outcomes.Recent

/-!
# Parley.Proofs.Outcomes.Clocks — moments with an offset and moments without one

A moment with an offset cannot be compared with one without.  `onClock_recordCalls`: all outcomes that
a collector keeps of a tenant are of the kind of the first one that its window took, the tenant's clock
(`clockOf`).  An outcome that comes without a moment, at one around which the window cannot be laid, or
at one that does not go with the clock, is counted as dropped and changes nothing else
(`collector_of_calls`).  The first one is compared with nothing.  So a tenant can be set to moments
without an offset, and then nothing about it is answered any more, since the time of a question has
an offset.
-/

namespace Parley

namespace Time

/-- Moments of one kind can be compared. -/
theorem Moment.before_of_same {m m' : Moment} (h : m.isNaive = m'.isNaive) :
    ∃ early, m.before m' = .ok early := by
  unfold before order
  rw [if_pos h]
  exact ⟨_, rfl⟩

end Time

namespace Outcomes

open Time (Moment)

/-! ### Windows of one kind -/

section Windows

variable {α : Type} {size : WindowSize} {kept : List (Stamped α)} {e : Stamped α} {limit : Moment}

theorem evict_of_same (h : ∀ e ∈ kept, e.moment.isNaive = limit.isNaive) :
    ∃ left, evict limit kept = (.ok (), left) := by
  induction kept with
  | nil => exact ⟨[], rfl⟩
  | cons e kept ih =>
    obtain ⟨early, hbefore⟩ := Moment.before_of_same (h e List.mem_cons_self)
    rw [evict, hbefore]
    cases early with
    | true => exact ih fun e' he' => h e' (List.mem_cons_of_mem _ he')
    | false => exact ⟨e :: kept, rfl⟩

/-- What goes with a window is recorded. -/
theorem record_of_same (htakes : size.takes e.moment = true)
    (h : ∀ e' ∈ kept, e'.moment.isNaive = e.moment.isNaive) :
    ∃ left, left <:+ kept ∧ record size kept (some e.moment) e.value =
      (true, lastEntries size.entries.toNat (left ++ [e])) := by
  obtain ⟨limit, hcutoff, ⟨f, left, hevict, -⟩ | ⟨left, hevict, hrecord⟩⟩ := record_cases htakes kept
  · have hkind := isNaive_of_cutoff hcutoff
    obtain ⟨left', hdone⟩ := evict_of_same fun e' he' => (h e' he').trans hkind.symm
    exact nomatch (congrArg Prod.fst (hevict.symm.trans hdone))
  · have hleft := evict_suffix limit kept
    rw [hevict] at hleft
    exact ⟨left, hleft, hrecord⟩

/-- What does not go with a window is not recorded, and the window stays as it is. -/
theorem record_of_other (hsome : kept ≠ [])
    (h : ∀ e' ∈ kept, e'.moment.isNaive ≠ e.moment.isNaive) :
    record size kept (some e.moment) e.value = (false, kept) := by
  cases htakes : size.takes e.moment with
  | false => exact record_of_not_takes htakes kept
  | true =>
    obtain ⟨limit, hcutoff, hcases⟩ := record_cases htakes kept
    obtain ⟨first, rest, rfl⟩ := List.exists_cons_of_ne_nil hsome
    have hmixed : first.moment.isNaive ≠ limit.isNaive := by
      rw [isNaive_of_cutoff hcutoff]
      exact h first List.mem_cons_self
    have hevict : evict limit (first :: rest) = (.error .mixedClocks, first :: rest) := by
      rw [evict, Moment.before_of_mixed hmixed]
    rcases hcases with ⟨f, left, hleft, hrecord⟩ | ⟨left, hleft, -⟩
    · have hsame : first :: rest = left := congrArg Prod.snd (hevict.symm.trans hleft)
      rw [hrecord, hsame]
    · cases congrArg Prod.fst (hevict.symm.trans hleft)

end Windows

/-! ### Calls -/

/-- An outcome as it comes to be recorded, at a moment or without one. -/
structure Call where
  outcome : Outcome
  moment : Option Moment

/-- The call is the tenant's, and its window takes it. -/
def Call.isTaken (config : CollectorConfig) (tenant : String) (call : Call) : Bool :=
  call.outcome.tenantId = tenant && call.moment.any config.window.takes

/-- Whether the first call that a tenant's window took has a moment without an offset.  A window without
room keeps none. -/
def clockOf (config : CollectorConfig) (tenant : String) (calls : List Call) : Option Bool :=
  if config.maxEventsPerTenant = 0 then none
  else (calls.find? (Call.isTaken config tenant)).bind fun call => call.moment.map Moment.isNaive

/-- The call has a moment that the tenant's window takes, and that goes with the tenant's clock. -/
structure Comparable (config : CollectorConfig) (before : List Call) (call : Call) : Prop where
  taken : call.isTaken config call.outcome.tenantId = true
  clock : ∀ m naive, call.moment = some m →
    clockOf config call.outcome.tenantId before = some naive → m.isNaive = naive

/-- What is kept goes with the clock. -/
def OnClock : Option Bool → List (Stamped Outcome) → Prop
  | none, kept => kept = []
  | some naive, kept => kept ≠ [] ∧ ∀ e ∈ kept, e.moment.isNaive = naive

namespace Collector

def recordCall (c : Collector) (call : Call) : Collector :=
  c.recordOutcome call.outcome call.moment

/-- The collector after one call after the other. -/
def recordCalls (c : Collector) (calls : List Call) : Collector := calls.foldl recordCall c

/-- What recording a call comes to in the tenant's window. -/
def told (c : Collector) (call : Call) : Bool × List (Stamped Outcome) :=
  record c.config.window (c.kept call.outcome.tenantId) call.moment call.outcome

section Calls

variable {config : CollectorConfig} {c c' : Collector} {calls : List Call} {call : Call}
  {tenant : String}

theorem config_recordCalls (c : Collector) (calls : List Call) :
    (c.recordCalls calls).config = c.config := by
  induction calls generalizing c with
  | nil => rfl
  | cons call calls ih => exact ih (c.recordCall call)

theorem dropped_recordCall (c : Collector) (call : Call) :
    (c.recordCall call).dropped = c.countDropped (c.told call).1 := rfl

theorem kept_recordCall (c : Collector) (call : Call) (tenant : String) :
    (c.recordCall call).kept tenant =
      if call.outcome.tenantId = tenant then (c.told call).2 else c.kept tenant := by
  unfold kept recordCall recordOutcome
  dsimp only
  split_ifs with htenant
  · subst htenant
    rw [Table.get?_put_self]
    rfl
  · rw [Table.get?_put_of_ne _ _ (Ne.symm htenant)]

/-- What becomes of a tenant's window depends on that window alone. -/
theorem kept_recordCall_congr (hconfig : c.config = c'.config) (hkept : c.kept tenant = c'.kept tenant)
    (call : Call) : (c.recordCall call).kept tenant = (c'.recordCall call).kept tenant := by
  rw [kept_recordCall, kept_recordCall]
  split_ifs with htenant
  · unfold told
    rw [hconfig, htenant, hkept]
  · exact hkept

theorem recordCalls_append (c : Collector) (calls more : List Call) :
    c.recordCalls (calls ++ more) = (c.recordCalls calls).recordCalls more := List.foldl_append

theorem clockOf_concat (hroom : config.maxEventsPerTenant ≠ 0) (tenant : String)
    (calls : List Call) (call : Call) : clockOf config tenant (calls ++ [call]) =
      (clockOf config tenant calls).or
        (if call.isTaken config tenant then call.moment.map Moment.isNaive else none) := by
  unfold clockOf
  rw [if_neg hroom, if_neg hroom, List.find?_append]
  cases hfound : calls.find? (Call.isTaken config tenant) with
  | some first =>
    obtain ⟨m, hm⟩ : ∃ m, first.moment = some m := by
      have htaken := List.find?_some hfound
      cases hmoment : first.moment with
      | some m => exact ⟨m, rfl⟩
      | none => simp [Call.isTaken, hmoment] at htaken
    simp [hm]
  | none =>
    cases htaken : call.isTaken config tenant <;> simp [htaken]

theorem clockOf_concat_of_not_taken (h : call.isTaken config tenant = false) :
    clockOf config tenant (calls ++ [call]) = clockOf config tenant calls := by
  by_cases hroom : config.maxEventsPerTenant = 0
  · unfold clockOf
    rw [if_pos hroom, if_pos hroom]
  · rw [clockOf_concat hroom, h]
    exact Option.or_none

/-- A call that a window takes has a moment around which the window can be laid. -/
theorem exists_of_isTaken (h : call.isTaken config tenant = true) :
    call.outcome.tenantId = tenant ∧ ∃ m, call.moment = some m ∧ config.window.takes m = true := by
  obtain ⟨htenant, hmoment⟩ := Bool.and_eq_true_iff.mp h
  refine ⟨of_decide_eq_true htenant, ?_⟩
  cases hm : call.moment with
  | none => simp [hm] at hmoment
  | some m => exact ⟨m, rfl, by simpa [hm] using hmoment⟩

/-- A call that no window takes changes nothing of what is kept. -/
theorem told_of_not_taken (h : call.isTaken c.config call.outcome.tenantId = false) :
    c.told call = (false, c.kept call.outcome.tenantId) := by
  unfold told
  cases hm : call.moment with
  | none =>
    unfold record
    split_ifs <;> rfl
  | some m =>
    have htakes : c.config.window.takes m = false := by simpa [Call.isTaken, hm] using h
    exact record_of_not_takes (e := ⟨m, call.outcome⟩) htakes _

/-- A call that goes with what is kept is recorded behind it. -/
theorem told_of_same {m : Moment} (hm : call.moment = some m)
    (htakes : c.config.window.takes m = true)
    (h : ∀ e ∈ c.kept call.outcome.tenantId, e.moment.isNaive = m.isNaive) :
    ∃ left, left <:+ c.kept call.outcome.tenantId ∧ c.told call =
      (true, lastEntries c.config.maxEventsPerTenant.toNat (left ++ [⟨m, call.outcome⟩])) := by
  unfold told
  rw [hm]
  exact record_of_same (e := ⟨m, call.outcome⟩) htakes h

theorem told_of_other {m : Moment} (hm : call.moment = some m)
    (hsome : c.kept call.outcome.tenantId ≠ [])
    (h : ∀ e ∈ c.kept call.outcome.tenantId, e.moment.isNaive ≠ m.isNaive) :
    c.told call = (false, c.kept call.outcome.tenantId) := by
  unfold told
  rw [hm]
  exact record_of_other (e := ⟨m, call.outcome⟩) hsome h

/-- A call that a window takes and that cannot be compared is at odds with the clock. -/
theorem exists_clash {m : Moment} (h : ¬ Comparable config calls call)
    (htaken : call.isTaken config call.outcome.tenantId = true) (hm : call.moment = some m) :
    ∃ naive, clockOf config call.outcome.tenantId calls = some naive ∧ m.isNaive ≠ naive := by
  by_contra hnone
  refine h ⟨htaken, fun m' naive hm' hclock => ?_⟩
  obtain rfl := Option.some.inj (hm.symm.trans hm')
  by_contra hne
  exact hnone ⟨naive, hclock, hne⟩

/-- A call that cannot be compared is not recorded, and its tenant's window stays as it is. -/
theorem told_of_not_comparable (hconfig : c.config = config)
    (hclock : OnClock (clockOf config call.outcome.tenantId calls) (c.kept call.outcome.tenantId))
    (h : ¬ Comparable config calls call) :
    c.told call = (false, c.kept call.outcome.tenantId) := by
  subst hconfig
  cases htaken : call.isTaken c.config call.outcome.tenantId with
  | false => exact told_of_not_taken htaken
  | true =>
    obtain ⟨-, m, hm, -⟩ := exists_of_isTaken htaken
    obtain ⟨naive, hnaive, hne⟩ := exists_clash h htaken hm
    rw [hnaive] at hclock
    refine told_of_other hm hclock.1 fun e he => ?_
    rw [hclock.2 e he]
    exact hne.symm

theorem clockOf_concat_of_not_comparable (h : ¬ Comparable config calls call) :
    clockOf config call.outcome.tenantId (calls ++ [call]) =
      clockOf config call.outcome.tenantId calls := by
  cases htaken : call.isTaken config call.outcome.tenantId with
  | false => exact clockOf_concat_of_not_taken htaken
  | true =>
    obtain ⟨-, m, hm, -⟩ := exists_of_isTaken htaken
    obtain ⟨naive, hnaive, -⟩ := exists_clash h htaken hm
    have hroom : config.maxEventsPerTenant ≠ 0 := by
      intro hroom
      unfold clockOf at hnaive
      rw [if_pos hroom] at hnaive
      exact nomatch hnaive
    rw [clockOf_concat hroom, hnaive]
    rfl

/-- A call that can be compared is recorded. -/
theorem told_of_comparable (hconfig : c.config = config)
    (hclock : OnClock (clockOf config call.outcome.tenantId calls) (c.kept call.outcome.tenantId))
    (h : Comparable config calls call) :
    ∃ m left, call.moment = some m ∧ left <:+ c.kept call.outcome.tenantId ∧ c.told call =
      (true, lastEntries config.maxEventsPerTenant.toNat (left ++ [⟨m, call.outcome⟩])) := by
  subst hconfig
  obtain ⟨-, m, hm, htakes⟩ := exists_of_isTaken h.taken
  have hsame : ∀ e ∈ c.kept call.outcome.tenantId, e.moment.isNaive = m.isNaive := by
    intro e he
    cases hk : clockOf c.config call.outcome.tenantId calls with
    | none =>
      rw [hk] at hclock
      have hempty : c.kept call.outcome.tenantId = [] := hclock
      rw [hempty] at he
      exact absurd he List.not_mem_nil
    | some naive =>
      rw [hk] at hclock
      exact (hclock.2 e he).trans (h.clock m naive hm hk).symm
  obtain ⟨left, hleft, htold⟩ := told_of_same hm htakes hsame
  exact ⟨m, left, hm, hleft, htold⟩

/-- What is recorded goes with the clock. -/
theorem onClock_of_comparable (hconfig : c.config = config)
    (hclock : OnClock (clockOf config call.outcome.tenantId calls) (c.kept call.outcome.tenantId))
    (h : Comparable config calls call) :
    OnClock (clockOf config call.outcome.tenantId (calls ++ [call])) (c.told call).2 := by
  obtain ⟨m, left, hm, hleft, htold⟩ := told_of_comparable hconfig hclock h
  obtain ⟨-, m', hm', htakes⟩ := exists_of_isTaken h.taken
  obtain rfl := Option.some.inj (hm.symm.trans hm')
  have hentries : 0 ≤ config.maxEventsPerTenant :=
    of_decide_eq_true (Bool.and_eq_true_iff.mp htakes).1
  rw [htold]
  by_cases hroom : config.maxEventsPerTenant = 0
  · unfold clockOf
    rw [if_pos hroom, hroom]
    exact List.drop_length
  · rw [clockOf_concat hroom, h.taken, hm, lastEntries_concat (by omega)]
    have hkind (naive : Bool) (hold : ∀ e ∈ c.kept call.outcome.tenantId, e.moment.isNaive = naive)
        (hnew : m.isNaive = naive) :
        ∀ e ∈ lastEntries (config.maxEventsPerTenant.toNat - 1) left ++ [⟨m, call.outcome⟩],
          e.moment.isNaive = naive := by
      intro e he
      rcases List.mem_append.mp he with he | he
      · exact hold e (hleft.subset (mem_of_mem_lastEntries he))
      · rw [List.mem_singleton.mp he]
        exact hnew
    have hsome : lastEntries (config.maxEventsPerTenant.toNat - 1) left ++
        [(⟨m, call.outcome⟩ : Stamped Outcome)] ≠ [] := List.append_ne_nil_of_right_ne_nil _ (by simp)
    cases hk : clockOf config call.outcome.tenantId calls with
    | none =>
      rw [hk] at hclock
      have hempty : c.kept call.outcome.tenantId = [] := hclock
      refine ⟨hsome, hkind m.isNaive (fun e he => ?_) rfl⟩
      rw [hempty] at he
      exact absurd he List.not_mem_nil
    | some naive =>
      rw [hk] at hclock
      exact ⟨hsome, hkind naive hclock.2 (h.clock m naive hm hk)⟩

/-- **All that is kept of a tenant goes with its clock.** -/
theorem onClock_recordCalls (config : CollectorConfig) (calls : List Call) (tenant : String) :
    OnClock (clockOf config tenant calls) (((new config).recordCalls calls).kept tenant) := by
  induction calls using List.reverseRecOn with
  | nil =>
    have hnone : clockOf config tenant [] = none := by
      unfold clockOf
      split_ifs <;> rfl
    rw [hnone]
    rfl
  | append_singleton calls call ih =>
    have hconfig : ((new config).recordCalls calls).config = config := config_recordCalls _ _
    rw [recordCalls_append]
    show OnClock _ ((recordCall _ call).kept tenant)
    rw [kept_recordCall]
    split_ifs with htenant
    · subst htenant
      by_cases h : Comparable config calls call
      · exact onClock_of_comparable hconfig ih h
      · rw [told_of_not_comparable hconfig ih h, clockOf_concat_of_not_comparable h]
        exact ih
    · have hnot : call.isTaken config tenant = false := by simp [Call.isTaken, htenant]
      rw [clockOf_concat_of_not_taken hnot]
      exact ih

/-! ### What is dropped has no effect -/

/-- The collectors keep the same, and one of them has dropped so many more. -/
structure Ahead (n : Nat) (c c' : Collector) : Prop where
  config : c.config = c'.config
  kept : ∀ tenant, c.kept tenant = c'.kept tenant
  dropped : c.dropped = c'.dropped + n

/-- Every question has the same answer. -/
structure SameAnswers (c c' : Collector) : Prop where
  events : ∀ now tenant f, c.events now tenant f = c'.events now tenant f
  aggregated : ∀ now tenant f, c.aggregated now tenant f = c'.aggregated now tenant f
  live : ∀ now tenant templateId, c.live now tenant templateId = c'.live now tenant templateId
  performance : ∀ now tenant templateId,
    c.performance now tenant templateId = c'.performance now tenant templateId
  compare : ∀ now tenant templateId, c.compare now tenant templateId = c'.compare now tenant templateId

section Ahead

variable {n : Nat}

/-- A call is recorded in both or in none. -/
theorem Ahead.recordCall (h : Ahead n c c') (call : Call) :
    Ahead n (c.recordCall call) (c'.recordCall call) := by
  have htold : c.told call = c'.told call := by
    unfold told
    rw [h.config, h.kept]
  refine ⟨h.config, fun tenant => ?_, ?_⟩
  · rw [kept_recordCall, kept_recordCall, htold, h.kept]
  · have hdropped := h.dropped
    rw [dropped_recordCall, dropped_recordCall, htold]
    unfold countDropped
    split_ifs <;> omega

theorem Ahead.recordCalls (h : Ahead n c c') (calls : List Call) :
    Ahead n (c.recordCalls calls) (c'.recordCalls calls) := by
  induction calls generalizing c c' with
  | nil => exact h
  | cons call calls ih => exact ih (h.recordCall call)

theorem Ahead.sameAnswers (h : Ahead n c c') : SameAnswers c c' := by
  have hevents : ∀ now tenant f, c.events now tenant f = c'.events now tenant f := by
    intro now tenant f
    have hkept : (c.outcomes.get? tenant).getD [] = (c'.outcomes.get? tenant).getD [] :=
      h.kept tenant
    unfold Collector.events
    rw [h.config, hkept]
  have haggregated : ∀ now tenant f, c.aggregated now tenant f = c'.aggregated now tenant f := by
    intro now tenant f
    unfold Collector.aggregated
    rw [hevents]
  refine ⟨hevents, haggregated, fun now tenant templateId => ?_, fun now tenant templateId => ?_,
    fun now tenant templateId => ?_⟩
  · unfold Collector.live
    rw [hevents]
  · unfold Collector.performance
    rw [haggregated, h.config]
  · unfold Collector.compare
    simp only [haggregated]

end Ahead

/-- A call that cannot be compared is counted as dropped, and that is all. -/
theorem ahead_of_not_comparable (h : ¬ Comparable config calls call) :
    Ahead 1 (((new config).recordCalls calls).recordCall call) ((new config).recordCalls calls) := by
  have hconfig : ((new config).recordCalls calls).config = config := config_recordCalls _ _
  have htold := told_of_not_comparable hconfig (onClock_recordCalls config calls _) h
  refine ⟨rfl, fun tenant => ?_, ?_⟩
  · rw [kept_recordCall, htold]
    split_ifs with htenant
    · rw [htenant]
    · rfl
  · rw [dropped_recordCall, htold]
    rfl

/-! ### Questions that are answered -/

/-- A question that is asked at a moment with an offset can be answered: the window can be laid around
that moment, the given start has an offset, the tenant's clock is not one without, and a finish
without an offset is compared with nothing. -/
structure WellPut (config : CollectorConfig) (calls : List Call) (now : Moment) (tenant : String)
    (f : Filter) : Prop where
  dated : ∃ windowStart, cutoff config.windowSeconds now = .ok windowStart
  start : ∀ s, f.start = some s → s.isNaive = false
  clock : clockOf config tenant calls ≠ some true
  finish : ∀ s, f.finish = some s → s.isNaive = true →
    ∀ windowStart, cutoff config.windowSeconds now = .ok windowStart →
      ∀ e ∈ ((new config).recordCalls calls).kept tenant, ¬ Started f windowStart e

section Questions

variable {now windowStart : Moment} {f : Filter}

/-- Of outcomes at moments without an offset nothing is told. -/
theorem events_of_naive (hcutoff : cutoff c.config.windowSeconds now = .ok windowStart)
    (hnow : now.isNaive = false) (hstart : ∀ s, f.start = some s → s.isNaive = false)
    (hsome : c.kept tenant ≠ []) (hkept : ∀ e ∈ c.kept tenant, e.moment.isNaive = true) :
    c.events now tenant f = .error .mixedClocks := by
  have hwindow : windowStart.isNaive = false := (isNaive_of_cutoff hcutoff).trans hnow
  obtain ⟨lower, hlower, haware, -⟩ := lowerBound_of_aware hwindow hstart
  rw [events_of_cutoff hcutoff, hlower]
  refine filterM_eq_error (p := fun _ => true) (fun e he => ?_) ?_
  · have hmixed : e.moment.isNaive ≠ lower.isNaive := by
      rw [hkept e he, haware]
      exact Bool.false_ne_true.symm
    unfold selects
    rw [Moment.before_of_mixed hmixed]
    rfl
  · obtain ⟨e, he⟩ := List.exists_mem_of_ne_nil _ hsome
    exact ⟨e, he, rfl⟩

theorem isNaive_of_clock (hclock : clockOf config tenant calls ≠ some true) {e : Stamped Outcome}
    (he : e ∈ ((new config).recordCalls calls).kept tenant) : e.moment.isNaive = false := by
  have hkept := onClock_recordCalls config calls tenant
  cases hk : clockOf config tenant calls with
  | none =>
    rw [hk] at hkept
    rw [show ((new config).recordCalls calls).kept tenant = [] from hkept] at he
    exact absurd he List.not_mem_nil
  | some naive =>
    rw [hk] at hkept hclock
    rw [hkept.2 e he]
    exact Bool.eq_false_iff.mpr fun hnaive => hclock (congrArg some hnaive)

/-- **The questions that are answered are those that are well put.** -/
theorem events_ok_iff (hnow : now.isNaive = false) :
    (∃ events, ((new config).recordCalls calls).events now tenant f = .ok events) ↔
      WellPut config calls now tenant f := by
  have hwindow : ((new config).recordCalls calls).config.windowSeconds = config.windowSeconds :=
    congrArg CollectorConfig.windowSeconds (config_recordCalls _ _)
  have hfails {g : Fault} (h : ((new config).recordCalls calls).events now tenant f = .error g) :
      ¬ ∃ events, ((new config).recordCalls calls).events now tenant f = .ok events := by
    rintro ⟨events, hevents⟩
    exact nomatch h.symm.trans hevents
  constructor
  · intro hanswer
    obtain ⟨windowStart, hcutoff, -⟩ := exceptBind_eq_ok.mp hanswer.choose_spec
    have hstart : ∀ s, f.start = some s → s.isNaive = false := by
      intro s hs
      refine Bool.eq_false_iff.mpr fun hnaive => ?_
      exact hfails (events_of_naive_start hcutoff hnow hs hnaive) hanswer
    have hclock : clockOf config tenant calls ≠ some true := by
      intro hnaive
      have hkept := onClock_recordCalls config calls tenant
      rw [hnaive] at hkept
      exact hfails (events_of_naive hcutoff hnow hstart hkept.1 hkept.2) hanswer
    refine ⟨⟨windowStart, hwindow ▸ hcutoff⟩, hstart, hclock, ?_⟩
    intro finish hfinish hnaive windowStart' hcutoff' e he hs
    refine hfails (g := .mixedClocks) ?_ hanswer
    rw [← hwindow] at hcutoff'
    rw [events_of_naive_finish hcutoff' hnow (fun e he => isNaive_of_clock hclock he) hstart hfinish
      hnaive]
    exact if_pos ⟨e, he, hs⟩
  · intro h
    obtain ⟨windowStart, hcutoff⟩ := h.dated
    have hown := hcutoff
    rw [← hwindow] at hown
    have hkept : ∀ e ∈ ((new config).recordCalls calls).kept tenant, e.moment.isNaive = false :=
      fun e he => isNaive_of_clock h.clock he
    by_cases hfinish : ∃ finish, f.finish = some finish ∧ finish.isNaive = true
    · obtain ⟨finish, hfinish, hnaive⟩ := hfinish
      refine ⟨[], ?_⟩
      rw [events_of_naive_finish hown hnow hkept h.start hfinish hnaive]
      refine if_neg ?_
      rintro ⟨e, he, hs⟩
      exact h.finish finish hfinish hnaive windowStart hcutoff e he hs
    · have haware : f.Aware := by
        refine ⟨h.start, fun s hs => Bool.eq_false_iff.mpr fun hnaive => ?_⟩
        exact hfinish ⟨s, hs, hnaive⟩
      exact ⟨_, events_of_aware hown hnow hkept haware⟩

theorem aggregated_ok_iff (c : Collector) (now : Moment) (tenant : String) (f : Filter) :
    (∃ a, c.aggregated now tenant f = .ok a) ↔ ∃ events, c.events now tenant f = .ok events := by
  unfold Collector.aggregated
  cases c.events now tenant f with
  | ok events => exact ⟨fun _ => ⟨_, rfl⟩, fun _ => ⟨_, rfl⟩⟩
  | error g => exact ⟨fun ⟨_, h⟩ => (nomatch h), fun ⟨_, h⟩ => (nomatch h)⟩

/-- Figures about a template are given if its outcomes can be listed, and the other way round. -/
theorem live_ok_iff (c : Collector) (now : Moment) (tenant templateId : String) :
    (∃ rates, c.live now tenant templateId = .ok rates) ↔
      ∃ events, c.events now tenant { Filter.everything with templateId := some templateId } =
        .ok events := by
  unfold Collector.live
  cases c.events now tenant { Filter.everything with templateId := some templateId } with
  | ok events => exact ⟨fun _ => ⟨_, rfl⟩, fun _ => ⟨_, rfl⟩⟩
  | error g => exact ⟨fun ⟨_, h⟩ => (nomatch h), fun ⟨_, h⟩ => (nomatch h)⟩

theorem performance_ok_iff (c : Collector) (now : Moment) (tenant templateId : String) :
    (∃ found, c.performance now tenant templateId = .ok found) ↔
      ∃ events, c.events now tenant { Filter.everything with templateId := some templateId } =
        .ok events := by
  rw [← aggregated_ok_iff]
  unfold Collector.performance
  cases c.aggregated now tenant { Filter.everything with templateId := some templateId } with
  | ok a =>
    refine ⟨fun _ => ⟨_, rfl⟩, fun _ => ?_⟩
    show ∃ found, (if Number.less (.int a.count) c.config.minSamples then _ else _) = _
    split_ifs <;> exact ⟨_, rfl⟩
  | error g => exact ⟨fun ⟨_, h⟩ => (nomatch h), fun ⟨_, h⟩ => (nomatch h)⟩

end Questions

/-- **What a collector makes of any sequence of calls.**  A call that can be compared with what went
before is recorded behind it.  Any other call is counted as dropped, and no later call or question shows
that it was made.  A question at a moment with an offset is answered just if it is well put. -/
theorem collector_of_calls (config : CollectorConfig) (calls more : List Call) (call : Call)
    (tenant : String) {now : Moment} (hnow : now.isNaive = false) :
    let c := (new config).recordCalls calls
    (Comparable config calls call → (c.recordCall call).dropped = c.dropped ∧
        ∃ m left, call.moment = some m ∧ left <:+ c.kept call.outcome.tenantId ∧
          (c.recordCall call).kept call.outcome.tenantId =
            lastEntries config.maxEventsPerTenant.toNat (left ++ [⟨m, call.outcome⟩])) ∧
      (¬ Comparable config calls call →
        ((new config).recordCalls (calls ++ call :: more)).dropped =
            ((new config).recordCalls (calls ++ more)).dropped + 1 ∧
          SameAnswers ((new config).recordCalls (calls ++ call :: more))
            ((new config).recordCalls (calls ++ more))) ∧
      (∀ f, (∃ a, c.aggregated now tenant f = .ok a) ↔ WellPut config calls now tenant f) ∧
      ∀ templateId,
        let f := { Filter.everything with templateId := some templateId }
        ((∃ rates, c.live now tenant templateId = .ok rates) ↔ WellPut config calls now tenant f) ∧
          ((∃ found, c.performance now tenant templateId = .ok found) ↔
            WellPut config calls now tenant f) := by
  intro c
  have hconfig : c.config = config := config_recordCalls _ _
  refine ⟨fun h => ?_, fun h => ?_, fun f => ?_, fun templateId => ⟨?_, ?_⟩⟩
  · obtain ⟨m, left, hm, hleft, htold⟩ :=
      told_of_comparable hconfig (onClock_recordCalls config calls _) h
    refine ⟨?_, m, left, hm, hleft, ?_⟩
    · rw [dropped_recordCall, htold]
      rfl
    · rw [kept_recordCall, if_pos rfl, htold]
  · have hahead := (ahead_of_not_comparable h).recordCalls more
    rw [recordCalls_append, recordCalls_append]
    exact ⟨hahead.dropped, hahead.sameAnswers⟩
  · rw [aggregated_ok_iff]
    exact events_ok_iff hnow
  · rw [live_ok_iff]
    exact events_ok_iff hnow
  · rw [performance_ok_iff]
    exact events_ok_iff hnow

end Calls

/-! ### A clock without an offset -/

section Examples

/-- A greeting of a tenant some minutes before noon, at a moment with or without an offset. -/
def greetedBy (offset : Option Int) (minutes : Int) : Call :=
  ⟨(greeted "acme" minutes).value, some { (greeted "acme" minutes).moment with offset := offset }⟩

/-- A greeting at a moment without an offset does not go with one at a moment that has one. -/
theorem collector_of_calls_greetings :
    let c := (new (windowOf 3600)).recordCalls [greetedBy (some 0) 20]
    noon.isNaive = false ∧ (c.recordCall (greetedBy none 10)).dropped = c.dropped + 1 ∧
      ∃ a, c.aggregated noon "acme" .everything = .ok a := by
  have hnow : noon.isNaive = false := rfl
  have h := collector_of_calls (windowOf 3600) [greetedBy (some 0) 20] [] (greetedBy none 10) "acme" hnow
  have hclock : clockOf (windowOf 3600) "acme" [greetedBy (some 0) 20] = some false := by
    decide +kernel
  have hnot : ¬ Comparable (windowOf 3600) [greetedBy (some 0) 20] (greetedBy none 10) :=
    fun hcomparable => nomatch hcomparable.clock _ false rfl hclock
  refine ⟨hnow, (h.2.1 hnot).1, (h.2.2.1 .everything).mpr ⟨⟨_, rfl⟩, fun s hs => (nomatch hs), ?_,
    fun s hs => (nomatch hs)⟩⟩
  rw [hclock]
  exact fun heq => nomatch heq

/-- **A clock without an offset.**  The first greeting is at a moment without an offset, and recorded.  The
next one is at a moment that has one; it is dropped, and nothing about the tenant is answered.  Nor
is a question with a start without an offset, whatever was recorded. -/
theorem unanswered_of_naive :
    let c := (new (windowOf 3600)).recordCalls [greetedBy none 20]
    let c' := (new (windowOf 3600)).recordCalls [greetedBy (some 0) 20]
    c.dropped = 0 ∧ (c.recordCall (greetedBy (some 0) 10)).dropped = 1 ∧
      c.aggregated noon "acme" .everything = .error .mixedClocks ∧
      c.live noon "acme" "greeting" = .error .mixedClocks ∧
      c.performance noon "acme" "greeting" = .error .mixedClocks ∧
      c'.aggregated noon "acme" { Filter.everything with start := some { noon with offset := none } } =
        .error .mixedClocks :=
  ⟨rfl, rfl, rfl, rfl, rfl, rfl⟩

end Examples

end Collector

end Outcomes

end Parley
