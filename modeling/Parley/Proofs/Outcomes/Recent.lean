import Parley.Outcomes.Collector
import Parley.Proofs.Outcomes.Window

/-!
# Parley.Proofs.Outcomes.Recent — what a collector answers about the latest outcomes

A collector has a window for each tenant.  It lists those of the latest outcomes that a question is
about: `Wanted` says which they are.  `events_of_recordAll`: whatever was recorded, at moments in any
order, a later question is answered with the wanted ones among the latest outcomes of the tenant, as
many as there is room for, in the order of their recording.

A window can be so long that its start has no date.  An outcome is not recorded if this is so at its
own moment, and a question is not answered if it is so when it is asked (`unlisted_of_undated`).

A comparison of the paths divides up the outcomes that a question without a path is answered with
(`compare_of_events`), and so their figures add up (`adds_paths`).
-/

namespace Parley.Outcomes

open Time (Moment)

/-! ### Filters that may fail -/

section FilterM

variable {α : Type} {g : α → Except Fault Bool} {p : α → Bool} {xs : List α} {f : Fault}

theorem filterM_eq_ok (h : ∀ x ∈ xs, g x = .ok (p x)) : xs.filterM g = .ok (xs.filter p) := by
  have haux (found : List α) : xs.filterAuxM g found = .ok ((xs.filter p).reverse ++ found) := by
    induction xs generalizing found with
    | nil => rfl
    | cons x xs ih =>
      rw [List.filterAuxM, h x List.mem_cons_self]
      simp only [bind, Except.bind]
      rw [ih fun y hy => h y (List.mem_cons_of_mem _ hy)]
      cases hx : p x <;> simp [hx]
  unfold List.filterM
  rw [haux]
  show Except.ok _ = _
  rw [List.append_nil, List.reverse_reverse]

/-- A filter that picks from what another one takes, and fails where that one does. -/
theorem filterM_map_and (p : α → Bool) (g : α → Except Fault Bool) (xs : List α) :
    (xs.filterM fun x => (g x).map (· && p x)) = (xs.filterM g).map (List.filter p) := by
  have haux (found : List α) : (xs.filterAuxM (fun x => (g x).map (· && p x)) (found.filter p)) =
      (xs.filterAuxM g found).map (List.filter p) := by
    induction xs generalizing found with
    | nil => rfl
    | cons x xs ih =>
      rw [List.filterAuxM, List.filterAuxM]
      cases hx : g x with
      | error f => rfl
      | ok taken =>
        have hpicked : (bif taken then x :: found else found).filter p =
            bif taken && p x then x :: found.filter p else found.filter p := by
          cases taken <;> cases hp : p x <;> simp [hp]
        have hnext := ih (bif taken then x :: found else found)
        rw [hpicked] at hnext
        exact hnext
  have hstart := haux []
  unfold List.filterM
  rw [List.filter_nil] at hstart
  rw [hstart]
  cases xs.filterAuxM g [] with
  | error f => rfl
  | ok found =>
    show Except.ok (found.filter p).reverse = Except.ok (found.reverse.filter p)
    rw [List.filter_reverse]

/-- A filter that takes nothing and fails for some of the items. -/
theorem filterM_eq_error (h : ∀ x ∈ xs, g x = if p x then .error f else .ok false)
    (hany : ∃ x ∈ xs, p x = true) : xs.filterM g = .error f := by
  have haux (found : List α) : xs.filterAuxM g found = .error f := by
    induction xs generalizing found with
    | nil =>
      obtain ⟨x, hx, -⟩ := hany
      exact absurd hx List.not_mem_nil
    | cons x xs ih =>
      rw [List.filterAuxM, h x List.mem_cons_self]
      cases hx : p x with
      | true => rfl
      | false =>
        obtain ⟨y, hy, hpy⟩ := hany
        have hlater : ∃ x ∈ xs, p x = true := by
          rcases List.mem_cons.mp hy with rfl | hy
          · exact nomatch hx.symm.trans hpy
          · exact ⟨y, hy, hpy⟩
        exact ih (fun y hy => h y (List.mem_cons_of_mem _ hy)) hlater _
  unfold List.filterM
  rw [haux]
  rfl

end FilterM

/-! ### Questions -/

/-- What a question is about: outcomes in the window and between the bounds, of the paths and the
template that are asked for. -/
structure Wanted (f : Filter) (windowStart : Moment) (e : Stamped Outcome) : Prop where
  inWindow : windowStart.instant ≤ e.moment.instant
  notBefore : ∀ s, f.start = some s → s.instant ≤ e.moment.instant
  notAfter : ∀ s, f.finish = some s → e.moment.instant ≤ s.instant
  path : ∀ p, f.path = some p → e.value.path = p
  template : ∀ id, f.templateId = some id → id ≠ "" → e.value.templateId = id
  routed : ∀ p, f.routed = some p → e.value.routed = p

/-- The bounds have an offset. -/
def Filter.Aware (f : Filter) : Prop :=
  (∀ s, f.start = some s → s.isNaive = false) ∧ ∀ s, f.finish = some s → s.isNaive = false

/-- The event is in the window and does not come before the start that is asked for. -/
def Started (f : Filter) (windowStart : Moment) (e : Stamped Outcome) : Prop :=
  windowStart.instant ≤ e.moment.instant ∧ ∀ s, f.start = some s → s.instant ≤ e.moment.instant

section Questions

variable {f : Filter} {windowStart lower : Moment} {e : Stamped Outcome} {o : Outcome}

theorem fits_iff : f.fits o = true ↔ (∀ p, f.path = some p → o.path = p) ∧
    (∀ id, f.templateId = some id → id ≠ "" → o.templateId = id) ∧
    ∀ p, f.routed = some p → o.routed = p := by
  unfold Filter.fits
  rw [Bool.and_eq_true, Bool.and_eq_true, and_assoc]
  refine and_congr ?_ (and_congr ?_ ?_)
  · cases f.path <;> simp [eq_comm]
  · cases f.templateId with
    | none => simp
    | some id =>
      by_cases hempty : id = ""
      · simp [hempty]
      · simpa [hempty] using eq_comm
  · cases f.routed <;> simp [eq_comm]

theorem wanted_iff : Wanted f windowStart e ↔ Started f windowStart e ∧
    (∀ s, f.finish = some s → e.moment.instant ≤ s.instant) ∧ f.fits e.value = true := by
  rw [fits_iff]
  exact ⟨fun h => ⟨⟨h.inWindow, h.notBefore⟩, h.notAfter, h.path, h.template, h.routed⟩,
    fun ⟨⟨hwindow, hstart⟩, hfinish, hpath, htemplate, hrouted⟩ =>
      ⟨hwindow, hstart, hfinish, hpath, htemplate, hrouted⟩⟩

instance : DecidablePred (Started f windowStart) := fun e =>
  decidable_of_iff (windowStart.instant ≤ e.moment.instant ∧
    f.start.all (fun s => decide (s.instant ≤ e.moment.instant)) = true) (by
      unfold Started
      cases f.start <;> simp)

instance : DecidablePred (Wanted f windowStart) := fun e =>
  decidable_of_iff (Started f windowStart e ∧
    f.finish.all (fun s => decide (e.moment.instant ≤ s.instant)) = true ∧ f.fits e.value = true) (by
      rw [wanted_iff]
      cases f.finish <;> simp)

/-- The lower bound is the later one of the two starts. -/
theorem lowerBound_of_aware (hwindow : windowStart.isNaive = false)
    (hstart : ∀ s, f.start = some s → s.isNaive = false) :
    ∃ lower, Collector.lowerBound windowStart f.start = .ok lower ∧ lower.isNaive = false ∧
      ∀ e : Stamped Outcome, Started f windowStart e ↔ lower.instant ≤ e.moment.instant := by
  unfold Collector.lowerBound Started
  cases hs : f.start with
  | none => exact ⟨windowStart, rfl, hwindow, fun e => by simp⟩
  | some s =>
    have hbefore := Moment.before_of_aware (hstart s hs) hwindow
    by_cases hearly : s.instant < windowStart.instant
    · refine ⟨windowStart, ?_, hwindow, fun e => ?_⟩
      · simp [hbefore, hearly, bind, Except.bind]
      · simp only [Option.some.injEq, forall_eq']
        omega
    · refine ⟨s, ?_, hstart s hs, fun e => ?_⟩
      · simp [hbefore, hearly, bind, Except.bind]
      · simp only [Option.some.injEq, forall_eq']
        omega

theorem lowerBound_of_naive {s : Moment} (hwindow : windowStart.isNaive = false)
    (hs : f.start = some s) (hnaive : s.isNaive = true) :
    Collector.lowerBound windowStart f.start = .error .mixedClocks := by
  have hmixed : s.isNaive ≠ windowStart.isNaive := by
    rw [hnaive, hwindow]
    exact Bool.false_ne_true.symm
  unfold Collector.lowerBound
  rw [hs]
  simp only [Moment.before_of_mixed hmixed, bind, Except.bind]

section Selects

variable (hlower : lower.isNaive = false) (he : e.moment.isNaive = false)
  (hstarted : Started f windowStart e ↔ lower.instant ≤ e.moment.instant)
include hlower he hstarted

theorem selects_of_not_started (h : ¬ Started f windowStart e) :
    Collector.selects f lower e = .ok false := by
  have hearly : e.moment.instant < lower.instant := by
    rw [hstarted] at h
    omega
  unfold Collector.selects
  rw [Moment.before_of_aware he hlower, decide_eq_true hearly]
  rfl

theorem before_of_started (h : Started f windowStart e) : e.moment.before lower = .ok false := by
  have hlate : ¬ e.moment.instant < lower.instant := by
    rw [hstarted] at h
    omega
  rw [Moment.before_of_aware he hlower, decide_eq_false hlate]

theorem selects_of_aware (hfinish : ∀ s, f.finish = some s → s.isNaive = false) :
    Collector.selects f lower e = .ok (decide (Wanted f windowStart e)) := by
  by_cases hs : Started f windowStart e
  · unfold Collector.selects
    rw [before_of_started hlower he hstarted hs]
    simp only [wanted_iff, hs, true_and, bind, Except.bind, Bool.false_eq_true, if_false]
    cases hf : f.finish with
    | none => simp
    | some finish =>
      simp only [Moment.before_of_aware (hfinish finish hf) he, Option.some.injEq, forall_eq']
      by_cases hlate : finish.instant < e.moment.instant
      · simp [hlate, Int.not_le.mpr hlate]
      · simp [hlate, Int.not_lt.mp hlate]
  · have hnot : ¬ Wanted f windowStart e := fun h => hs ⟨h.inWindow, h.notBefore⟩
    rw [selects_of_not_started hlower he hstarted hs, decide_eq_false hnot]

/-- A finish without an offset can be compared with no event. -/
theorem selects_of_naive {finish : Moment} (hfinish : f.finish = some finish)
    (hnaive : finish.isNaive = true) : Collector.selects f lower e =
      if decide (Started f windowStart e) then .error .mixedClocks else .ok false := by
  by_cases hs : Started f windowStart e
  · have hmixed : finish.isNaive ≠ e.moment.isNaive := by
      rw [hnaive, he]
      exact Bool.false_ne_true.symm
    unfold Collector.selects
    rw [before_of_started hlower he hstarted hs, if_pos (decide_eq_true hs), hfinish]
    simp only [Moment.before_of_mixed hmixed, bind, Except.bind, Bool.false_eq_true, if_false]
  · rw [selects_of_not_started hlower he hstarted hs, if_neg (by simpa using hs)]

end Selects

end Questions

/-! ### Figures of both paths -/

/-- What is counted of the whole is counted of one of its two parts. -/
structure Adds (whole part rest : Aggregate) : Prop where
  count : whole.count = part.count + rest.count
  successes : whole.successes = part.successes + rest.successes
  errors : whole.errors = part.errors + rest.errors
  degraded : whole.degraded = part.degraded + rest.degraded
  fallbacks : whole.fallbacks = part.fallbacks + rest.fallbacks
  captureAttempts : whole.captureAttempts = part.captureAttempts + rest.captureAttempts
  captureSuccesses : whole.captureSuccesses = part.captureSuccesses + rest.captureSuccesses

/-- Outcomes are routed to the one path or to the other. -/
theorem adds_paths (outcomes : List Outcome) :
    Adds (aggregate outcomes) (aggregate (outcomes.filter (·.routed = .baseline)))
      (aggregate (outcomes.filter (·.routed = .enhanced))) := by
  have hother : (fun o : Outcome => decide (o.routed = .enhanced)) =
      fun o => !decide (o.routed = .baseline) := by
    funext o
    cases o.routed <;> rfl
  have hsplit (p : Outcome → Bool) :=
    List.countP_eq_countP_filter_add outcomes p fun o => decide (o.routed = .baseline)
  have hall := hsplit fun _ => true
  rw [List.countP_true] at hall
  rw [hother]
  exact ⟨hall, hsplit _, hsplit _, hsplit _, hsplit _, hsplit _, hsplit _⟩

/-! ### Collectors -/

/-- The window of the outcomes of a tenant. -/
def CollectorConfig.window (config : CollectorConfig) : WindowSize :=
  ⟨config.windowSeconds, config.maxEventsPerTenant⟩

/-- The latest outcomes of a tenant that were recorded, as many as there is room for. -/
def latest (config : CollectorConfig) (tenant : String) (events : List (Stamped Outcome)) :
    List (Stamped Outcome) :=
  lastEntries config.maxEventsPerTenant.toNat
    (taken config.window (events.filter fun e => e.value.tenantId = tenant))

/-- The window takes the moment, and has it in it when it ends at `now`. -/
structure InWindow (config : CollectorConfig) (now m : Moment) : Prop where
  aware : m.isNaive = false
  takes : config.window.takes m = true
  since : ∀ windowStart, cutoff config.windowSeconds now = .ok windowStart →
    windowStart.instant ≤ m.instant
  upto : m.instant ≤ now.instant

namespace Collector

/-- The collector after one outcome after the other was recorded, each at its moment. -/
def recordAll (c : Collector) (events : List (Stamped Outcome)) : Collector :=
  events.foldl (fun c e => c.recordOutcome e.value (some e.moment)) c

/-- The outcomes that are kept of a tenant. -/
def kept (c : Collector) (tenant : String) : List (Stamped Outcome) := (c.outcomes.get? tenant).getD []

variable {config : CollectorConfig} {events : List (Stamped Outcome)}

theorem recordAll_concat (c : Collector) (events : List (Stamped Outcome)) (e : Stamped Outcome) :
    c.recordAll (events ++ [e]) = (c.recordAll events).recordOutcome e.value (some e.moment) := by
  simp [recordAll, List.foldl_append]

theorem config_recordAll (c : Collector) (events : List (Stamped Outcome)) :
    (c.recordAll events).config = c.config := by
  induction events using List.reverseRecOn with
  | nil => rfl
  | append_singleton events e ih =>
    rw [recordAll_concat]
    exact ih

/-- **Each tenant has a window of its own**, in which only its own outcomes are recorded. -/
theorem kept_recordAll (config : CollectorConfig) (events : List (Stamped Outcome)) (tenant : String) :
    ((new config).recordAll events).kept tenant =
      keep config.window (events.filter fun e => e.value.tenantId = tenant) := by
  induction events using List.reverseRecOn with
  | nil => rfl
  | append_singleton events e ih =>
    have hconfig : ((new config).recordAll events).config = config := config_recordAll _ _
    rw [recordAll_concat]
    by_cases htenant : e.value.tenantId = tenant
    · subst htenant
      have hown : (events ++ [e]).filter (fun e' => e'.value.tenantId = e.value.tenantId) =
          events.filter (fun e' => e'.value.tenantId = e.value.tenantId) ++ [e] := by simp
      rw [hown, keep_concat, ← ih]
      unfold kept recordOutcome
      dsimp only
      rw [Table.get?_put_self, hconfig]
      rfl
    · have hother : (events ++ [e]).filter (fun e' => e'.value.tenantId = tenant) =
          events.filter (fun e' => e'.value.tenantId = tenant) := by simp [htenant]
      rw [hother, ← ih]
      unfold kept recordOutcome
      dsimp only
      rw [Table.get?_put_of_ne _ _ (Ne.symm htenant)]

/-- What is kept was recorded. -/
theorem mem_of_mem_kept (haware : ∀ e ∈ events, e.moment.isNaive = false) {e : Stamped Outcome}
    {tenant : String} (he : e ∈ ((new config).recordAll events).kept tenant) : e ∈ events := by
  rw [kept_recordAll] at he
  have hown {e : Stamped Outcome} (he : e ∈ events.filter fun e => e.value.tenantId = tenant) :
      e ∈ events := (List.mem_filter.mp he).1
  obtain ⟨lost, hlatest, -⟩ := exists_lost config.window fun e he => haware e (hown he)
  exact hown (mem_of_latest hlatest he)

/-- What cannot be recorded is counted. -/
theorem dropped_recordAll (haware : ∀ e ∈ events, e.moment.isNaive = false) :
    ((new config).recordAll events).dropped =
      events.countP fun e => !config.window.takes e.moment := by
  induction events using List.reverseRecOn with
  | nil => rfl
  | append_singleton events e ih =>
    have hbefore : ∀ e ∈ events, e.moment.isNaive = false :=
      fun e' he' => haware e' (List.mem_append_left _ he')
    have hconfig : ((new config).recordAll events).config = config := config_recordAll _ _
    have hkept : ∀ e' ∈ ((new config).recordAll events).kept e.value.tenantId,
        e'.moment.isNaive = false := fun e' he' => hbefore e' (mem_of_mem_kept hbefore he')
    have hrecord : (record config.window (((new config).recordAll events).kept e.value.tenantId)
        (some e.moment) e.value).1 = config.window.takes e.moment := by
      cases htakes : config.window.takes e.moment with
      | false => rw [record_of_not_takes htakes]
      | true =>
        obtain ⟨limit, -, hrecord⟩ := record_of_takes htakes
          (haware e (List.mem_append_right _ (List.mem_singleton_self e))) hkept
        rw [hrecord]
    have hdropped : (((new config).recordAll events).recordOutcome e.value (some e.moment)).dropped =
        ((new config).recordAll events).countDropped (record config.window
          (((new config).recordAll events).kept e.value.tenantId) (some e.moment) e.value).1 := by
      unfold recordOutcome
      rw [hconfig]
      rfl
    rw [recordAll_concat, hdropped, hrecord, List.countP_append, ← ih hbefore]
    cases htakes : config.window.takes e.moment <;> simp [countDropped, htakes]

/-- What is missing of the latest outcomes of a tenant lies before every later window. -/
theorem filter_latest (tenant : String) {p : Stamped Outcome → Bool} {now windowStart : Moment}
    (haware : ∀ e ∈ events, e.moment.isNaive = false)
    (hlater : ∀ e ∈ events, e.moment.instant ≤ now.instant)
    (hcutoff : cutoff config.windowSeconds now = .ok windowStart)
    (hp : ∀ e, p e = true → windowStart.instant ≤ e.moment.instant) :
    (latest config tenant events).filter p =
      (((new config).recordAll events).kept tenant).filter p := by
  let own := events.filter fun e => e.value.tenantId = tenant
  have hown {e : Stamped Outcome} (he : e ∈ own) : e ∈ events := (List.mem_filter.mp he).1
  obtain ⟨lost, hlatest, hlost⟩ :=
    exists_lost config.window fun e (he : e ∈ own) => haware e (hown he)
  have hnone : lost.filter p = [] := by
    refine List.filter_eq_nil_iff.mpr fun e he hpe => ?_
    obtain ⟨other, hother, limit, hlimit, hold⟩ := hlost e he
    have hstart := instant_cutoff_le hlimit hcutoff (hlater other (hown hother))
    have hfresh := hp e hpe
    omega
  rw [kept_recordAll]
  show (lastEntries config.window.entries.toNat (taken config.window own)).filter p = _
  rw [hlatest, List.filter_append, hnone, List.nil_append]

section Events

variable {c : Collector} {now windowStart : Moment} {tenant : String} {f : Filter}

theorem events_of_cutoff (hcutoff : cutoff c.config.windowSeconds now = .ok windowStart) :
    c.events now tenant f =
      (lowerBound windowStart f.start >>= fun lower => (c.kept tenant).filterM (selects f lower)) := by
  unfold Collector.events
  rw [hcutoff]
  rfl

variable (hcutoff : cutoff c.config.windowSeconds now = .ok windowStart) (hnow : now.isNaive = false)
  (hkept : ∀ e ∈ c.kept tenant, e.moment.isNaive = false)
include hcutoff hnow

theorem events_of_naive_start {s : Moment} (hs : f.start = some s) (hnaive : s.isNaive = true) :
    c.events now tenant f = .error .mixedClocks := by
  have hwindow : windowStart.isNaive = false := (isNaive_of_cutoff hcutoff).trans hnow
  rw [events_of_cutoff hcutoff, lowerBound_of_naive hwindow hs hnaive]
  rfl

include hkept

/-- The wanted ones of the outcomes that are kept. -/
theorem events_of_aware (hf : f.Aware) :
    c.events now tenant f = .ok ((c.kept tenant).filter fun e => Wanted f windowStart e) := by
  have hwindow : windowStart.isNaive = false := (isNaive_of_cutoff hcutoff).trans hnow
  obtain ⟨lower, hlower, haware, hstarted⟩ := lowerBound_of_aware hwindow hf.1
  rw [events_of_cutoff hcutoff, hlower]
  exact filterM_eq_ok fun e he => selects_of_aware haware (hkept e he) (hstarted e) hf.2

/-- The first outcome that is compared with a finish without an offset is a fault. -/
theorem events_of_naive_finish {finish : Moment}
    (hstart : ∀ s, f.start = some s → s.isNaive = false) (hfinish : f.finish = some finish)
    (hnaive : finish.isNaive = true) :
    c.events now tenant f =
      if ∃ e ∈ c.kept tenant, Started f windowStart e then .error .mixedClocks else .ok [] := by
  have hwindow : windowStart.isNaive = false := (isNaive_of_cutoff hcutoff).trans hnow
  obtain ⟨lower, hlower, haware, hstarted⟩ := lowerBound_of_aware hwindow hstart
  have hselects : ∀ e ∈ c.kept tenant, selects f lower e =
      if decide (Started f windowStart e) then .error .mixedClocks else .ok false :=
    fun e he => selects_of_naive haware (hkept e he) (hstarted e) hfinish hnaive
  rw [events_of_cutoff hcutoff, hlower]
  split_ifs with hany
  · obtain ⟨e, he, hs⟩ := hany
    exact filterM_eq_error hselects ⟨e, he, decide_eq_true hs⟩
  · have hnone : ∀ e ∈ c.kept tenant, selects f lower e = .ok false := by
      intro e he
      have hnot : ¬ Started f windowStart e := fun hs => hany ⟨e, he, hs⟩
      rw [hselects e he, decide_eq_false hnot]
      rfl
    refine (filterM_eq_ok hnone).trans ?_
    rw [List.filter_eq_nil_iff.mpr fun _ _ => Bool.false_ne_true]

end Events

/-- **A collector answers with the wanted outcomes among the latest ones**, in the order of their
recording.  The outcomes have moments with an offset, in any order, none after the time of the question.
Those that cannot be recorded, as the window has no room or its start no date at their moment, are
counted and do not show.  A question is not answered if the start of the window has no date; and one
with a bound without an offset either fails, or there is no outcome that the bound would be compared
with. -/
theorem events_of_recordAll {config : CollectorConfig} {events : List (Stamped Outcome)} {now : Moment}
    (haware : ∀ e ∈ events, e.moment.isNaive = false)
    (hlater : ∀ e ∈ events, e.moment.instant ≤ now.instant) (hnow : now.isNaive = false)
    (tenant : String) (f : Filter) :
    (∀ windowStart, cutoff config.windowSeconds now = .ok windowStart →
        (f.Aware → ((new config).recordAll events).events now tenant f =
          .ok ((latest config tenant events).filter fun e => Wanted f windowStart e)) ∧
        (¬ f.Aware → ((new config).recordAll events).events now tenant f = .error .mixedClocks ∨
          ((new config).recordAll events).events now tenant f = .ok [] ∧
            ∀ e ∈ latest config tenant events, ¬ Started f windowStart e)) ∧
      (∀ fault, cutoff config.windowSeconds now = .error fault →
        ((new config).recordAll events).events now tenant f = .error fault) ∧
      ((new config).recordAll events).dropped =
        events.countP fun e => !config.window.takes e.moment := by
  have hconfig : ((new config).recordAll events).config.windowSeconds = config.windowSeconds :=
    congrArg CollectorConfig.windowSeconds (config_recordAll _ _)
  have hkept : ∀ e ∈ ((new config).recordAll events).kept tenant, e.moment.isNaive = false :=
    fun e he => haware e (mem_of_mem_kept haware he)
  refine ⟨fun windowStart hcutoff => ?_, fun fault hcutoff => ?_, dropped_recordAll haware⟩
  · have hown := hconfig ▸ hcutoff
    refine ⟨fun hf => ?_, fun hf => ?_⟩
    · rw [events_of_aware hown hnow hkept hf, filter_latest tenant haware hlater hcutoff]
      exact fun e he => (of_decide_eq_true he).inWindow
    · by_cases hstart : ∀ s, f.start = some s → s.isNaive = false
      · -- then the finish has no offset
        have hfinish : ∃ finish, f.finish = some finish ∧ finish.isNaive = true := by
          by_contra hnone
          refine hf ⟨hstart, fun s hs => ?_⟩
          cases hnaive : s.isNaive with
          | false => rfl
          | true => exact absurd ⟨s, hs, hnaive⟩ hnone
        obtain ⟨finish, hfinish, hnaive⟩ := hfinish
        have hsame := filter_latest tenant (p := fun e => decide (Started f windowStart e)) haware
          hlater hcutoff fun e he => (of_decide_eq_true he).1
        rw [events_of_naive_finish hown hnow hkept hstart hfinish hnaive]
        split_ifs with hany
        · exact .inl rfl
        · refine .inr ⟨rfl, fun e he hs => hany ?_⟩
          have hfound : e ∈ (latest config tenant events).filter fun e => Started f windowStart e :=
            List.mem_filter.mpr ⟨he, decide_eq_true hs⟩
          rw [hsame] at hfound
          exact ⟨e, (List.mem_filter.mp hfound).1, hs⟩
      · simp only [not_forall] at hstart
        obtain ⟨s, hs, hnaive⟩ := hstart
        exact .inl (events_of_naive_start hown hnow hs (Bool.of_not_eq_false hnaive))
  · unfold Collector.events
    rw [hconfig, hcutoff]
    rfl

/-! ### In the window -/

/-- Of what is in the window nothing is lost, but what there is no room for. -/
theorem kept_of_inWindow {config : CollectorConfig} {events : List (Stamped Outcome)}
    {now windowStart : Moment} (h : ∀ e ∈ events, InWindow config now e.moment)
    (hcutoff : cutoff config.windowSeconds now = .ok windowStart) (tenant : String) :
    ((new config).recordAll events).kept tenant =
      lastEntries config.maxEventsPerTenant.toNat
        (events.filter fun e => e.value.tenantId = tenant) := by
  have haware : ∀ e ∈ events, e.moment.isNaive = false := fun e he => (h e he).aware
  have hyoung : ∀ e ∈ events, decide (windowStart.instant ≤ e.moment.instant) = true :=
    fun e he => decide_eq_true ((h e he).since windowStart hcutoff)
  have htaken : latest config tenant events = lastEntries config.maxEventsPerTenant.toNat
      (events.filter fun e => e.value.tenantId = tenant) := by
    unfold latest taken
    rw [List.filter_eq_self.mpr fun e he => (h e (List.mem_filter.mp he).1).takes]
  have hlatest : ∀ e ∈ latest config tenant events, e ∈ events := by
    intro e he
    rw [htaken] at he
    exact (List.mem_filter.mp (mem_of_mem_lastEntries he)).1
  have hsame := filter_latest tenant (p := fun e => decide (windowStart.instant ≤ e.moment.instant))
    haware (fun e he => (h e he).upto) hcutoff fun e he => of_decide_eq_true he
  rw [List.filter_eq_self.mpr fun e he => hyoung e (hlatest e he),
    List.filter_eq_self.mpr fun e he => hyoung e (mem_of_mem_kept haware he)] at hsame
  rw [← hsame, htaken]

/-! ### Comparing the paths -/

section Paths

variable {c : Collector} {now : Moment} {tenant : String} {f : Filter}

theorem selects_routed (hrouted : f.routed = none) (path : Path) (lower : Moment)
    (e : Stamped Outcome) : selects { f with routed := some path } lower e =
      (selects f lower e).map (· && decide (e.value.routed = path)) := by
  have hfits : Filter.fits { f with routed := some path } e.value =
      (f.fits e.value && decide (e.value.routed = path)) := by
    unfold Filter.fits
    rw [hrouted]
    simp [eq_comm]
  unfold selects
  rw [hfits]
  cases e.moment.before lower with
  | error fault => rfl
  | ok early =>
    cases early with
    | true => rfl
    | false =>
      cases hfinish : f.finish with
      | none => simp [Except.map, bind, Except.bind]
      | some finish =>
        simp only [bind, Except.bind]
        cases finish.before e.moment with
        | error fault => rfl
        | ok late => cases late <;> rfl

/-- What is routed to a path is picked from what is asked for. -/
theorem events_routed (hrouted : f.routed = none) (path : Path) :
    c.events now tenant { f with routed := some path } =
      (c.events now tenant f).map (List.filter fun e => e.value.routed = path) := by
  have hselects (lower : Moment) := funext (selects_routed hrouted path lower)
  unfold Collector.events
  cases cutoff c.config.windowSeconds now with
  | error fault => rfl
  | ok windowStart =>
    simp only [bind, Except.bind]
    cases lowerBound windowStart f.start with
    | error fault => rfl
    | ok lower =>
      dsimp only
      rw [hselects, filterM_map_and]

/-- **A comparison tells the same outcomes by path** that are told together. -/
theorem compare_of_events {templateId : Option String} {events : List (Stamped Outcome)}
    (h : c.events now tenant { Filter.everything with templateId := templateId } = .ok events) :
    let outcomes := events.map Stamped.value
    c.aggregated now tenant { Filter.everything with templateId := templateId } =
        .ok (aggregate outcomes) ∧
      c.compare now tenant templateId =
        .ok [(.baseline, aggregate (outcomes.filter (·.routed = .baseline))),
          (.enhanced, aggregate (outcomes.filter (·.routed = .enhanced)))] := by
  intro outcomes
  have hpath (path : Path) : c.aggregated now tenant
      { Filter.everything with templateId := templateId, routed := some path } =
        .ok (aggregate (outcomes.filter (·.routed = path))) := by
    have hunrouted : { Filter.everything with templateId := templateId }.routed = none := rfl
    have hevents := (events_routed hunrouted path).trans (congrArg (Except.map _) h)
    unfold Collector.aggregated
    rw [hevents]
    show Except.ok (aggregate ((events.filter _).map Stamped.value)) = _
    rw [List.filter_map]
    rfl
  refine ⟨?_, ?_⟩
  · unfold Collector.aggregated
    rw [h]
    rfl
  · unfold Collector.compare
    simp only [hpath]
    rfl

end Paths

/-! ### An hour, and two thousand years -/

section Examples

def noon : Moment := .universal 63850161600000000

/-- A greeting of a tenant some minutes before noon. -/
def greeted (tenant : String) (minutes : Int) : Stamped Outcome where
  moment := .universal (noon.civil - minutes * 60 * Time.secondMicros)
  value := {
    path := .baseline
    templateId := "greeting"
    tenantId := tenant
    latencyMs := 10
    captureSuccess := true
    captureAttempted := false
    degraded := false
    fallback := false
    error := false
    sessionId := none
    routedPath := none }

/-- A window of so many seconds with room for three outcomes. -/
def windowOf (seconds : Int) : CollectorConfig := ⟨.int seconds, 3, 1000, 20⟩

/-- Greetings in no order; an old one comes behind a newer one. -/
def greetings : List (Stamped Outcome) :=
  [greeted "acme" 50, greeted "globex" 5, greeted "acme" 70, greeted "acme" 10, greeted "acme" 30]

/-- There is room for the last three greetings of the tenant, and one of them is too old. -/
theorem events_of_recordAll_greetings : (∀ e ∈ greetings, e.moment.isNaive = false) ∧
    (∀ e ∈ greetings, e.moment.instant ≤ noon.instant) ∧ noon.isNaive = false ∧
    ((new (windowOf 3600)).recordAll greetings).events noon "acme" .everything =
      .ok [greeted "acme" 10, greeted "acme" 30] := by
  have haware : ∀ e ∈ greetings, e.moment.isNaive = false := by decide
  have hlater : ∀ e ∈ greetings, e.moment.instant ≤ noon.instant := by decide
  have hcutoff : cutoff (windowOf 3600).windowSeconds noon = .ok (greeted "acme" 60).moment := rfl
  have hopen : Filter.everything.Aware := ⟨fun _ h => (nomatch h), fun _ h => (nomatch h)⟩
  refine ⟨haware, hlater, rfl, ?_⟩
  rw [((events_of_recordAll haware hlater rfl "acme" .everything).1 _ hcutoff).1 hopen]
  decide +kernel

/-- **A window that began with the calendar.**  The window reaches from noon back to the first hour that
has a date, so that its start has none at eleven: the greeting at eleven is in the window of noon, but
it is not recorded.  With a longer window the question is not answered; nor is one with a start that
has no offset. -/
theorem unlisted_of_undated :
    (∃ windowStart, cutoff (windowOf 63850160000).windowSeconds noon = .ok windowStart ∧
      ((new (windowOf 63850160000)).recordAll [greeted "acme" 60]).events noon "acme" .everything =
        .ok [] ∧
      (lastEntries 3 ([greeted "acme" 60].filter fun e => e.value.tenantId = "acme")).filter
        (fun e => Wanted .everything windowStart e) = [greeted "acme" 60]) ∧
    ((new (windowOf 63860000000)).recordAll [greeted "acme" 60]).events noon "acme" .everything =
      .error Moment.dateOverflow ∧
    ((new (windowOf 3600)).recordAll greetings).events noon "acme"
      { Filter.everything with start := some { noon with offset := none } } = .error .mixedClocks := by
  refine ⟨⟨.universal 1600000000, rfl, rfl, ?_⟩, rfl, rfl⟩
  decide +kernel

end Examples

end Collector

end Parley.Outcomes
