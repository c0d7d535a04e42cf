import Parley.Proofs.Routing.Desk

/-!
# Parley.Proofs.Routing.Rules — what may take the enhanced path

Switches come first, then forced paths, then what the policy made of the template in this call or in
one less than a cache time ago, and last the rollout.  `Obeys` says so of one answer, and
`obeys_of_run` of every answer of a router, whatever it was asked before.
-/

namespace Parley.Routing

open Router (Call)
open Time (Clock Seconds)

/-! ### The policy -/

namespace Policy

variable {p : Policy Number} {a : Assessment Number} {live : Option (LiveRates Number)}

/-- What is known about a template speaks for the enhanced path. -/
structure Favours (p : Policy Number) (a : Assessment Number) (live : Option (LiveRates Number)) :
    Prop where
  risk : a.risk ≠ .low
  modules : a.modules ≠ []
  confidence : p.threshold ≤ p.confidence a live

theorem favours_of_enhanced (h : (p.decide a live).path = .enhanced) : p.Favours a live := by
  unfold decide at h
  split_ifs at h with hrisk
  split at h
  · exact nomatch h
  · unfold weigh at h
    dsimp only at h
    split_ifs at h with hweighed
    obtain ⟨hconfidence, hmodules⟩ := Bool.and_eq_true_iff.mp hweighed
    refine ⟨hrisk, fun hnil => ?_, hconfidence⟩
    rw [hnil] at hmodules
    exact nomatch hmodules

/-- Modules come with the enhanced path only, and always. -/
theorem modules_eq_nil_iff : (p.decide a live).modules = [] ↔ (p.decide a live).path = .baseline := by
  unfold decide
  split_ifs
  · simp
  · split
    · simp
    · unfold weigh
      dsimp only
      split_ifs with hweighed
      · obtain ⟨-, hmodules⟩ := Bool.and_eq_true_iff.mp hweighed
        simpa using hmodules
      · simp

end Policy

/-! ### Switches and the rollout -/

/-- The enhanced path is switched off for a message, or the baseline is forced. -/
def SwitchedOff (config : RouterConfig) (x : RoutingContext) : Prop :=
  config.enhancedEnabled = false ∨ x.tenantId ∈ config.disabledTenants ∨
    x.templateId ∈ config.disabledTemplates ∨ x.templateId ∈ config.forcedBaselineTemplates ∨
    x.tenantId ∈ config.forcedBaselineTenants

/-- The enhanced path is forced for a message. -/
def Forced (config : RouterConfig) (x : RoutingContext) : Prop :=
  x.templateId ∈ config.forcedEnhancedTemplates ∨ x.tenantId ∈ config.forcedEnhancedTenants

/-- A message takes part in the rollout. -/
def RolledOut (config : RouterConfig) (x : RoutingContext) : Prop :=
  100 ≤ config.rolloutPercentage ∨
    rolloutBucket (.text x.tenantId) (.text x.userId) < config.rolloutPercentage

namespace Router

variable {config : RouterConfig} {c : Call} {d : Decision} {x : RoutingContext}

theorem switchedOff_of_some {reason : String} (h : switchedOff? config x = some reason) :
    SwitchedOff config x := by
  unfold switchedOff? at h
  split_ifs at h with hglobal htenant htemplate hbaseline htenantBaseline
  · exact .inl (by simpa using hglobal)
  · exact .inr (.inl (by simpa using htenant))
  · exact .inr (.inr (.inl (by simpa using htemplate)))
  · exact .inr (.inr (.inr (.inl (by simpa using hbaseline))))
  · exact .inr (.inr (.inr (.inr (by simpa using htenantBaseline))))

theorem not_switchedOff_of_none (h : switchedOff? config x = none) : ¬SwitchedOff config x := by
  unfold switchedOff? at h
  split_ifs at h with hglobal htenant htemplate hbaseline htenantBaseline
  rintro (hoff | hoff | hoff | hoff | hoff)
  · exact hglobal (by simpa using hoff)
  · exact htenant (by simpa using hoff)
  · exact htemplate (by simpa using hoff)
  · exact hbaseline (by simpa using hoff)
  · exact htenantBaseline (by simpa using hoff)

/-- What the switches settle. -/
theorem cases_of_gate (h : gate config c = some d) :
    SwitchedOff config c.context ∧ d.path = .baseline ∧ d.modules = [] ∨
      ¬SwitchedOff config c.context ∧ Forced config c.context ∧ d.path = .enhanced ∧
        d.modules ≠ [] := by
  unfold gate at h
  cases hoff : switchedOff? config c.context with
  | some reason =>
    rw [hoff] at h
    rw [← Option.some.inj h]
    exact .inl ⟨switchedOff_of_some hoff, rfl, rfl⟩
  | none =>
    rw [hoff] at h
    dsimp only at h
    split_ifs at h with hforced
    rw [← Option.some.inj h]
    refine .inr ⟨not_switchedOff_of_none hoff, ?_, rfl, List.cons_ne_nil _ _⟩
    simpa [isForced, Forced] using hforced

theorem not_switchedOff_of_gate (h : gate config c = none) : ¬SwitchedOff config c.context := by
  unfold gate at h
  cases hoff : switchedOff? config c.context with
  | some reason =>
    rw [hoff] at h
    exact nomatch h
  | none => exact not_switchedOff_of_none hoff

/-- The rollout lets the enhanced path pass as it is, and for those who take part only. -/
theorem applyRollout_enhanced (h : (applyRollout config c d).path = .enhanced) :
    applyRollout config c d = d ∧ RolledOut config c.context := by
  unfold applyRollout at h ⊢
  split_ifs at h ⊢ with hpass
  refine ⟨rfl, ?_⟩
  rw [h] at hpass
  have hin : inRollout config c.context = true := by simpa using hpass
  exact Bool.or_eq_true_iff.mp hin

/-- The rollout takes the modules away with the path. -/
theorem applyRollout_modules (h : d.modules = [] ↔ d.path = .baseline) :
    (applyRollout config c d).modules = [] ↔ (applyRollout config c d).path = .baseline := by
  unfold applyRollout
  split_ifs
  · exact h
  · simp

end Router

/-! ### The rules -/

/-- The decision of an answer was made for another one, or for this one: for the same template,
tenant and version, when the clock read less than a cache time before, from what speaks for the
enhanced path. -/
structure Earned (config : RouterConfig) (earlier : List Answer) (a source : Answer)
    (evidence : Evidence) : Prop where
  recent : source = a ∨ source ∈ earlier ∧ a.call.clock.reading.units <
    source.call.clock.reading.units + (Seconds.ofNumber config.cacheTtlSeconds).units
  asked : source.evidence = some evidence
  fresh : source.decision.cached = false
  key : source.call.key = a.call.key
  version : source.call.graph.version = a.call.graph.version
  favours : config.policy.Favours evidence.1 evidence.2
  decided : a.decision = { Router.decide config source.call evidence.1 evidence.2 with
    cached := a.decision.cached }
  rollout : RolledOut config a.call.context

/-- An answer obeys the rules, after the earlier ones. -/
structure Obeys (config : RouterConfig) (earlier : List Answer) (a : Answer) : Prop where
  off : SwitchedOff config a.call.context → a.decision.path = .baseline
  enhanced : ¬SwitchedOff config a.call.context → a.decision.path = .enhanced →
    Forced config a.call.context ∨ ∃ source evidence, Earned config earlier a source evidence
  modules : a.decision.modules = [] ↔ a.decision.path = .baseline

/-- The statistics count the answers. -/
structure Counts (stats : RouterStats) (answers : List Answer) : Prop where
  decisions : stats.decisions = answers.length
  sum : stats.decisions = stats.enhanced + stats.baseline

section Step

variable {config : RouterConfig} {d : Desk} {c : Call} {evidence : Option Evidence}
  {decision : Decision} {router : Router}

/-- An entry whose time is still to come was stored less than a cache time ago. -/
theorem FoundedOn.units_lt {key : CacheKey} {entry : CacheEntry Decision} {source : Answer}
    {kept : Evidence} (h : FoundedOn config key entry source kept) {now : Seconds}
    (hnow : now.IsDouble) (hahead : entry.isAhead now = true) : now.units <
      source.call.clock.reading.units + (Seconds.ofNumber config.cacheTtlSeconds).units := by
  unfold CacheEntry.isAhead at hahead
  rw [h.expiry, Option.any_map] at hahead
  obtain ⟨span, hspan, hbefore⟩ := (Option.any_eq_true _ _).mp hahead
  unfold Seconds.ofNumber
  rw [hspan]
  exact Seconds.lt_exact_of_lt_add hnow (of_decide_eq_true hbefore)

/-- **An answer obeys the rules** if all that is kept comes from an answer. -/
theorem Founded.obeys (h : Founded config d) (hclock : c.clock.reading.IsDouble)
    (hserves : Serves d.router c evidence decision router) :
    Obeys config d.answers ⟨c, evidence, decision⟩ := by
  obtain ⟨rfl, hsources⟩ := h
  cases hserves with
  | settled hgate =>
    rcases Router.cases_of_gate hgate with ⟨hoff, hpath, hnil⟩ | ⟨hon, hforced, hpath, hmodules⟩
    · exact ⟨fun _ => hpath, fun hon => absurd hoff hon, iff_of_true hnil hpath⟩
    · refine ⟨fun hoff => absurd hoff hon, fun _ _ => .inl hforced, iff_of_false hmodules ?_⟩
      rw [show Answer.decision ⟨c, evidence, decision⟩ = decision from rfl, hpath]
      exact nofun
  | @kept _ entry hgate hmem hcurrent =>
    obtain ⟨source, hsource, kept, hfounded⟩ := hsources _ _ hmem
    obtain ⟨hversion, hexpiry⟩ := Bool.and_eq_true_iff.mp hcurrent
    refine ⟨fun hoff => absurd hoff (Router.not_switchedOff_of_gate hgate), fun _ hpath => ?_, ?_⟩
    · obtain ⟨hsame, hrollout⟩ := Router.applyRollout_enhanced hpath
      rw [hsame] at hpath ⊢
      rw [hfounded.value] at hpath ⊢
      refine .inr ⟨source, kept, .inr ⟨hsource, ?_⟩, hfounded.asked, hfounded.fresh, hfounded.key,
        hfounded.version.trans (of_decide_eq_true hversion), Policy.favours_of_enhanced hpath, rfl,
        hrollout⟩
      exact hfounded.units_lt hclock hexpiry
    · refine Router.applyRollout_modules ?_
      rw [hfounded.value]
      exact Policy.modules_eq_nil_iff
  | @fresh a live hgate hnone =>
    refine ⟨fun hoff => absurd hoff (Router.not_switchedOff_of_gate hgate), fun _ hpath => ?_, ?_⟩
    · obtain ⟨hsame, hrollout⟩ := Router.applyRollout_enhanced hpath
      rw [hsame] at hpath ⊢
      exact .inr ⟨_, (a, live), .inl rfl, rfl, rfl, rfl, rfl, Policy.favours_of_enhanced hpath, rfl,
        hrollout⟩
    · exact Router.applyRollout_modules Policy.modules_eq_nil_iff

theorem Counts.record {r : Router} {answers : List Answer} (h : Counts r.stats answers)
    (decision : Decision) (a : Answer) : Counts (r.record decision).stats (answers ++ [a]) := by
  obtain ⟨hdecisions, hsum⟩ := h
  unfold Router.record
  cases decision.path with
  | baseline | enhanced =>
    refine ⟨?_, ?_⟩
    · rw [List.length_append, ← hdecisions]
      rfl
    · dsimp only at hsum ⊢
      omega

theorem Serves.counts (hserves : Serves d.router c evidence decision router)
    (h : Counts d.router.stats d.answers) (a : Answer) : Counts router.stats (d.answers ++ [a]) := by
  cases hserves with
  | settled _ => exact h.record _ a
  | kept _ _ _ =>
    have hhit : Counts d.router.countHit.stats d.answers := ⟨h.decisions, h.sum⟩
    exact hhit.record _ a
  | fresh _ _ => exact Counts.record (r := d.router.keep c _) ⟨h.decisions, h.sum⟩ _ a

end Step

/-- The answers of a desk obey the rules, each after those before it, and are counted. -/
structure Lawful (config : RouterConfig) (d : Desk) : Prop where
  founded : Founded config d
  double : d.clock.reading.IsDouble
  obeys : ∀ (i : Nat) (a : Answer), d.answers[i]? = some a → Obeys config (d.answers.take i) a
  counts : Counts d.router.stats d.answers

theorem Lawful.step {config : RouterConfig} {d d' : Desk} {o : Order} (h : Lawful config d)
    (hstep : Desk.Step d o d') : Lawful config d' := by
  have hfounded := h.founded.step hstep
  have hdouble := hstep.isDouble h.double
  cases hstep with
  | quiet _ _ => exact ⟨hfounded, hdouble, h.obeys, h.counts⟩
  | answer _ hserves =>
    refine ⟨hfounded, hdouble, fun i a hi => ?_, hserves.counts h.counts _⟩
    rcases Nat.lt_or_ge i d.answers.length with hlt | hge
    · rw [List.getElem?_append_left hlt] at hi
      rw [List.take_append_of_le_length (Nat.le_of_lt hlt)]
      exact h.obeys i a hi
    · have hlast : i = d.answers.length := by
        have hbound := (List.getElem?_eq_some_iff.mp hi).1
        rw [List.length_append] at hbound
        exact Nat.le_antisymm (Nat.le_of_lt_succ hbound) hge
      subst hlast
      rw [List.getElem?_concat_length] at hi
      rw [List.take_left, ← Option.some.inj hi]
      exact h.founded.obeys h.double hserves

/-- **Every answer of a router obeys the rules**, whatever its configuration is and whatever it was
asked before, whatever was invalidated and however much time passed; and the statistics count the
answers. -/
theorem obeys_of_run (config : RouterConfig) {clock : Clock} (hclock : clock.reading.IsDouble)
    (orders : List Order) :
    (∀ (i : Nat) (a : Answer), (Desk.after config clock orders).answers[i]? = some a →
      Obeys config ((Desk.after config clock orders).answers.take i) a) ∧
    Counts (Desk.after config clock orders).router.stats
      (Desk.after config clock orders).answers := by
  have hlawful : Lawful config (Desk.after config clock orders) := by
    refine Desk.after_of_step (Q := fun _ => True) ?_ (fun h _ hstep => h.step hstep)
      fun _ _ => trivial
    exact ⟨founded_fresh, hclock, fun _ _ hi => (nomatch hi), rfl, rfl⟩
  exact ⟨hlawful.obeys, hlawful.counts⟩

/-- One user takes the enhanced path afresh, once more from what was kept, and afresh for the next
version; another one is outside the rollout, and a tenant has it switched off. -/
theorem obeys_of_run_survey : surveyClock.reading.IsDouble ∧
    ((Desk.after surveyConfig surveyClock surveyOrders).answers.map fun a =>
      (a.decision.path, a.decision.cached)) =
      [(.enhanced, false), (.baseline, true), (.enhanced, true), (.enhanced, false),
        (.baseline, false)] ∧
    (∀ (i : Nat) (a : Answer),
      (Desk.after surveyConfig surveyClock surveyOrders).answers[i]? = some a →
      Obeys surveyConfig ((Desk.after surveyConfig surveyClock surveyOrders).answers.take i) a) ∧
    Counts (Desk.after surveyConfig surveyClock surveyOrders).router.stats
      (Desk.after surveyConfig surveyClock surveyOrders).answers := by
  have hclock : surveyClock.reading.IsDouble := by decide
  exact ⟨hclock, by decide +kernel, obeys_of_run surveyConfig hclock surveyOrders⟩

end Parley.Routing
