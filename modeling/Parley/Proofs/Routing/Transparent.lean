import Parley.Proofs.Routing.Desk

/-!
# Parley.Proofs.Routing.Transparent — keeping decisions changes none of them

What a router is told about a template may depend on the template, the tenant and the version alone.
Then what it answers is what a new router would answer (`alike_of_run`), so it does not matter who
was routed before, what was invalidated, dropped or too old, or how long decisions are kept.

A router is asked without an assessment first.  Where it has an answer, an assessment would have
changed nothing: the same decision would have been made, and the router left in the same state.
Where it has none, it is as it was, and with an assessment it decides as if it were new.  A lookup
takes any entry that is not outdated and a route any entry that is current; `routed_of_lookup` says
that this comes to the same for all that a router ever keeps.
-/

namespace Parley.Routing

open Router (Call)
open Template (FlowGraph)
open Time (Clock Seconds)

/-- The same decision, but for when it was made and whether it was kept. -/
structure Decision.Alike (d d' : Decision) : Prop where
  path : d.path = d'.path
  confidence : d.confidence = d'.confidence
  modules : d.modules = d'.modules
  timeout : d.timeoutSeconds = d'.timeoutSeconds
  reasons : d.reasons = d'.reasons
  templateId : d.templateId = d'.templateId
  templateVersion : d.templateVersion = d'.templateVersion

/-- What is known of each template, tenant and version. -/
abbrev Facts := CacheKey → String → FlowGraph × Evidence

/-- An order comes with what is known. -/
def Order.Fits (facts : Facts) : Order → Prop
  | route graph context evidence =>
    facts (context.templateId, context.tenantId) graph.version = (graph, evidence)
  | lookup graph context => (facts (context.templateId, context.tenantId) graph.version).1 = graph
  | invalidate _ _ | pass _ => True

/-- What a router that keeps nothing answers. -/
def freshly (config : RouterConfig) (facts : Facts) (c : Call) : Decision :=
  let evidence := (facts c.key c.graph.version).2
  ((Router.new config).route c evidence.1 evidence.2).1

section Alike

variable {d d' d'' : Decision} {config : RouterConfig} {c c' : Call}

theorem Decision.Alike.refl (d : Decision) : d.Alike d := ⟨rfl, rfl, rfl, rfl, rfl, rfl, rfl⟩

theorem Decision.Alike.symm (h : d.Alike d') : d'.Alike d :=
  ⟨h.path.symm, h.confidence.symm, h.modules.symm, h.timeout.symm, h.reasons.symm,
    h.templateId.symm, h.templateVersion.symm⟩

theorem Decision.Alike.trans (h : d.Alike d') (h' : d'.Alike d'') : d.Alike d'' :=
  ⟨h.path.trans h'.path, h.confidence.trans h'.confidence, h.modules.trans h'.modules,
    h.timeout.trans h'.timeout, h.reasons.trans h'.reasons, h.templateId.trans h'.templateId,
    h.templateVersion.trans h'.templateVersion⟩

/-- The rollout looks at the user and the path. -/
theorem Decision.Alike.applyRollout (h : d.Alike d') (hcontext : c.context = c'.context) :
    (Router.applyRollout config c d).Alike (Router.applyRollout config c' d') := by
  unfold Router.applyRollout
  rw [h.path, hcontext]
  split_ifs
  · exact h
  · exact ⟨rfl, rfl, rfl, h.timeout, by rw [h.reasons], h.templateId, h.templateVersion⟩

/-- The policy does not look at the clock. -/
theorem alike_decide (config : RouterConfig) (hgraph : c.graph = c'.graph) (evidence : Evidence) :
    (Router.decide config c evidence.1 evidence.2).Alike
      (Router.decide config c' evidence.1 evidence.2) := by
  unfold Router.decide Router.decision
  rw [hgraph]
  exact ⟨rfl, rfl, rfl, rfl, rfl, rfl, rfl⟩

end Alike

section Run

variable {config : RouterConfig} {facts : Facts} {d d' : Desk} {o : Order} {c c' : Call}

/-- A new router asks the switches, and then the policy. -/
theorem freshly_eq (config : RouterConfig) (facts : Facts) (c : Call) :
    freshly config facts c = (Router.gate config c).getD (Router.applyRollout config c
      (Router.decide config c (facts c.key c.graph.version).2.1
        (facts c.key c.graph.version).2.2)) := by
  unfold freshly Router.route
  rw [show (Router.new config).config = config from rfl]
  cases Router.gate config c with
  | some d => rfl
  | none => rfl

/-- The same settings, but for what is kept. -/
def RouterConfig.keeping (config : RouterConfig) (ttl : Number) (size : Int) : RouterConfig :=
  { config with cacheTtlSeconds := ttl, cacheMaxEntries := size }

/-- How long decisions are kept, and how many, is nothing to the switches, nor is the time. -/
theorem alike_gate (config : RouterConfig) (hgraph : c.graph = c'.graph)
    (hcontext : c.context = c'.context) (ttl : Number) (size : Int) :
    Router.gate config c = none ∧ Router.gate (config.keeping ttl size) c' = none ∨
      ∃ d d', Router.gate config c = some d ∧ Router.gate (config.keeping ttl size) c' = some d' ∧
        d.Alike d' := by
  have hoff : Router.switchedOff? (config.keeping ttl size) c'.context =
      Router.switchedOff? config c'.context := rfl
  have hforced : Router.isForced (config.keeping ttl size) c'.context =
      Router.isForced config c'.context := rfl
  unfold Router.gate
  rw [hcontext, hoff, hforced]
  cases Router.switchedOff? config c'.context with
  | some reason => exact .inr ⟨_, _, rfl, rfl, rfl, rfl, rfl, rfl, rfl, by rw [Router.decision,
      Router.decision, hgraph], by rw [Router.decision, Router.decision, hgraph]⟩
  | none =>
    cases Router.isForced config c'.context with
    | true => exact .inr ⟨_, _, rfl, rfl, rfl, rfl, rfl, rfl, rfl, by rw [Router.decision,
        Router.decision, hgraph], by rw [Router.decision, Router.decision, hgraph]⟩
    | false => exact .inl ⟨rfl, rfl⟩

/-- Nor is it to a new router. -/
theorem alike_freshly (hgraph : c.graph = c'.graph) (hcontext : c.context = c'.context)
    (ttl : Number) (size : Int) :
    (freshly config facts c).Alike (freshly (config.keeping ttl size) facts c') := by
  have hkey : c.key = c'.key := by
    unfold Call.key
    rw [hcontext]
  rw [freshly_eq, freshly_eq, hkey, hgraph]
  rcases alike_gate config hgraph hcontext ttl size with
    ⟨hnone, hnone'⟩ | ⟨d, d', hsome, hsome', halike⟩
  · rw [hnone, hnone']
    exact (alike_decide config hgraph _).applyRollout hcontext
  · rw [hsome, hsome']
    exact halike

/-- An answer is what a new router would answer, and came with what is known. -/
structure Told (config : RouterConfig) (facts : Facts) (a : Answer) : Prop where
  graph : (facts a.call.key a.call.graph.version).1 = a.call.graph
  evidence : ∀ e, a.evidence = some e → (facts a.call.key a.call.graph.version).2 = e
  alike : a.decision.Alike (freshly config facts a.call)

/-- An order comes with what is known, and so does its answer. -/
theorem Order.Fits.subject {graph : FlowGraph} {context : RoutingContext}
    {evidence : Option Evidence} (h : o.Fits facts)
    (hsubject : o.subject? = some (graph, context, evidence)) :
    (facts (context.templateId, context.tenantId) graph.version).1 = graph ∧
      ∀ e, evidence = some e → (facts (context.templateId, context.tenantId) graph.version).2 = e := by
  cases o with
  | route graph context given =>
    cases hsubject
    rw [show facts (context.templateId, context.tenantId) graph.version = (graph, given) from h]
    exact ⟨rfl, fun e he => Option.some.inj he⟩
  | lookup graph context =>
    cases hsubject
    exact ⟨h, fun _ he => (nomatch he)⟩
  | invalidate _ _ | pass _ => exact nomatch hsubject

/-- **What is kept is what would be decided now.** -/
theorem Founded.alike (h : Founded config d) (htold : ∀ a ∈ d.answers, Told config facts a)
    {evidence : Option Evidence} {decision : Decision} {router : Router}
    (hserves : Serves d.router c evidence decision router)
    (hgraph : (facts c.key c.graph.version).1 = c.graph)
    (hevidence : ∀ e, evidence = some e → (facts c.key c.graph.version).2 = e) :
    decision.Alike (freshly config facts c) := by
  obtain ⟨rfl, hsources⟩ := h
  rw [freshly_eq]
  cases hserves with
  | settled hgate =>
    rw [hgate]
    exact .refl _
  | @kept _ entry hgate hmem hcurrent =>
    rw [hgate]
    obtain ⟨source, hsource, kept, hfounded⟩ := hsources _ _ hmem
    have hversion := (Bool.and_eq_true_iff.mp hcurrent).1
    -- the source was told the same as this call would be
    obtain ⟨hsame, hkept, -⟩ := htold source hsource
    have hkept := hkept kept hfounded.asked
    rw [hfounded.key, hfounded.version, of_decide_eq_true hversion] at hsame hkept
    refine Decision.Alike.applyRollout ?_ rfl
    rw [hfounded.value, hkept]
    have halike := alike_decide d.router.config (hsame.symm.trans hgraph) kept
    exact ⟨halike.path, halike.confidence, halike.modules, halike.timeout, halike.reasons,
      halike.templateId, halike.templateVersion⟩
  | fresh hgate _ =>
    rw [hgate, hevidence _ rfl]
    exact .refl _

/-- All that is kept and all that was answered goes with what is known. -/
structure Truthful (config : RouterConfig) (facts : Facts) (d : Desk) : Prop where
  founded : Founded config d
  told : ∀ a ∈ d.answers, Told config facts a

theorem Truthful.step (h : Truthful config facts d) (hfits : o.Fits facts)
    (hstep : Desk.Step d o d') : Truthful config facts d' := by
  have hfounded := h.founded.step hstep
  cases hstep with
  | quiet _ _ => exact ⟨hfounded, h.told⟩
  | answer hsubject hserves =>
    obtain ⟨hgraph, hevidence⟩ := hfits.subject hsubject
    refine ⟨hfounded, fun a ha => ?_⟩
    rcases List.mem_append.mp ha with hold | hnew
    · exact h.told a hold
    · rw [List.mem_singleton.mp hnew]
      exact ⟨hgraph, hevidence, h.founded.alike h.told hserves hgraph hevidence⟩

theorem truthful_after (config : RouterConfig) (clock : Clock) {orders : List Order}
    (hfits : ∀ o ∈ orders, o.Fits facts) :
    Truthful config facts (Desk.after config clock orders) :=
  Desk.after_of_step ⟨founded_fresh, fun _ ha => nomatch ha⟩
    (fun h hfits hstep => h.step hfits hstep) hfits

/-- **Keeping decisions changes none of them**, if what the router is told depends on template,
tenant and version alone.  Every answer is that of a new router, which has nothing to look up; and
two routers answer alike for the same user, whatever else they were asked, dropped or kept. -/
theorem alike_of_run (config : RouterConfig) (clock : Clock) {orders : List Order}
    (hfits : ∀ o ∈ orders, o.Fits facts) :
    (∀ a ∈ (Desk.after config clock orders).answers,
      a.decision.Alike (freshly config facts a.call)) ∧
    ∀ (ttl : Number) (size : Int) (clock' : Clock) (orders' : List Order),
      (∀ o ∈ orders', o.Fits facts) →
      ∀ a ∈ (Desk.after config clock orders).answers,
      ∀ a' ∈ (Desk.after (config.keeping ttl size) clock' orders').answers,
        a.call.graph = a'.call.graph → a.call.context = a'.call.context →
        a.decision.Alike a'.decision := by
  refine ⟨fun a ha => ((truthful_after config clock hfits).told a ha).alike,
    fun ttl size clock' orders' hfits' a ha a' ha' hgraph hcontext => ?_⟩
  have hfirst := ((truthful_after config clock hfits).told a ha).alike
  have hsecond := ((truthful_after (config.keeping ttl size) clock' hfits').told a' ha').alike
  exact hfirst.trans ((alike_freshly hgraph hcontext ttl size).trans hsecond.symm)

end Run

/-- The survey of every version is as hard. -/
def surveyFacts : Facts := fun _ version => (survey version, surveyEvidence)

theorem fits_survey : ∀ o ∈ surveyOrders, o.Fits surveyFacts := by
  intro o ho
  simp only [surveyOrders, List.mem_cons, List.not_mem_nil, or_false] at ho
  rcases ho with rfl | rfl | rfl | rfl | rfl | rfl | rfl | rfl | rfl | rfl | rfl <;>
    first | exact trivial | rfl

/-- What the two users are answered from what was kept for the first of them, is what each of them
is answered as the only one, by a router that keeps nothing. -/
theorem alike_of_run_survey : (∀ o ∈ surveyOrders, o.Fits surveyFacts) ∧
    ((Desk.after surveyConfig surveyClock surveyOrders).answers.map fun a =>
      (a.call.context.userId, a.decision.path, a.decision.cached)) =
      [("ann", .enhanced, false), ("bob", .baseline, true), ("ann", .enhanced, true),
        ("ann", .enhanced, false), ("ann", .baseline, false)] ∧
    (∀ a ∈ (Desk.after surveyConfig surveyClock surveyOrders).answers,
      a.decision.Alike (freshly surveyConfig surveyFacts a.call)) ∧
    ∀ a ∈ (Desk.after surveyConfig surveyClock surveyOrders).answers,
      ∀ a' ∈ (Desk.after (surveyConfig.keeping 0 0) surveyClock
        [.route (survey "1") (surveyed "acme" "bob") surveyEvidence]).answers,
        a.call.graph = a'.call.graph → a.call.context = a'.call.context →
        a.decision.Alike a'.decision := by
  obtain ⟨hfresh, hothers⟩ :=
    alike_of_run surveyConfig surveyClock fits_survey
  refine ⟨fits_survey, by decide +kernel, hfresh, hothers 0 0 surveyClock _ fun o ho => ?_⟩
  rw [List.mem_singleton.mp ho]
  rfl

/-! ### Lookups and routes -/

/-- The same question at the same reading of the clock; the time of day may be another. -/
structure Router.Call.Same (c c' : Call) : Prop where
  graph : c.graph = c'.graph
  context : c.context = c'.context
  reading : c.clock.reading = c'.clock.reading

/-- The same decision, but for when it was made, and the same cache and statistics. -/
structure SameOutcome (x y : Decision × Router) : Prop where
  decision : x.1.Alike y.1
  cached : x.1.cached = y.1.cached
  cache : x.2.cache = y.2.cache
  stats : x.2.stats = y.2.stats

/-- The policy decides on the evidence, as it does in a new router, and its decision is stored. -/
structure DecidedAfresh (r : Router) (c : Call) (evidence : Evidence) (x : Decision × Router) :
    Prop where
  cached : x.1.cached = false
  decision : x.1 = ((Router.new r.config).route c evidence.1 evidence.2).1
  cache : x.2.cache = (r.keep c (Router.decide r.config c evidence.1 evidence.2)).cache
  hits : x.2.stats.cacheHits = r.stats.cacheHits

namespace Router

variable {r r' : Router} {config : RouterConfig} {c c' : Call} {d d' : Decision}
  {evidence : Evidence}

/-- Only the path of a decision is counted. -/
theorem record_congr (h : d.path = d'.path) : r.record d = r.record d' := by
  unfold record
  rw [h]

theorem cacheHits_record (r : Router) (d : Decision) :
    (r.record d).stats.cacheHits = r.stats.cacheHits := by
  unfold record
  cases d.path <;> rfl

theorem cached_applyRollout (config : RouterConfig) (c : Call) (d : Decision) :
    (applyRollout config c d).cached = d.cached := by
  unfold applyRollout
  split_ifs <;> rfl

/-- What the switches settle is not kept. -/
theorem cached_of_gate (h : gate config c = some d) : d.cached = false := by
  unfold gate at h
  split at h
  · rw [← Option.some.inj h]
    rfl
  · split_ifs at h
    rw [← Option.some.inj h]
    rfl

/-- The switches do not look at the clock. -/
theorem Call.Same.gate (h : c.Same c') (config : RouterConfig) :
    Router.gate config c = none ∧ Router.gate config c' = none ∨
      ∃ d d', Router.gate config c = some d ∧ Router.gate config c' = some d' ∧ d.Alike d' :=
  alike_gate config h.graph h.context config.cacheTtlSeconds config.cacheMaxEntries

/-- What is kept for a call does not depend on the time of day. -/
theorem Call.Same.kept? (h : c.Same c') (r : Router) : r.kept? c = r.kept? c' := by
  unfold Router.kept? Call.key
  rw [h.graph, h.context, h.reading]

/-- **An answer to a lookup is that of a route** at the same time. -/
theorem sameOutcome_of_lookup (hdated : Dated r) (hsame : c.Same c')
    (h : r.lookup c = (some d, r')) : SameOutcome (r.route c' evidence.1 evidence.2) (d, r') := by
  rcases hsame.gate r.config with ⟨hgate, hgate'⟩ | ⟨settled, settled', hgate, hgate', halike⟩
  · cases hkept : r.kept? c with
    | none =>
      rw [lookup_of_open hdated hgate hkept] at h
      cases h
    | some kept =>
      rw [lookup_of_kept hdated hgate hkept] at h
      cases h
      have halike : (applyRollout r.config c' kept).Alike (applyRollout r.config c kept) :=
        (Decision.Alike.refl kept).applyRollout hsame.context.symm
      rw [hsame.kept? r] at hkept
      rw [route_of_kept hgate' hkept, record_congr halike.path]
      exact ⟨halike, by rw [cached_applyRollout, cached_applyRollout], rfl, rfl⟩
  · rw [lookup_of_settled hgate] at h
    cases h
    rw [route_of_settled hgate', record_congr halike.symm.path]
    exact ⟨halike.symm, (cached_of_gate hgate').trans (cached_of_gate hgate).symm, rfl, rfl⟩

/-- A router that has nothing for a call decides it afresh. -/
theorem decidedAfresh_route (hgate : gate r.config c = none) (hkept : r.kept? c = none) :
    DecidedAfresh r c evidence (r.route c evidence.1 evidence.2) := by
  have hnew : (new r.config).kept? c = none := rfl
  rw [route_of_open hgate hkept]
  refine ⟨?_, ?_, rfl, ?_⟩
  · rw [cached_applyRollout]
    rfl
  · rw [route_of_open (r := new r.config) hgate hnew]
    rfl
  · rw [cacheHits_record]
    rfl

end Router

/-- **A lookup answers what a route would decide** on any evidence, with the same effect on the
router; and a route decides afresh after a lookup without an answer, which has changed nothing.
This holds for every router, whatever it was asked before. -/
theorem routed_of_lookup (config : RouterConfig) (clock : Clock) (orders : List Order)
    {c c' : Call} (hsame : c.Same c') (evidence : Evidence) :
    let r := (Desk.after config clock orders).router
    let routed := r.route c' evidence.1 evidence.2
    (∀ d r', r.lookup c = (some d, r') → SameOutcome routed (d, r')) ∧
      ∀ r', r.lookup c = (none, r') → r' = r ∧ DecidedAfresh r c' evidence routed := by
  intro r routed
  have hdated : Dated r := Desk.dated_after config clock orders
  refine ⟨fun d r' h => Router.sameOutcome_of_lookup hdated hsame h, fun r' h => ?_⟩
  obtain ⟨hunchanged, hgate, hkept⟩ := open_of_lookup hdated h
  rcases hsame.gate r.config with ⟨-, hgate'⟩ | ⟨d, -, hsettled, -, -⟩
  · rw [hsame.kept? r] at hkept
    exact ⟨hunchanged, Router.decidedAfresh_route hgate' hkept⟩
  · rw [hgate] at hsettled
    cases hsettled

/-! The first user has been routed; now the second one comes, also for a version that nobody has
been routed for. -/

def surveyRouted : List Order := [.route (survey "1") (surveyed "acme" "ann") surveyEvidence]

/-- The second user's question, at some time of day. -/
def surveyCall (version : String) (civil : Int) : Call :=
  ⟨survey version, surveyed "acme" "bob", ⟨0, 0, ⟨civil, none⟩⟩⟩

/-- The decision made for the first user answers the question about the first version, and not the one
about the second version. -/
theorem routed_of_lookup_survey :
    let r := (Desk.after surveyConfig surveyClock surveyRouted).router
    (∀ version, (surveyCall version 0).Same (surveyCall version 1)) ∧
    (r.lookup (surveyCall "1" 0)).1.map (fun d => (d.path, d.cached)) = some (.baseline, true) ∧
    (r.lookup (surveyCall "2" 0)).1 = none ∧
    (∀ d r', r.lookup (surveyCall "1" 0) = (some d, r') →
      SameOutcome (r.route (surveyCall "1" 1) surveyEvidence.1 surveyEvidence.2) (d, r')) ∧
    ∀ r', r.lookup (surveyCall "2" 0) = (none, r') → r' = r ∧
      DecidedAfresh r (surveyCall "2" 1) surveyEvidence
        (r.route (surveyCall "2" 1) surveyEvidence.1 surveyEvidence.2) := by
  intro r
  have hsame : ∀ version, (surveyCall version 0).Same (surveyCall version 1) :=
    fun _ => ⟨rfl, rfl, rfl⟩
  refine ⟨hsame, by decide +kernel, by decide +kernel, ?_, ?_⟩
  · exact (routed_of_lookup surveyConfig surveyClock surveyRouted (hsame "1") surveyEvidence).1
  · exact (routed_of_lookup surveyConfig surveyClock surveyRouted (hsame "2") surveyEvidence).2

end Parley.Routing
