import Mathlib.Tactic.SplitIfs
import Parley.Proofs.Time.Seconds
import Parley.Routing.Router

/-!
# Parley.Proofs.Routing.Desk — a router at work

A `Desk` has a router and a clock, carries out orders one after the other, and writes down what it
answers.  `Serves` says where an answer comes from and what becomes of the router; `Desk.Step` says
the same of an order.  `Dated`: every entry that is kept expires at some time, so that it is current
unless it is outdated.  `Founded`: every decision that is kept is what the policy made of some call
that was answered afresh, for the same template, tenant and version; every order keeps it so.
-/

namespace Parley.Routing

open Router (Call)
open Template (FlowGraph)
open Time (Clock Seconds)

/-! ### Orders -/

/-- What the policy is told about a template. -/
abbrev Evidence := Assessment Number × Option (LiveRates Number)

/-- A call of the router, or a step of the clock. -/
inductive Order
  | route (graph : FlowGraph) (context : RoutingContext) (evidence : Evidence)
  | lookup (graph : FlowGraph) (context : RoutingContext)
  | invalidate (templateId tenantId : Option String)
  | pass (span : Seconds)

/-- What an order asks about, if it is a question, and the evidence that comes with it. -/
def Order.subject? : Order → Option (FlowGraph × RoutingContext × Option Evidence)
  | route graph context evidence => some (graph, context, some evidence)
  | lookup graph context => some (graph, context, none)
  | invalidate _ _ | pass _ => none

/-- A decision that was returned, with the call and the evidence. -/
structure Answer where
  call : Call
  evidence : Option Evidence
  decision : Decision

/-- A router, a clock, and the answers so far. -/
structure Desk where
  router : Router
  clock : Clock
  answers : List Answer

namespace Desk

def fresh (config : RouterConfig) (clock : Clock) : Desk := ⟨.new config, clock, []⟩

/-- Carries out an order. -/
def serve (d : Desk) : Order → Desk
  | .route graph context evidence =>
    let call : Call := ⟨graph, context, d.clock⟩
    let (decision, router) := d.router.route call evidence.1 evidence.2
    { d with router, answers := d.answers ++ [⟨call, some evidence, decision⟩] }
  | .lookup graph context =>
    let call : Call := ⟨graph, context, d.clock⟩
    match d.router.lookup call with
    | (some decision, router) =>
      { d with router, answers := d.answers ++ [⟨call, none, decision⟩] }
    | (none, router) => { d with router }
  | .invalidate templateId tenantId =>
    { d with router := (d.router.invalidate templateId tenantId).2 }
  | .pass span => { d with clock := d.clock.pass span }

/-- The desk of a new router after some orders. -/
def after (config : RouterConfig) (clock : Clock) (orders : List Order) : Desk :=
  orders.foldl serve (fresh config clock)

end Desk

/-! ### Times of expiry -/

/-- Everything that is kept expires at some time, as the span for which decisions are kept is a number. -/
def Dated (r : Router) : Prop :=
  ∀ e ∈ r.cache, e.2.expiresAt.isSome ∧ (Seconds.ofNumber? r.config.cacheTtlSeconds).isSome

/-- An entry with a time is outdated or current, and not both. -/
theorem isOutdated_eq {α : Type} {entry : CacheEntry α} (h : entry.expiresAt.isSome) (version : String)
    (now : Seconds) : Cache.isOutdated entry version now = !Cache.isCurrent entry version now := by
  obtain ⟨time, htime⟩ := Option.isSome_iff_exists.mp h
  have hover : decide (time ≤ now) = !decide (now < time) := by
    rw [← decide_not]
    exact decide_eq_decide.mpr Int.not_lt.symm
  simp [Cache.isOutdated, Cache.isCurrent, CacheEntry.isOver, CacheEntry.isAhead, htime, hover]

/-- One without a time is neither. -/
example : Cache.isOutdated ⟨"1", none, ()⟩ "1" 0 = false ∧
    Cache.isCurrent ⟨"1", none, ()⟩ "1" 0 = false := by
  decide

/-! ### Steps -/

section Calls

open Router

variable {r r' : Router} {c : Call} {a : Assessment Number} {live : Option (LiveRates Number)}
  {d : Decision}

/-! A call is settled by the switches, by what is kept for it, or not at all. -/

theorem route_of_settled (hgate : gate r.config c = some d) : r.route c a live = (d, r.record d) := by
  unfold route
  rw [hgate]

theorem route_of_kept (hgate : gate r.config c = none) (hkept : r.kept? c = some d) :
    r.route c a live =
      (applyRollout r.config c d, r.countHit.record (applyRollout r.config c d)) := by
  unfold route
  rw [hgate, hkept]

theorem route_of_open (hgate : gate r.config c = none) (hkept : r.kept? c = none) :
    r.route c a live = (applyRollout r.config c (decide r.config c a live),
      (r.keep c (decide r.config c a live)).record
        (applyRollout r.config c (decide r.config c a live))) := by
  unfold route
  rw [hgate, hkept]

theorem lookup_of_settled (hgate : gate r.config c = some d) :
    r.lookup c = (some d, r.record d) := by
  unfold lookup
  rw [hgate]

theorem lookup_of_kept (hdated : Dated r) (hgate : gate r.config c = none)
    (hkept : r.kept? c = some d) : r.lookup c =
      (some (applyRollout r.config c d), r.countHit.record (applyRollout r.config c d)) := by
  obtain ⟨value, hvalue, rfl⟩ := Option.map_eq_some_iff.mp hkept
  unfold Cache.lookup? at hvalue
  unfold lookup
  rw [hgate]
  cases hentry : Table.get? r.cache c.key with
  | none =>
    rw [hentry] at hvalue
    exact nomatch hvalue
  | some entry =>
    rw [hentry] at hvalue
    dsimp only at hvalue ⊢
    split_ifs at hvalue with hcurrent
    rw [isOutdated_eq (hdated _ (Table.mem_of_get? hentry)).1, hcurrent, ← Option.some.inj hvalue]
    rfl

theorem lookup_of_open (hdated : Dated r) (hgate : gate r.config c = none)
    (hkept : r.kept? c = none) : r.lookup c = (none, r) := by
  have hnone := Option.map_eq_none_iff.mp hkept
  unfold Cache.lookup? at hnone
  unfold lookup
  rw [hgate]
  cases hentry : Table.get? r.cache c.key with
  | none => rfl
  | some entry =>
    rw [hentry] at hnone
    dsimp only at hnone ⊢
    split_ifs at hnone with hcurrent
    rw [isOutdated_eq (hdated _ (Table.mem_of_get? hentry)).1, Bool.eq_false_iff.mpr hcurrent]
    rfl

/-- Where an answer comes from, and the router after it. -/
inductive Serves (r : Router) (c : Call) : Option Evidence → Decision → Router → Prop
  | settled {evidence : Option Evidence} {d : Decision} : gate r.config c = some d →
    Serves r c evidence d (r.record d)
  | kept {evidence : Option Evidence} {entry : CacheEntry Decision} : gate r.config c = none →
    (c.key, entry) ∈ r.cache → Cache.isCurrent entry c.graph.version c.clock.reading = true →
    Serves r c evidence (applyRollout r.config c { entry.value with cached := true })
      (r.countHit.record (applyRollout r.config c { entry.value with cached := true }))
  | fresh {a : Assessment Number} {live : Option (LiveRates Number)} : gate r.config c = none →
    r.kept? c = none →
    Serves r c (some (a, live)) (applyRollout r.config c (decide r.config c a live))
      ((r.keep c (decide r.config c a live)).record
        (applyRollout r.config c (decide r.config c a live)))

/-- A kept decision is that of a current entry. -/
theorem exists_of_kept? (h : r.kept? c = some d) : ∃ entry, (c.key, entry) ∈ r.cache ∧
    Cache.isCurrent entry c.graph.version c.clock.reading = true ∧
    d = { entry.value with cached := true } := by
  obtain ⟨value, hvalue, rfl⟩ := Option.map_eq_some_iff.mp h
  unfold Cache.lookup? at hvalue
  cases hentry : Table.get? r.cache c.key with
  | none =>
    rw [hentry] at hvalue
    exact nomatch hvalue
  | some entry =>
    rw [hentry] at hvalue
    dsimp only at hvalue
    split_ifs at hvalue with hcurrent
    exact ⟨entry, Table.mem_of_get? hentry, hcurrent, by rw [Option.some.inj hvalue]⟩

theorem serves_route : Serves r c (some (a, live)) (r.route c a live).1 (r.route c a live).2 := by
  cases hgate : gate r.config c with
  | some d =>
    rw [route_of_settled hgate]
    exact .settled hgate
  | none =>
    cases hkept : r.kept? c with
    | none =>
      rw [route_of_open hgate hkept]
      exact .fresh hgate hkept
    | some d =>
      rw [route_of_kept hgate hkept]
      obtain ⟨entry, hmem, hcurrent, rfl⟩ := exists_of_kept? hkept
      exact .kept hgate hmem hcurrent

theorem serves_of_lookup (hdated : Dated r) (h : r.lookup c = (some d, r')) :
    Serves r c none d r' := by
  cases hgate : gate r.config c with
  | some settled =>
    rw [lookup_of_settled hgate] at h
    cases h
    exact .settled hgate
  | none =>
    cases hkept : r.kept? c with
    | none =>
      rw [lookup_of_open hdated hgate hkept] at h
      cases h
    | some kept =>
      rw [lookup_of_kept hdated hgate hkept] at h
      obtain ⟨entry, hmem, hcurrent, rfl⟩ := exists_of_kept? hkept
      cases h
      exact .kept hgate hmem hcurrent

/-- A question without an answer is open, and leaves the router as it is. -/
theorem open_of_lookup (hdated : Dated r) (h : r.lookup c = (none, r')) :
    r' = r ∧ gate r.config c = none ∧ r.kept? c = none := by
  cases hgate : gate r.config c with
  | some settled =>
    rw [lookup_of_settled hgate] at h
    cases h
  | none =>
    cases hkept : r.kept? c with
    | none =>
      rw [lookup_of_open hdated hgate hkept] at h
      exact ⟨(Prod.mk.inj h).2.symm, rfl, rfl⟩
    | some kept =>
      rw [lookup_of_kept hdated hgate hkept] at h
      cases h

/-! ### What is kept -/

theorem evict_suffix {κ α : Type} (n : Int) (now : Seconds) (cache : Cache κ α) :
    Cache.evict n now cache <:+ cache := by
  induction cache with
  | nil => exact List.suffix_refl []
  | cons oldest rest ih =>
    unfold Cache.evict
    split_ifs
    · exact List.suffix_refl _
    · exact ih.trans (List.suffix_cons oldest rest)

/-- What a router keeps after an answer was there before, or is what the policy made of the call. -/
theorem Serves.mem_cache {evidence : Option Evidence} (h : Serves r c evidence d r')
    {key : CacheKey} {entry : CacheEntry Decision} (hmem : (key, entry) ∈ r'.cache) :
    (key, entry) ∈ r.cache ∨ key = c.key ∧ d.cached = false ∧ ∃ a live, evidence = some (a, live) ∧
      entry = ⟨c.graph.version,
        (Seconds.ofNumber? r.config.cacheTtlSeconds).map (c.clock.reading + ·),
        decide r.config c a live⟩ := by
  cases h with
  | settled _ => exact .inl hmem
  | kept _ _ _ => exact .inl hmem
  | @fresh a live _ _ =>
    have hstored : (key, entry) ∈ (r.keep c (decide r.config c a live)).cache := hmem
    rcases List.mem_append.mp ((evict_suffix _ _ _).subset hstored) with hold | hnew
    · exact .inl (List.mem_filter.mp hold).1
    · obtain ⟨rfl, rfl⟩ := Prod.mk.inj (List.mem_singleton.mp hnew)
      refine .inr ⟨rfl, ?_, a, live, rfl, rfl⟩
      unfold applyRollout
      split_ifs <;> rfl

theorem Serves.config {evidence : Option Evidence} (h : Serves r c evidence d r') :
    r'.config = r.config := by
  cases h <;> rfl

/-- A decision without a time is dropped as soon as it is stored, since nothing is kept behind it. -/
theorem Serves.dated {evidence : Option Evidence} (h : Serves r c evidence d r') (hdated : Dated r) :
    Dated r' := by
  cases h with
  | settled _ => exact hdated
  | kept _ _ _ => exact hdated
  | @fresh a live _ _ =>
    cases hspan : Seconds.ofNumber? r.config.cacheTtlSeconds with
    | some span =>
      intro e he
      have hstored : e ∈ (r.keep c (decide r.config c a live)).cache := he
      refine ⟨?_, Option.isSome_iff_exists.mpr ⟨span, hspan⟩⟩
      rcases List.mem_append.mp ((evict_suffix _ _ _).subset hstored) with hold | hnew
      · exact (hdated e (List.mem_filter.mp hold).1).1
      · rw [List.mem_singleton.mp hnew, hspan]
        rfl
    | none =>
      have hempty : r.cache = [] := by
        refine List.eq_nil_iff_forall_not_mem.mpr fun e he => ?_
        have := (hdated e he).2
        rw [hspan] at this
        exact nomatch this
      have hdropped : (r.keep c (decide r.config c a live)).cache = [] := by
        simp [keep, hspan, hempty, Cache.store, Table.erase, Cache.evict, CacheEntry.isAhead]
      intro e he
      have hstored : e ∈ (r.keep c (decide r.config c a live)).cache := he
      rw [hdropped] at hstored
      exact absurd hstored List.not_mem_nil

end Calls

namespace Desk

/-- What an order may do to a desk. -/
inductive Step (d : Desk) (o : Order) : Desk → Prop
  | answer {graph : FlowGraph} {context : RoutingContext} {evidence : Option Evidence}
    {decision : Decision} {router : Router} : o.subject? = some (graph, context, evidence) →
    Serves d.router ⟨graph, context, d.clock⟩ evidence decision router →
    Step d o { d with
      router
      answers := d.answers ++ [⟨⟨graph, context, d.clock⟩, evidence, decision⟩] }
  | quiet {cache : Cache CacheKey Decision} {clock : Clock} : cache ⊆ d.router.cache →
    (clock = d.clock ∨ ∃ span, clock = d.clock.pass span) →
    Step d o { d with router := { d.router with cache }, clock }

theorem step_serve {d : Desk} (hdated : Dated d.router) (o : Order) : Step d o (d.serve o) := by
  cases o with
  | route graph context evidence => exact .answer rfl serves_route
  | lookup graph context =>
    cases hlookup : d.router.lookup ⟨graph, context, d.clock⟩ with
    | mk decision? router =>
      unfold serve
      dsimp only
      rw [hlookup]
      cases decision? with
      | some decision => exact .answer rfl (serves_of_lookup hdated hlookup)
      | none =>
        rw [(open_of_lookup hdated hlookup).1]
        exact .quiet (List.Subset.refl _) (.inl rfl)
  | invalidate templateId tenantId => exact .quiet (fun _ hmem => (List.mem_filter.mp hmem).1) (.inl rfl)
  | pass span => exact .quiet (List.Subset.refl _) (.inr ⟨span, rfl⟩)

theorem dated_fresh {config : RouterConfig} {clock : Clock} : Dated (fresh config clock).router :=
  fun _ he => nomatch he

theorem Step.dated {d d' : Desk} {o : Order} (h : Step d o d') (hdated : Dated d.router) :
    Dated d'.router := by
  cases h with
  | answer _ hserves => exact hserves.dated hdated
  | quiet hcache _ => exact fun e he => hdated e (hcache he)

theorem Step.config {d d' : Desk} {o : Order} (h : Step d o d') :
    d'.router.config = d.router.config := by
  cases h with
  | answer _ hserves => exact hserves.config
  | quiet _ _ => rfl

/-- **What every order preserves holds after all of them.** -/
theorem after_of_step {config : RouterConfig} {clock : Clock} {P : Desk → Prop} {Q : Order → Prop}
    (hfresh : P (fresh config clock)) (hstep : ∀ {d o d'}, P d → Q o → Step d o d' → P d')
    {orders : List Order} (hq : ∀ o ∈ orders, Q o) : P (after config clock orders) := by
  have hdated : Dated (fresh config clock).router := dated_fresh
  unfold after
  generalize fresh config clock = d at hfresh hdated
  induction orders generalizing d with
  | nil => exact hfresh
  | cons o more ih =>
    have hserved := step_serve hdated o
    exact ih (fun o' ho' => hq o' (List.mem_cons_of_mem _ ho')) (d.serve o)
      (hstep hfresh (hq o List.mem_cons_self) hserved) (hserved.dated hdated)

theorem dated_after (config : RouterConfig) (clock : Clock) (orders : List Order) :
    Dated (after config clock orders).router :=
  after_of_step (Q := fun _ => True) dated_fresh (fun h _ hstep => hstep.dated h)
    fun _ _ => trivial

end Desk

/-! ### Sources -/

/-- An entry is what the policy made of a call that was answered afresh. -/
structure FoundedOn (config : RouterConfig) (key : CacheKey) (entry : CacheEntry Decision)
    (source : Answer) (evidence : Evidence) : Prop where
  asked : source.evidence = some evidence
  fresh : source.decision.cached = false
  key : source.call.key = key
  version : source.call.graph.version = entry.version
  expiry : entry.expiresAt =
    (Seconds.ofNumber? config.cacheTtlSeconds).map (source.call.clock.reading + ·)
  value : entry.value = Router.decide config source.call evidence.1 evidence.2

/-- Everything that is kept comes from an answer. -/
structure Founded (config : RouterConfig) (d : Desk) : Prop where
  settings : d.router.config = config
  sources : ∀ key entry, (key, entry) ∈ d.router.cache →
    ∃ source ∈ d.answers, ∃ evidence, FoundedOn config key entry source evidence

section Sources

variable {config : RouterConfig} {d d' : Desk} {o : Order}

theorem founded_fresh {clock : Clock} : Founded config (.fresh config clock) :=
  ⟨rfl, fun _ _ h => nomatch h⟩

/-- **An order keeps it so.** -/
theorem Founded.step (h : Founded config d) (hstep : Desk.Step d o d') : Founded config d' := by
  obtain ⟨rfl, hsources⟩ := h
  cases hstep with
  | answer _ hserves =>
    refine ⟨hserves.config, fun key entry hmem => ?_⟩
    rcases hserves.mem_cache hmem with hold | ⟨rfl, hcached, a, live, rfl, rfl⟩
    · obtain ⟨source, hsource, hfounded⟩ := hsources key entry hold
      exact ⟨source, List.mem_append_left _ hsource, hfounded⟩
    · exact ⟨_, List.mem_append_right _ (List.mem_singleton_self _), (a, live),
        ⟨rfl, hcached, rfl, rfl, rfl, rfl⟩⟩
  | quiet hcache _ => exact ⟨rfl, fun key entry hmem => hsources key entry (hcache hmem)⟩

/-- The clock goes on in doubles. -/
theorem Desk.Step.isDouble (hstep : Desk.Step d o d') (h : d.clock.reading.IsDouble) :
    d'.clock.reading.IsDouble := by
  cases hstep with
  | answer _ _ => exact h
  | quiet _ hclock =>
    rcases hclock with rfl | ⟨span, rfl⟩
    · exact h
    · exact Seconds.isDouble_add _ _

end Sources

/-! ### A survey -/

def survey (version : String) : FlowGraph :=
  ⟨"survey", version, "start", [], .null, .text "Survey", []⟩

def surveyed (tenant user : String) : RoutingContext := ⟨tenant, user, "1", "survey"⟩

/-- The survey is hard, and one module would help. -/
def surveyEvidence : Evidence := (⟨.real 0.9, .high, [.enhancedCapture]⟩, none)

/-- Half of the users take part, and one tenant has none of it. -/
def surveyConfig : RouterConfig :=
  { RouterConfig.default with rolloutPercentage := .real 50, disabledTenants := ["globex"] }

/-- Two users are routed, and one of them again almost a minute later; when the minute is over, the
decision has to be made anew. -/
def surveyOrders : List Order :=
  [.route (survey "1") (surveyed "acme" "ann") surveyEvidence,
    .lookup (survey "1") (surveyed "acme" "bob"), .pass (Seconds.ofNumber 59),
    .lookup (survey "1") (surveyed "acme" "ann"), .lookup (survey "2") (surveyed "acme" "ann"),
    .pass (Seconds.ofNumber 1), .lookup (survey "1") (surveyed "acme" "ann"),
    .route (survey "2") (surveyed "acme" "ann") surveyEvidence,
    .invalidate none (some "acme"), .lookup (survey "2") (surveyed "acme" "ann"),
    .route (survey "2") (surveyed "globex" "ann") surveyEvidence]

def surveyClock : Clock := ⟨0, 0, ⟨0, none⟩⟩

end Parley.Routing
