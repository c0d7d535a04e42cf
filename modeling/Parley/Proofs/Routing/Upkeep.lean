import Mathlib.Data.List.Nodup
import Parley.Proofs.Outcomes.Window
import Parley.Proofs.Routing.Desk

/-!
# Parley.Proofs.Routing.Upkeep — what a router keeps, and what it drops

A cache is `Orderly` if it has one entry for each key and its entries expire one after the other.  Then
the loop that drops entries from the front, and stops at the first one that may stay, leaves exactly
the latest entries that there is room for, but for those that have expired (`evict_eq`).

Entries stay in order because all are kept equally long and the clock goes forward: `Upkept` bounds
their times by that of an entry stored now.  `upkeep_of_run`: after any orders the cache is orderly, and
the next order does to it what `Effect` says.
-/

namespace Parley.Routing

open Outcomes (lastEntries)
open Template (FlowGraph)
open Time (Clock Seconds)

/-! ### Caches in order -/

/-- One entry expires no later than another. -/
def CacheEntry.NoLater {α : Type} (e e' : CacheEntry α) : Prop :=
  ∃ time time', e.expiresAt = some time ∧ e'.expiresAt = some time' ∧ time ≤ time'

/-- There is one entry for each key, and entries expire one after the other. -/
structure Orderly {κ α : Type} (cache : Cache κ α) : Prop where
  nodup : (Table.names cache).Nodup
  inOrder : cache.Pairwise fun e e' => e.2.NoLater e'.2

/-- The cache with an entry behind the others, in place of the one for its key. -/
def Cache.placed {κ α : Type} [DecidableEq κ] (cache : Cache κ α) (key : κ) (entry : CacheEntry α) :
    Cache κ α :=
  Table.erase cache key ++ [(key, entry)]

/-- The loop that drops entries from the front goes on: there is an oldest entry, and it has expired or
is one too many. -/
def Cache.GoesOn {κ α : Type} (maxEntries : Int) (now : Seconds) : Cache κ α → Prop
  | [] => False
  | oldest :: rest => ¬(oldest.2.isAhead now = true ∧ (rest.length : Int) + 1 ≤ maxEntries)

/-- The loop ends: after so many rounds, each of which drops the oldest entry, and no others. -/
structure Cache.EndsAfter {κ α : Type} (maxEntries : Int) (now : Seconds) (cache : Cache κ α)
    (rounds : Nat) : Prop where
  few : rounds ≤ cache.length
  before : ∀ i < rounds, GoesOn maxEntries now (cache.drop i)
  done : ¬GoesOn maxEntries now (cache.drop rounds)

section Caches

variable {κ α : Type} {cache cache' : Cache κ α} {maxEntries : Int} {now : Seconds}

theorem CacheEntry.NoLater.isAhead {e e' : CacheEntry α} (h : e.NoLater e')
    (hahead : e.isAhead now = true) : e'.isAhead now = true := by
  obtain ⟨time, time', htime, htime', hle⟩ := h
  simp only [CacheEntry.isAhead, htime, htime', Option.any_some, decide_eq_true_eq] at hahead ⊢
  exact Int.lt_of_lt_of_le hahead hle

theorem Orderly.sublist (h : Orderly cache) (hsub : cache'.Sublist cache) : Orderly cache' :=
  ⟨h.nodup.sublist (hsub.map Prod.fst), h.inOrder.sublist hsub⟩

/-- **The loop terminates**, with what is left of the cache. -/
theorem evict_rounds (maxEntries : Int) (now : Seconds) (cache : Cache κ α) : ∃ rounds,
    cache.EndsAfter maxEntries now rounds ∧
      Cache.evict maxEntries now cache = cache.drop rounds := by
  induction cache with
  | nil => exact ⟨0, ⟨Nat.le_refl _, nofun, id⟩, rfl⟩
  | cons oldest rest ih =>
    by_cases hstays : oldest.2.isAhead now = true ∧ (rest.length : Int) + 1 ≤ maxEntries
    · refine ⟨0, ⟨Nat.zero_le _, nofun, not_not_intro hstays⟩, ?_⟩
      simp [Cache.evict, hstays]
    · obtain ⟨rounds, ⟨hfew, hbefore, hdone⟩, hevict⟩ := ih
      refine ⟨rounds + 1, ⟨Nat.succ_le_succ hfew, ?_, hdone⟩, ?_⟩
      · intro i hi
        cases i with
        | zero => exact hstays
        | succ i => exact hbefore i (Nat.lt_of_succ_lt_succ hi)
      · rw [Cache.evict, if_neg (by simpa using hstays), hevict]
        rfl

/-- **The loop keeps the latest entries, but for those that have expired**, although it looks no
further than to the first one that may stay. -/
theorem evict_eq (h : cache.Pairwise fun e e' => e.2.NoLater e'.2) :
    Cache.evict maxEntries now cache =
      (lastEntries maxEntries.toNat cache).filter fun e => e.2.isAhead now := by
  induction cache with
  | nil => simp [Cache.evict, lastEntries]
  | cons oldest rest ih =>
    obtain ⟨hfirst, hrest⟩ := List.pairwise_cons.mp h
    by_cases hroom : (rest.length : Int) + 1 ≤ maxEntries
    · have hall : lastEntries maxEntries.toNat (oldest :: rest) = oldest :: rest :=
        Outcomes.lastEntries_of_le (by rw [List.length_cons]; omega)
      have hallRest : lastEntries maxEntries.toNat rest = rest :=
        Outcomes.lastEntries_of_le (by omega)
      by_cases hahead : oldest.2.isAhead now = true
      · -- all others expire later
        have hlater : ∀ e ∈ oldest :: rest, e.2.isAhead now = true := by
          intro e he
          rcases List.mem_cons.mp he with rfl | he
          · exact hahead
          · exact (hfirst e he).isAhead hahead
        rw [hall, List.filter_eq_self.mpr hlater, Cache.evict, if_pos (by simp [hahead, hroom])]
      · rw [hall, Cache.evict, if_neg (by simp [hahead]), ih hrest, hallRest]
        simp [hahead]
    · have hdrop : lastEntries maxEntries.toNat (oldest :: rest) =
          lastEntries maxEntries.toNat rest := by
        unfold lastEntries
        rw [List.length_cons, Nat.succ_sub (by omega), List.drop_succ_cons]
      rw [hdrop, ← ih hrest, Cache.evict, if_neg (by simp [hroom])]

section Placed

variable [DecidableEq κ] {key : κ} {entry : CacheEntry α}

theorem mem_placed {e : κ × CacheEntry α} :
    e ∈ cache.placed key entry ↔ e ∈ cache ∧ e.1 ≠ key ∨ e = (key, entry) := by
  simp [Cache.placed, Table.erase]

/-- An entry that expires last goes behind the others. -/
theorem Orderly.placed (h : Orderly cache) (hlast : ∀ e ∈ cache, e.2.NoLater entry) :
    Orderly (cache.placed key entry) := by
  have hrest : Orderly (Table.erase cache key) := h.sublist List.filter_sublist
  refine ⟨?_, List.pairwise_append.mpr ⟨hrest.inOrder, List.pairwise_singleton _ _, ?_⟩⟩
  · have hnew : key ∉ Table.names (Table.erase cache key) := by
      rw [← Table.has_eq_false_iff, Table.has, Table.get?_erase_self]
      rfl
    show (List.map Prod.fst (_ ++ _)).Nodup
    rw [List.map_append, List.map_singleton, ← List.concat_eq_append]
    exact (List.nodup_concat _ _).mpr ⟨hnew, hrest.nodup⟩
  · intro e he e' he'
    rw [List.mem_singleton.mp he']
    exact hlast e (List.mem_filter.mp he).1

end Placed

end Caches

/-! ### What orders do -/

/-- A key is for a template and a tenant, where they are given. -/
def Matches (templateId tenantId : Option String) (key : CacheKey) : Prop :=
  (∀ id, templateId = some id → key.1 = id) ∧ ∀ id, tenantId = some id → key.2 = id

/-- Storing an entry leaves `after` of what was there before. -/
structure Stores (maxEntries : Int) (now : Seconds) (key : CacheKey) (entry : CacheEntry Decision)
    (before after : Cache CacheKey Decision) : Prop where
  /-- The loop ends, and leaves what is kept. -/
  ends : ∃ rounds, (before.placed key entry).EndsAfter maxEntries now rounds ∧
    after = (before.placed key entry).drop rounds
  ahead : ∀ e ∈ after, e.2.isAhead now = true
  bounded : (after.length : Int) ≤ max 0 maxEntries
  /-- What is gone was replaced, had expired, or was one of the oldest entries, as many as were too
  many. -/
  gone : ∀ e, e ∈ before ∨ e = (key, entry) → e ∉ after → e ∈ before ∧ e.1 = key ∨
    e.2.isAhead now = false ∨
      e ∈ (before.placed key entry).take ((before.placed key entry).length - maxEntries.toNat)
  /-- No entry comes from elsewhere. -/
  stays : ∀ e ∈ after, e ∈ before ∧ e.1 ≠ key ∨ e = (key, entry)

/-- Invalidating leaves `after` of what was there before, and tells a number. -/
structure Invalidates (templateId tenantId : Option String) (before : Cache CacheKey Decision)
    (number : Nat) (after : Cache CacheKey Decision) : Prop where
  mem_iff : ∀ e, e ∈ after ↔ e ∈ before ∧ ¬Matches templateId tenantId e.1
  sublist : after.Sublist before
  number : number + after.length = before.length

/-- What becomes of the cache by an order. -/
inductive Effect (d : Desk) : Order → Cache CacheKey Decision → Prop
  | stored {graph : FlowGraph} {context : RoutingContext} {evidence : Evidence}
    {after : Cache CacheKey Decision} :
    Router.gate d.router.config ⟨graph, context, d.clock⟩ = none →
    d.router.kept? ⟨graph, context, d.clock⟩ = none →
    Stores d.router.config.cacheMaxEntries d.clock.reading (context.templateId, context.tenantId)
      ⟨graph.version,
        (Seconds.ofNumber? d.router.config.cacheTtlSeconds).map (d.clock.reading + ·),
        Router.decide d.router.config ⟨graph, context, d.clock⟩ evidence.1 evidence.2⟩
      d.router.cache after →
    Effect d (.route graph context evidence) after
  | settled {graph : FlowGraph} {context : RoutingContext} {evidence : Evidence} :
    Router.gate d.router.config ⟨graph, context, d.clock⟩ ≠ none ∨
      d.router.kept? ⟨graph, context, d.clock⟩ ≠ none →
    Effect d (.route graph context evidence) d.router.cache
  | asked {graph : FlowGraph} {context : RoutingContext} :
    Effect d (.lookup graph context) d.router.cache
  | invalidated {templateId tenantId : Option String} {after : Cache CacheKey Decision} :
    Invalidates templateId tenantId d.router.cache (d.router.invalidate templateId tenantId).1 after →
    Effect d (.invalidate templateId tenantId) after
  | passed {span : Seconds} : Effect d (.pass span) d.router.cache

section Orders

variable {config : RouterConfig} {d : Desk} {o : Order}

theorem concerns_iff {templateId tenantId : Option String} {key : CacheKey} :
    Router.concerns templateId tenantId key = true ↔ Matches templateId tenantId key := by
  unfold Router.concerns Matches
  cases templateId <;> cases tenantId <;> simp

theorem invalidates_invalidate (r : Router) (templateId tenantId : Option String) :
    Invalidates templateId tenantId r.cache (r.invalidate templateId tenantId).1
      (r.invalidate templateId tenantId).2.cache := by
  show Invalidates _ _ _ (r.cache.countP fun e => Router.concerns templateId tenantId e.1)
    (r.cache.filter fun e => !Router.concerns templateId tenantId e.1)
  refine ⟨fun e => ?_, List.filter_sublist, ?_⟩
  · rw [List.mem_filter, Bool.not_eq_true', ← Bool.not_eq_true, concerns_iff]
  · rw [← List.countP_eq_length_filter, List.length_eq_countP_add_countP fun e =>
      Router.concerns templateId tenantId e.1]
    simp

/-- An entry that expires last is stored. -/
theorem stores_store {maxEntries : Int} {now : Seconds} {key : CacheKey}
    {entry : CacheEntry Decision} {before : Cache CacheKey Decision}
    (horderly : Orderly (before.placed key entry)) :
    Stores maxEntries now key entry before (before.store maxEntries now key entry) := by
  have hkept : before.store maxEntries now key entry =
      (lastEntries maxEntries.toNat (before.placed key entry)).filter fun e => e.2.isAhead now :=
    evict_eq horderly.inOrder
  refine ⟨evict_rounds _ _ _, fun e he => ?_, ?_, fun e he hgone => ?_, fun e he => ?_⟩
  · rw [hkept] at he
    exact (List.mem_filter.mp he).2
  · have hlength := List.length_filter_le (fun e => e.2.isAhead now)
      (lastEntries maxEntries.toNat (before.placed key entry))
    rw [← hkept, Outcomes.length_lastEntries] at hlength
    omega
  · by_cases hreplaced : e ∈ before ∧ e.1 = key
    · exact .inl hreplaced
    · have hplaced : e ∈ before.placed key entry := by
        rw [mem_placed]
        rcases he with hold | hnew
        · exact .inl ⟨hold, fun hkey => hreplaced ⟨hold, hkey⟩⟩
        · exact .inr hnew
      rw [← List.take_append_drop ((before.placed key entry).length - maxEntries.toNat)
        (before.placed key entry), List.mem_append] at hplaced
      rcases hplaced with hold | hlast
      · exact .inr (.inr hold)
      · refine .inr (.inl (Bool.eq_false_iff.mpr fun hahead => hgone ?_))
        rw [hkept]
        exact List.mem_filter.mpr ⟨hlast, hahead⟩
  · exact mem_placed.mp ((evict_suffix _ _ _).subset he)

/-! ### Runs -/

/-- The clock goes forward. -/
def Order.Forward : Order → Prop
  | pass span => 0 ≤ span
  | route _ _ _ | lookup _ _ | invalidate _ _ => True

instance : DecidablePred Order.Forward
  | .pass span => inferInstanceAs (Decidable ((0 : Seconds) ≤ span))
  | .route _ _ _ | .lookup _ _ | .invalidate _ _ => isTrue trivial

/-- The cache is orderly, and nothing in it expires later than what would be stored now. -/
structure Upkept (config : RouterConfig) (d : Desk) : Prop where
  settings : d.router.config = config
  double : d.clock.reading.IsDouble
  orderly : Orderly d.router.cache
  bound : ∀ e ∈ d.router.cache, ∃ time span, e.2.expiresAt = some time ∧
    Seconds.ofNumber? config.cacheTtlSeconds = some span ∧ time ≤ d.clock.reading + span

/-- What is kept expires no later than what is stored now. -/
theorem Upkept.noLater (h : Upkept config d) {version : String} {value : Decision}
    {e : CacheKey × CacheEntry Decision} (he : e ∈ d.router.cache) : e.2.NoLater ⟨version,
      (Seconds.ofNumber? config.cacheTtlSeconds).map (d.clock.reading + ·), value⟩ := by
  obtain ⟨time, span, htime, hspan, hle⟩ := h.bound e he
  exact ⟨time, d.clock.reading + span, htime, by rw [hspan]; rfl, hle⟩

/-- Everything that is kept has a time. -/
theorem Upkept.dated (h : Upkept config d) : Dated d.router := by
  intro e he
  obtain ⟨time, span, htime, hspan, -⟩ := h.bound e he
  rw [htime, h.settings, hspan]
  exact ⟨rfl, rfl⟩

theorem cache_lookup (r : Router) (c : Router.Call) : (r.lookup c).2.cache = r.cache := by
  unfold Router.lookup
  split
  · rfl
  · split
    · split_ifs <;> rfl
    · rfl

theorem router_serve_lookup (d : Desk) (graph : FlowGraph) (context : RoutingContext) :
    (d.serve (.lookup graph context)).router =
      (d.router.lookup ⟨graph, context, d.clock⟩).2 := by
  unfold Desk.serve
  dsimp only
  rcases d.router.lookup ⟨graph, context, d.clock⟩ with ⟨_ | decision, router⟩ <;> rfl

/-- **An order does to the cache what it should**, if the cache is in order. -/
theorem Upkept.effect (h : Upkept config d) (o : Order) : Effect d o (d.serve o).router.cache := by
  obtain rfl := h.settings
  cases o with
  | route graph context evidence =>
    show Effect d _ (d.router.route ⟨graph, context, d.clock⟩ evidence.1 evidence.2).2.cache
    cases hgate : Router.gate d.router.config ⟨graph, context, d.clock⟩ with
    | some settled =>
      rw [route_of_settled hgate]
      exact .settled (.inl (by rw [hgate]; exact Option.some_ne_none settled))
    | none =>
      cases hkept : d.router.kept? ⟨graph, context, d.clock⟩ with
      | some kept =>
        rw [route_of_kept hgate hkept]
        exact .settled (.inr (by rw [hkept]; exact Option.some_ne_none kept))
      | none =>
        rw [route_of_open hgate hkept]
        exact .stored hgate hkept (stores_store (h.orderly.placed fun e he => h.noLater he))
  | lookup graph context =>
    have hserve := router_serve_lookup d graph context
    rw [hserve, cache_lookup]
    exact .asked
  | invalidate templateId tenantId =>
    exact .invalidated (invalidates_invalidate d.router templateId tenantId)
  | pass span => exact .passed

/-- What an order leaves is in order, and expires no later than what is stored now. -/
theorem Effect.kept {after : Cache CacheKey Decision} (heffect : Effect d o after)
    (h : Upkept config d) : Orderly after ∧ ∀ e ∈ after, ∃ time span, e.2.expiresAt = some time ∧
      Seconds.ofNumber? config.cacheTtlSeconds = some span ∧ time ≤ d.clock.reading + span := by
  obtain rfl := h.settings
  cases heffect with
  | stored hgate hkept hstores =>
    obtain ⟨rounds, -, hafter⟩ := hstores.ends
    refine ⟨?_, fun e he => ?_⟩
    · rw [hafter]
      exact (h.orderly.placed fun e he => h.noLater he).sublist (List.drop_sublist _ _)
    · rcases hstores.stays e he with ⟨hold, -⟩ | rfl
      · exact h.bound e hold
      · -- the new entry is still there, so it has a time
        have hahead := hstores.ahead _ he
        unfold CacheEntry.isAhead at hahead
        obtain ⟨time, htime, -⟩ := (Option.any_eq_true _ _).mp hahead
        obtain ⟨span, hspan, rfl⟩ := Option.map_eq_some_iff.mp htime
        exact ⟨_, span, htime, hspan, Int.le_refl _⟩
  | settled _ => exact ⟨h.orderly, h.bound⟩
  | asked => exact ⟨h.orderly, h.bound⟩
  | invalidated hinvalidates =>
    exact ⟨h.orderly.sublist hinvalidates.sublist,
      fun e he => h.bound e ((hinvalidates.mem_iff e).mp he).1⟩
  | passed => exact ⟨h.orderly, h.bound⟩

/-- **An order keeps the cache in order**, if the clock goes forward. -/
theorem Upkept.serve (h : Upkept config d) (hforward : o.Forward) : Upkept config (d.serve o) := by
  obtain ⟨horderly, hbound⟩ := (h.effect o).kept h
  have hstep := Desk.step_serve h.dated o
  have hlater : d.clock.reading ≤ (d.serve o).clock.reading := by
    cases o with
    | route graph context evidence => exact Int.le_refl _
    | lookup graph context =>
      unfold Desk.serve
      dsimp only
      split <;> exact Int.le_refl _
    | invalidate templateId tenantId => exact Int.le_refl _
    | pass span => exact Seconds.le_add h.double hforward
  refine ⟨hstep.config.trans h.settings, hstep.isDouble h.double, horderly, fun e he => ?_⟩
  obtain ⟨time, span, htime, hspan, hle⟩ := hbound e he
  exact ⟨time, span, htime, hspan, Int.le_trans hle (Seconds.add_le_add_right hlater span)⟩

end Orders

/-- **What a router keeps is always in order**, whatever its configuration is and whatever it was asked,
as long as the clock goes forward: there is one entry for each template and tenant, and entries expire
one after the other.  The next order does to it what `Effect` says. -/
theorem upkeep_of_run (config : RouterConfig) {clock : Clock} (hclock : clock.reading.IsDouble)
    {orders : List Order} (hforward : ∀ o ∈ orders, o.Forward) :
    Orderly (Desk.after config clock orders).router.cache ∧
    ∀ o, Effect (Desk.after config clock orders) o
      ((Desk.after config clock orders).serve o).router.cache := by
  have hupkept : Upkept config (Desk.after config clock orders) := by
    have hfresh : Upkept config (.fresh config clock) :=
      ⟨rfl, hclock, ⟨List.nodup_nil, List.Pairwise.nil⟩, fun _ he => nomatch he⟩
    unfold Desk.after
    generalize Desk.fresh config clock = d at hfresh
    induction orders generalizing d with
    | nil => exact hfresh
    | cons o more ih =>
      exact ih (fun o' ho' => hforward o' (List.mem_cons_of_mem _ ho')) (d.serve o)
        (hfresh.serve (hforward o List.mem_cons_self))
  exact ⟨hupkept.orderly, hupkept.effect⟩

/-! Three tenants come one after the other, where two decisions are kept, and then the first one again,
when that of the second one has expired. -/

def crowdConfig : RouterConfig := { RouterConfig.default with cacheMaxEntries := 2 }

def crowdOrders : List Order :=
  [.route (survey "1") (surveyed "acme" "ann") surveyEvidence, .pass (Seconds.ofNumber 30),
    .route (survey "1") (surveyed "globex" "bob") surveyEvidence, .pass (Seconds.ofNumber 20),
    .route (survey "1") (surveyed "initech" "cid") surveyEvidence, .pass (Seconds.ofNumber 45)]

theorem upkeep_of_run_crowd : surveyClock.reading.IsDouble ∧ (∀ o ∈ crowdOrders, o.Forward) ∧
    Orderly (Desk.after crowdConfig surveyClock crowdOrders).router.cache ∧
    (Table.names (Desk.after crowdConfig surveyClock crowdOrders).router.cache) =
      [("survey", "globex"), ("survey", "initech")] ∧
    let last : Order := .route (survey "1") (surveyed "acme" "ann") surveyEvidence
    let served := (Desk.after crowdConfig surveyClock crowdOrders).serve last
    Effect (Desk.after crowdConfig surveyClock crowdOrders) last served.router.cache ∧
      Table.names served.router.cache = [("survey", "initech"), ("survey", "acme")] := by
  have hclock : surveyClock.reading.IsDouble := by decide
  have hforward : ∀ o ∈ crowdOrders, o.Forward := by decide +kernel
  obtain ⟨horderly, heffect⟩ := upkeep_of_run crowdConfig hclock hforward
  exact ⟨hclock, hforward, horderly, by decide +kernel, heffect _, by decide +kernel⟩

end Parley.Routing
