import Mathlib.Data.List.Nodup
import Parley.Proofs.Stages.Claims
import Parley.Proofs.Turn.Home

/-!
# Parley.Proofs.Turn.Story — no place of a conversation is stored twice

`Story graphs names first log held`: from the states `first` on, the entries of `log` were stored
one after the other, each in place of what was held under its name, and now and then a session was
forgotten; now `held` is held.  Each entry goes on from the state before or starts a conversation
anew, and its new nodes have stage visits.  `nodup_persisted`: if the conversations of a session
start at different times, no place in a conversation is visited twice.
-/

namespace Parley.Turn

open Conversation (SessionKey StageTransition State stageVisits)
open Stages (Advance VisitKey advanceOf)
open Storage (Replaces)
open Template (FlowGraph)

/-! ### Stage visits -/

section StageVisits

variable {graph : FlowGraph} {place : Nat} {ids : List String} {t : StageTransition}

/-- The stage visit of one node, if it has one. -/
def stageVisit (graph : FlowGraph) (place : Nat) (id : String) : Option StageTransition :=
  ((graph.node? id).bind (·.stage)).map fun stage => ⟨id, stage, place⟩

theorem stageVisits_cons (graph : FlowGraph) (place : Nat) (id : String) (ids : List String) :
    stageVisits graph place (id :: ids) =
      (stageVisit graph place id).toList ++ stageVisits graph (place + 1) ids := by
  unfold stageVisits stageVisit
  rw [List.zipIdx_cons, List.filterMap_cons]
  cases (graph.node? id).bind (·.stage) <;> rfl

/-- A stage visit is in the place of its node. -/
theorem place_of_mem (h : t ∈ stageVisits graph place ids) :
    (place : Int) ≤ t.historyIndex ∧ t.historyIndex < place + ids.length := by
  induction ids generalizing place with
  | nil => exact absurd h List.not_mem_nil
  | cons id ids ih =>
    rw [stageVisits_cons] at h
    rw [List.length_cons]
    rcases List.mem_append.mp h with h | h
    · obtain ⟨stage, -, rfl⟩ := Option.map_eq_some_iff.mp (Option.mem_toList.mp h)
      dsimp only
      omega
    · have := ih h
      omega

theorem nodup_places (graph : FlowGraph) (place : Nat) (ids : List String) :
    ((stageVisits graph place ids).map (·.historyIndex)).Nodup := by
  induction ids generalizing place with
  | nil => exact List.nodup_nil
  | cons id ids ih =>
    rw [stageVisits_cons, List.map_append, List.nodup_append]
    refine ⟨?_, ih (place + 1), fun a ha b hb => ?_⟩
    · cases stageVisit graph place id with
      | none => exact List.nodup_nil
      | some t => exact List.pairwise_singleton _ _
    · obtain ⟨t, ht, rfl⟩ := List.mem_map.mp ha
      obtain ⟨stage, -, rfl⟩ := Option.map_eq_some_iff.mp (Option.mem_toList.mp ht)
      obtain ⟨t', ht', rfl⟩ := List.mem_map.mp hb
      have := place_of_mem ht'
      dsimp only
      omega

end StageVisits

/-! ### What an entry adds -/

/-- The name of a node in a history. -/
def nodeName : Value → Option String
  | .text id => some id
  | _ => none

instance (graph : FlowGraph) (s : State) : Decidable (Resumes graph s) :=
  have : Decidable (∃ node, graph.lookup s.currentNodeId = .ok (some node)) :=
    match graph.lookup s.currentNodeId with
    | .ok (some node) => .isTrue ⟨node, rfl⟩
    | .ok none => .isFalse fun ⟨_, h⟩ => nomatch h
    | .error _ => .isFalse fun ⟨_, h⟩ => nomatch h
  inferInstanceAs (Decidable (_ ∧ _))

/-- The state that a turn goes on from; none if it starts anew. -/
def resumed (graph : FlowGraph) (base : Option State) : Option State :=
  base.filter fun s => Resumes graph s

/-- The history that a turn goes on from. -/
def past (graph : FlowGraph) (base : Option State) : List Value :=
  ((resumed graph base).map (·.history)).getD []

/-- A conversation: its session, and when it started, as the ledger writes it. -/
def conversation (s : State) : SessionKey × String := (s.key, s.startedAt.iso)

/-- A stage visit: how the ledger knows it, and the advance that it leads to. -/
structure Visit where
  key : VisitKey
  advance : Advance
  deriving DecidableEq

def visitOf (s : State) (t : StageTransition) : Visit := ⟨.of s t, advanceOf s t⟩

/-- The conversation that a visit is of, and its place in the history. -/
def spotOf (k : VisitKey) : (SessionKey × String) × Int :=
  ((⟨k.tenant, k.user, k.session⟩, k.startedAt), k.historyIndex)

def Visit.spot (v : Visit) : (SessionKey × String) × Int := spotOf v.key

theorem spot_visitOf (s : State) (t : StageTransition) :
    (visitOf s t).spot = (conversation s, t.historyIndex) := rfl

/-- The stage visits that an entry persists: those of the nodes that it adds to the history. -/
def Entry.visits (graph : FlowGraph) (e : Entry) : List Visit :=
  let added := e.after.history.drop (past graph e.before).length
  (stageVisits graph (past graph e.before).length (added.filterMap nodeName)).map (visitOf e.after)

/-- The stage visits that are persisted by some entries, each of a message with its own graph. -/
def persisted (graphs : Nat → Option FlowGraph) (log : List Entry) : List Visit :=
  log.flatMap fun e => ((graphs e.job).map fun graph => e.visits graph).getD []

theorem persisted_append {graphs : Nat → Option FlowGraph} {log : List Entry} {e : Entry}
    {graph : FlowGraph} (h : graphs e.job = some graph) :
    persisted graphs (log ++ [e]) = persisted graphs log ++ e.visits graph := by
  unfold persisted
  rw [List.flatMap_append, List.flatMap_singleton, h]
  rfl

/-! ### Stories -/

/-- An entry goes on from what was stored, or starts a conversation of its session anew. -/
structure Entry.Proper (graph : FlowGraph) (name : String) (e : Entry) : Prop where
  named : e.after.key.join = .ok name
  grows : ∃ ids : List String, e.after.history = past graph e.before ++ ids.map .text
  kept : ∀ s, resumed graph e.before = some s → conversation e.after = conversation s

/-- What was stored one after the other, each in place of what was held, and what is held now. -/
inductive Story (graphs : Nat → Option FlowGraph) (names : Nat → String)
    (first : String → Option State) : List Entry → (String → Option State) → Prop
  | start : Story graphs names first [] first
  | store {log : List Entry} {held held' : String → Option State} {e : Entry} {graph : FlowGraph} :
    Story graphs names first log held → graphs e.job = some graph →
    e.before = held (names e.job) → e.Proper graph (names e.job) →
    Replaces held held' (names e.job) (some e.after) →
    Story graphs names first (log ++ [e]) held'
  | forget {log : List Entry} {held held' : String → Option State} {name : String} :
    Story graphs names first log held → Replaces held held' name none →
    Story graphs names first log held'

/-- The entry starts a conversation. -/
def opens (graphs : Nat → Option FlowGraph) (e : Entry) : Bool :=
  (graphs e.job).any fun graph => (resumed graph e.before).isNone

/-- If the states are of one session, their conversations started at different times. -/
def StartApart (s s' : State) : Prop := s.key = s'.key → s.startedAt.iso ≠ s'.startedAt.iso

instance (s s' : State) : Decidable (StartApart s s') := inferInstanceAs (Decidable (_ → _))

/-- Each conversation of a session starts at a time of its own. -/
structure Apart (graphs : Nat → Option FlowGraph) (first : String → Option State)
    (log : List Entry) : Prop where
  openings : (log.filter (opens graphs)).Pairwise fun e e' => StartApart e.after e'.after
  first : ∀ e ∈ log.filter (opens graphs), ∀ name s, first name = some s → StartApart s e.after

section Story

variable {graphs : Nat → Option FlowGraph} {names : Nat → String} {first : String → Option State}
  {log more : List Entry} {held held' : String → Option State} {e : Entry} {graph : FlowGraph}

theorem conversation_ne {s s' : State} (h : StartApart s s') :
    conversation s ≠ conversation s' := by
  intro heq
  obtain ⟨hkey, htime⟩ := Prod.mk.inj heq
  exact h hkey htime

theorem Apart.of_append (h : Apart graphs first (log ++ more)) : Apart graphs first log := by
  obtain ⟨hopenings, hfirst⟩ := h
  rw [List.filter_append] at hopenings hfirst
  exact ⟨(List.pairwise_append.mp hopenings).1, fun e he => hfirst e (List.mem_append_left _ he)⟩

/-- The conversation was there at first, or an entry started it. -/
def Known (graphs : Nat → Option FlowGraph) (first : String → Option State) (log : List Entry)
    (c : SessionKey × String) : Prop :=
  (∃ e ∈ log.filter (opens graphs), conversation e.after = c) ∨
    ∃ name s, first name = some s ∧ conversation s = c

theorem Known.append {c : SessionKey × String} (h : Known graphs first log c) (e : Entry) :
    Known graphs first (log ++ [e]) c := by
  rcases h with ⟨e', he', hc⟩ | hc
  · refine .inl ⟨e', ?_, hc⟩
    rw [List.filter_append]
    exact List.mem_append_left _ he'
  · exact .inr hc

theorem known_of_opens (h : opens graphs e = true) :
    Known graphs first (log ++ [e]) (conversation e.after) := by
  refine .inl ⟨e, ?_, rfl⟩
  rw [List.filter_append, List.filter_cons_of_pos h]
  exact List.mem_append_right _ List.mem_cons_self

/-- A conversation that starts is not known yet. -/
theorem not_known (hapart : Apart graphs first (log ++ [e])) (h : opens graphs e = true) :
    ¬ Known graphs first log (conversation e.after) := by
  obtain ⟨hopenings, hfirst⟩ := hapart
  rw [List.filter_append, List.filter_cons_of_pos h] at hopenings hfirst
  rintro (⟨e', he', hc⟩ | ⟨name, s, hs, hc⟩)
  · have happ := (List.pairwise_append.mp hopenings).2.2 e' he' e List.mem_cons_self
    exact conversation_ne happ hc
  · have happ := hfirst e (List.mem_append_right _ List.mem_cons_self) name s hs
    exact conversation_ne happ hc

/-- The visits of an entry are in its conversation, in the places that it adds. -/
theorem Entry.spot_of_mem {v : Visit} (h : v ∈ e.visits graph) :
    v.spot.1 = conversation e.after ∧ ((past graph e.before).length : Int) ≤ v.spot.2 ∧
      v.spot.2 < e.after.history.length := by
  obtain ⟨t, ht, rfl⟩ := List.mem_map.mp h
  have hplace := place_of_mem ht
  have hadded := List.length_filterMap_le nodeName
    (e.after.history.drop (past graph e.before).length)
  rw [List.length_drop] at hadded
  rw [spot_visitOf]
  refine ⟨rfl, hplace.1, ?_⟩
  dsimp only
  omega

theorem Entry.nodup_spots (graph : FlowGraph) (e : Entry) :
    ((e.visits graph).map Visit.spot).Nodup := by
  have hplaces := nodup_places graph (past graph e.before).length
    ((e.after.history.drop (past graph e.before).length).filterMap nodeName)
  have hinjective : Function.Injective fun place : Int => (conversation e.after, place) :=
    fun _ _ h => (Prod.mk.inj h).2
  have hspots := hplaces.map hinjective
  rw [List.map_map] at hspots
  unfold Entry.visits
  rw [List.map_map]
  exact hspots

/-- What is held after one state took the place of another. -/
theorem of_replaces {name other : String} {s : Option State} {s' : State}
    (h : Replaces held held' name s) (hs : held' other = some s') :
    other = name ∧ s = some s' ∨ other ≠ name ∧ held other = some s' := by
  by_cases ho : other = name
  · rw [ho, h.1] at hs
    exact .inl ⟨ho, hs⟩
  · rw [h.2 other ho] at hs
    exact .inr ⟨ho, hs⟩

/-- Every state is held under the name of its session. -/
def Named (held : String → Option State) : Prop :=
  ∀ name s, held name = some s → s.key.join = .ok name

theorem Story.named (h : Story graphs names first log held) (hfirst : Named first) :
    Named held := by
  induction h with
  | start => exact hfirst
  | store _ _ _ hproper hreplaces ih =>
    intro name s hs
    rcases of_replaces hreplaces hs with ⟨rfl, hafter⟩ | ⟨-, hs⟩
    · rw [← Option.some.inj hafter]
      exact hproper.named
    · exact ih name s hs
  | forget _ hreplaces ih =>
    intro name s hs
    rcases of_replaces hreplaces hs with ⟨-, hnone⟩ | ⟨-, hs⟩
    · exact nomatch hnone
    · exact ih name s hs

/-- All visits so far are of known conversations, and behind what is held. -/
structure Recorded (graphs : Nat → Option FlowGraph) (first : String → Option State)
    (log : List Entry) (held : String → Option State) : Prop where
  known : ∀ name s, held name = some s → Known graphs first log (conversation s)
  visited : ∀ v ∈ persisted graphs log, Known graphs first log v.spot.1
  behind : ∀ v ∈ persisted graphs log, ∀ name s, held name = some s → v.spot.1 = conversation s →
    v.spot.2 < s.history.length
  nodup : ((persisted graphs log).map Visit.spot).Nodup

theorem recorded_nil : Recorded graphs first [] first where
  known := fun name s hs => .inr ⟨name, s, hs, rfl⟩
  visited := fun _ hv => absurd hv List.not_mem_nil
  behind := fun _ hv => absurd hv List.not_mem_nil
  nodup := List.nodup_nil

theorem Recorded.forget (h : Recorded graphs first log held) {name : String}
    (hreplaces : Replaces held held' name none) : Recorded graphs first log held' := by
  have hback (other : String) (s : State) (hs : held' other = some s) : held other = some s := by
    rcases of_replaces hreplaces hs with ⟨-, hnone⟩ | ⟨-, hs⟩
    · exact nomatch hnone
    · exact hs
  exact ⟨fun n s hs => h.known n s (hback n s hs), h.visited,
    fun v hv n s hs => h.behind v hv n s (hback n s hs), h.nodup⟩

/-- Nothing was visited so far in the places that an entry adds to its conversation. -/
theorem Recorded.before_of_mem (h : Recorded graphs first log held)
    (hapart : Apart graphs first (log ++ [e])) (hgraph : graphs e.job = some graph)
    (hbefore : e.before = held (names e.job)) (hproper : e.Proper graph (names e.job)) {v : Visit}
    (hv : v ∈ persisted graphs log) (hsame : v.spot.1 = conversation e.after) :
    v.spot.2 < (past graph e.before).length := by
  cases hresumed : resumed graph e.before with
  | none =>
    have hopens : opens graphs e = true := by simp [opens, hgraph, hresumed]
    exact absurd (hsame ▸ h.visited v hv) (not_known hapart hopens)
  | some s =>
    have hheld : held (names e.job) = some s := hbefore ▸ (Option.filter_eq_some_iff.mp hresumed).1
    have hpast : past graph e.before = s.history := by simp [past, hresumed]
    rw [hpast]
    exact h.behind v hv _ s hheld (hsame.trans (hproper.kept s hresumed))

theorem Recorded.known_store (h : Recorded graphs first log held)
    (hgraph : graphs e.job = some graph) (hbefore : e.before = held (names e.job))
    (hproper : e.Proper graph (names e.job)) :
    Known graphs first (log ++ [e]) (conversation e.after) := by
  cases hresumed : resumed graph e.before with
  | none => exact known_of_opens (by simp [opens, hgraph, hresumed])
  | some s =>
    have hheld : held (names e.job) = some s := hbefore ▸ (Option.filter_eq_some_iff.mp hresumed).1
    rw [hproper.kept s hresumed]
    exact (h.known _ s hheld).append e

theorem Recorded.store (h : Recorded graphs first log held) (hnamed : Named held)
    (hapart : Apart graphs first (log ++ [e])) (hgraph : graphs e.job = some graph)
    (hbefore : e.before = held (names e.job)) (hproper : e.Proper graph (names e.job))
    (hreplaces : Replaces held held' (names e.job) (some e.after)) :
    Recorded graphs first (log ++ [e]) held' := by
  have hknown := h.known_store hgraph hbefore hproper
  have hearlier {v : Visit} (hv : v ∈ persisted graphs log)
      (hsame : v.spot.1 = conversation e.after) :=
    h.before_of_mem hapart hgraph hbefore hproper hv hsame
  obtain ⟨ids, hgrows⟩ := hproper.grows
  have hlonger : (past graph e.before).length ≤ e.after.history.length := by
    rw [hgrows, List.length_append]
    exact Nat.le_add_right _ _
  refine ⟨fun n s hs => ?_, fun v hv => ?_, fun v hv n s hs hsame => ?_, ?_⟩
  · rcases of_replaces hreplaces hs with ⟨-, hafter⟩ | ⟨-, hs⟩
    · rw [← Option.some.inj hafter]
      exact hknown
    · exact (h.known n s hs).append e
  · rw [persisted_append hgraph] at hv
    rcases List.mem_append.mp hv with hv | hv
    · exact (h.visited v hv).append e
    · rw [(Entry.spot_of_mem hv).1]
      exact hknown
  · rw [persisted_append hgraph] at hv
    rcases of_replaces hreplaces hs with ⟨-, hafter⟩ | ⟨hother, hs⟩
    · rw [← Option.some.inj hafter] at hsame ⊢
      rcases List.mem_append.mp hv with hv | hv
      · have := hearlier hv hsame
        omega
      · exact (Entry.spot_of_mem hv).2.2
    · rcases List.mem_append.mp hv with hv | hv
      · exact h.behind v hv n s hs hsame
      · -- no other name holds a state of the entry's session
        have hkey : e.after.key = s.key :=
          (Prod.mk.inj ((Entry.spot_of_mem hv).1.symm.trans hsame)).1
        have hnames := hproper.named
        rw [hkey, hnamed n s hs] at hnames
        exact absurd (Except.ok.inj hnames) hother
  · rw [persisted_append hgraph, List.map_append, List.nodup_append]
    refine ⟨h.nodup, e.nodup_spots graph, fun a ha b hb heq => ?_⟩
    obtain ⟨v, hv, rfl⟩ := List.mem_map.mp ha
    obtain ⟨v', hv', rfl⟩ := List.mem_map.mp hb
    obtain ⟨hconversation, hplace, -⟩ := Entry.spot_of_mem hv'
    have := hearlier hv ((congrArg Prod.fst heq).trans hconversation)
    rw [heq] at this
    omega

/-- All of a story is recorded. -/
theorem Story.recorded (h : Story graphs names first log held) (hfirst : Named first)
    (hapart : Apart graphs first log) : Recorded graphs first log held := by
  induction h with
  | start => exact recorded_nil
  | store hstory hgraph hbefore hproper hreplaces ih =>
    exact (ih hapart.of_append).store (hstory.named hfirst) hapart hgraph hbefore hproper hreplaces
  | forget _ hreplaces ih => exact (ih hapart).forget hreplaces

/-- **No place of a conversation is visited twice.** -/
theorem nodup_persisted (h : Story graphs names first log held) (hfirst : Named first)
    (hapart : Apart graphs first log) : ((persisted graphs log).map Visit.spot).Nodup :=
  (h.recorded hfirst hapart).nodup

/-- The ledger tells all visits apart. -/
theorem nodup_keys (h : Story graphs names first log held) (hfirst : Named first)
    (hapart : Apart graphs first log) : ((persisted graphs log).map Visit.key).Nodup := by
  have hspots := nodup_persisted h hfirst hapart
  have hspot : Visit.spot = spotOf ∘ Visit.key := rfl
  rw [hspot, ← List.map_map] at hspots
  exact hspots.of_map spotOf

end Story

end Parley.Turn
