import Parley.Proofs.Turn.Story

/-!
# Parley.Proofs.Turn.Stored — what a message stores

Whatever path a message takes, its reply tells of a walk from where the turn starts.  So what it
stores is an entry that goes on from the state before or starts anew (`proper_of_answered`), and the
stage visits of the reply are those of the nodes that the entry adds (`visits_of_answered`).
-/

namespace Parley.Turn

open Conversation (Interpreter State Walk)
open Recovery (Guarded)
open Storage (heldVersion)
open Template (FlowGraph)
open Time (Clocked Moment)

variable {ε : Type} [Clocked ε]

section Answered

variable {p : Processor ε} {i : Interpreter} {m : Inbound} {graph : FlowGraph}
  {base state : Option State} {working : State} {guarded : Guarded}

omit [Clocked ε] in
theorem eq_of_resumed {s : State} (h : resumed graph base = some s) :
    base = some s ∧ Resumes graph s := by
  obtain ⟨hbase, hresumes⟩ := Option.filter_eq_some_iff.mp h
  exact ⟨hbase, by simpa using hresumes⟩

/-- Where a turn starts: at the state that it goes on from, or anew. -/
structure Starts (graph : FlowGraph) (m : Inbound) (base : Option State) (working : State) :
    Prop where
  history : working.history = past graph base
  goesOn : ∀ s, resumed graph base = some s → working = s
  anew : resumed graph base = none →
    ∃ now, working = { State.initial graph m.key now with version := heldVersion base }

theorem starts_initial (h : resumed graph base = none) (now : Moment) :
    Starts graph m base { State.initial graph m.key now with version := heldVersion base } := by
  refine ⟨?_, fun s hs => ?_, fun _ => ⟨now, rfl⟩⟩
  · rw [past, h]
    rfl
  · rw [h] at hs
    cases hs

/-- The engines start at the state of the turn, or at the start of the session. -/
theorem starts_of_startsFrom {now : Moment} {modules : List Capability}
    (hstate : base.mapM (reconcile graph m.key now) = .ok state)
    (h : ((m.context graph state).message modules).StartsFrom working) :
    Starts graph m base working := by
  cases h with
  | @contact key now' hnone hkey =>
    obtain rfl : state = none := hnone
    obtain rfl : m.key = key := Option.some.inj hkey
    cases base with
    | none => exact starts_initial rfl now'
    | some s =>
      obtain ⟨_, -, hsome⟩ := exceptBind_eq_ok.mp hstate
      exact nomatch Except.ok.inj hsome
  | state hs =>
    obtain rfl : state = some working := hs
    cases base with
    | none => exact nomatch Except.ok.inj hstate
    | some s =>
      obtain ⟨s', hs', hsome⟩ := exceptBind_eq_ok.mp hstate
      obtain rfl : s' = working := Option.some.inj (Except.ok.inj hsome)
      by_cases hresumes : Resumes graph s
      · rw [reconcile_of_resumes hresumes] at hs'
        obtain rfl := Except.ok.inj hs'
        have hresumed : resumed graph (some s) = some s :=
          Option.filter_some_pos (by simpa using hresumes)
        refine ⟨?_, fun t ht => ?_, fun hnone => ?_⟩
        · rw [past, hresumed]
          rfl
        · exact Option.some.inj (hresumed.symm.trans ht)
        · rw [hresumed] at hnone
          cases hnone
      · have hresumed : resumed graph (some s) = none :=
          Option.filter_some_neg (by simpa using hresumes)
        rw [reconcile_of_not_resumes hresumes hs']
        exact starts_initial hresumed now

/-- On any path, the reply to a message tells of a walk from where the turn starts. -/
theorem walk_of_answered (hb : p.guard.manager.baseline = Engine.baseline i) (hg : graph.Closed)
    (hwalks : GuardsWalks p.guard) (h : Answered p m graph base state guarded) :
    (∃ working, Starts graph m base working ∧ Walk graph working guarded.reply) ∧
      (state.any (·.completed) = true → guarded.reply.visited = []) := by
  obtain ⟨⟨now, -, hstate⟩, decision, hexecute⟩ := h
  have hreply : ∃ modules, Walks ((m.context graph state).message modules) guarded.reply := by
    rcases reply_of_execute hb hexecute with ⟨now', -, hstep⟩ | ⟨hd, modules, object, hleave⟩
    · exact ⟨[], walks_of_step i hg hstep⟩
    · exact ⟨modules, hwalks (m.context graph state) modules _ object hg hleave hd⟩
  obtain ⟨modules, ⟨working, hstarts, hwalk⟩, hrests⟩ := hreply
  exact ⟨⟨working, starts_of_startsFrom hstate hstarts, hwalk⟩, hrests⟩

/-- The conversation of a walk is that of its start. -/
theorem conversation_of_walk {r : Conversation.Reply} (h : Walk graph working r) :
    conversation r.state = conversation working ∧ r.state.key = working.key := by
  rw [h.kept]
  exact ⟨rfl, rfl⟩

omit [Clocked ε] in
theorem key_storedAt (guarded : Guarded) (version : Int) :
    (storedAt guarded version).reply.state.key = guarded.reply.state.key := rfl

variable {name : String} {version : Int} {job : Nat}

/-- The entry of a reply that is stored goes on from the state before, or starts anew. -/
theorem proper_of_answered (hb : p.guard.manager.baseline = Engine.baseline i) (hg : graph.Closed)
    (hwalks : GuardsWalks p.guard) (hnamed : ∀ s, base = some s → s.key.join = .ok m.lockName)
    (h : Answered p m graph base state guarded) :
    Entry.Proper graph m.lockName ⟨job, base, (storedAt guarded version).reply.state⟩ := by
  obtain ⟨⟨working, hstarts, hwalk⟩, -⟩ := walk_of_answered hb hg hwalks h
  obtain ⟨hconversation, hkey⟩ := conversation_of_walk hwalk
  refine ⟨?_, ⟨guarded.reply.visited, ?_⟩, fun s hs => ?_⟩
  · dsimp only
    rw [key_storedAt, hkey]
    cases hresumed : resumed graph base with
    | none =>
      obtain ⟨now, rfl⟩ := hstarts.anew hresumed
      exact m.key_join
    | some s =>
      rw [hstarts.goesOn s hresumed]
      exact hnamed s (Option.filter_eq_some_iff.mp hresumed).1
  · show guarded.reply.state.history = _
    rw [hwalk.history, hstarts.history]
  · show conversation guarded.reply.state = _
    rw [hconversation, hstarts.goesOn s hs]

/-- The stage visits of a reply are those of the nodes that it adds to the history. -/
theorem visits_of_answered (hb : p.guard.manager.baseline = Engine.baseline i) (hg : graph.Closed)
    (hwalks : GuardsWalks p.guard) (h : Answered p m graph base state guarded) :
    (Entry.mk job base (storedAt guarded version).reply.state).visits graph =
      (storedAt guarded version).reply.stages.map
        (visitOf (storedAt guarded version).reply.state) := by
  obtain ⟨⟨working, hstarts, hwalk⟩, -⟩ := walk_of_answered hb hg hwalks h
  have hhistory : (storedAt guarded version).reply.state.history =
      past graph base ++ guarded.reply.visited.map .text := by
    rw [← hstarts.history]
    exact hwalk.history
  have hstages : (storedAt guarded version).reply.stages =
      Conversation.stageVisits graph (past graph base).length guarded.reply.visited := by
    rw [← hstarts.history]
    exact hwalk.stages
  have hnames (ids : List String) : (ids.map Value.text).filterMap nodeName = ids := by
    rw [List.filterMap_map]
    exact List.filterMap_some
  unfold Entry.visits
  dsimp only
  rw [hhistory, List.drop_left, hnames, hstages]

/-- A completed conversation has no stage visits. -/
theorem stages_of_completed (hb : p.guard.manager.baseline = Engine.baseline i) (hg : graph.Closed)
    (hwalks : GuardsWalks p.guard) (h : Answered p m graph base state guarded)
    (hcompleted : state.any (·.completed) = true) : guarded.reply.stages = [] := by
  obtain ⟨⟨working, -, hwalk⟩, hrests⟩ := walk_of_answered hb hg hwalks h
  rw [hwalk.stages, hrests hcompleted]
  rfl

end Answered

end Parley.Turn
