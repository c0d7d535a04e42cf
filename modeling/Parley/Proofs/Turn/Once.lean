import Parley.Proofs.Turn.Confined

/-!
# Parley.Proofs.Turn.Once — how often a message is applied

A store may lose the answer to a save after the state was stored.  The save is tried again, finds the
version that it has stored itself, and reports a conflict; and a message that meets a conflict loads
the state and starts again.  `Applied` is the chain of states that are stored that way, each the reply
to the message in the state before.  `counted_of_run`: if nobody else writes to the session, a message
that returns has stored such a chain, all answers but the last one were lost, and without a loss the
chain has one link.  `not_applied_once` is a message with one loss, and two links.
-/

namespace Parley.Turn

open Conversation (Interpreter State)
open Pact (Ending)
open Recovery (Guarded)
open Storage (Holding Losing Replaces Store heldVersion)
open Template (FlowGraph Registry)
open Time (Clocked Seconds)

variable {ε : Type}

/-! ### Writes -/

/-- A state that was stored, the one that it took the place of, and whether the answer was lost. -/
structure Write where
  before : Option State
  after : State
  lost : Bool

section Writes

variable (held : Store → String → Option State) (lost : Store → Store → Bool) (name : String)

/-- What the steps of a trace stored under a name. -/
def writes (trace : List (Crew.Move (World ε))) : List Write :=
  trace.flatMap fun v => (entries held name v.job v.before.store v.after.store).map fun e =>
    ⟨e.before, e.after, lost v.before.store v.after.store⟩

variable {held lost name} {trace : List (Crew.Move (World ε))} {w w' : World ε} {i : Nat}

theorem writes_append_of_same (h : held w'.store = held w.store) :
    writes held lost name (trace ++ Crew.record i w w') = writes held lost name trace := by
  unfold writes Crew.record
  rw [List.flatMap_append, List.flatMap_singleton, entries_of_same h]
  exact List.append_nil _

theorem writes_append_of_next {state : State} (h : held w'.store name = some state)
    (hv : state.version = heldVersion (held w.store name) + 1) :
    writes held lost name (trace ++ Crew.record i w w') =
      writes held lost name trace ++ [⟨held w.store name, state, lost w.store w'.store⟩] := by
  unfold writes Crew.record
  rw [List.flatMap_append, List.flatMap_singleton, entries_of_next h hv]
  rfl

end Writes

variable [Clocked ε] {p : Processor ε} {m : Inbound} {graph : FlowGraph}

/-- The state `after` is the one of the reply to the message when `before` is stored and the
conversation goes on, under the next version. -/
def Applies (p : Processor ε) (m : Inbound) (graph : FlowGraph) (before : Option State)
    (after : State) : Prop :=
  ∃ state guarded, Answered p m graph before state guarded ∧
    state.any (·.completed) = false ∧
    after = (storedAt guarded (heldVersion before + 1)).reply.state

/-- The message is applied again and again, each time to the state stored before. -/
inductive Applied (p : Processor ε) (m : Inbound) (graph : FlowGraph) (first : Option State) :
    List Write → Option State → Prop
  | start : Applied p m graph first [] first
  | again {log : List Write} {e : Write} : Applied p m graph first log e.before →
    Applies p m graph e.before e.after → Applied p m graph first (log ++ [e]) (some e.after)

section Applied

variable {first last : Option State} {log : List Write}

/-- Each link counts. -/
theorem Applied.version (h : Applied p m graph first log last) :
    heldVersion last = heldVersion first + log.length := by
  induction h with
  | start => exact (Int.add_zero _).symm
  | @again log e _ happlies ih =>
    obtain ⟨state, guarded, -, -, hafter⟩ := happlies
    have hversion : heldVersion (some e.after) = heldVersion e.before + 1 := by
      rw [hafter]
      rfl
    rw [hversion, ih, List.length_append, List.length_singleton]
    omega

theorem Applied.eq_first (h : Applied p m graph first [] last) : last = first := by
  generalize hlog : ([] : List Write) = log at h
  cases h with
  | start => rfl
  | again _ _ => exact absurd hlog.symm (List.append_ne_nil_of_right_ne_nil _ (List.cons_ne_nil _ _))

theorem Applied.last_eq {e : Write} (h : Applied p m graph first (log ++ [e]) last) :
    last = some e.after := by
  generalize hlog : log ++ [e] = log' at h
  cases h with
  | start => exact absurd hlog (List.append_ne_nil_of_right_ne_nil _ (List.cons_ne_nil _ _))
  | again _ _ =>
    obtain ⟨-, he⟩ := List.append_inj' hlog rfl
    rw [List.singleton_inj.mp he]

end Applied

/-! ### Steps -/

/-- What a message did with its session: it loaded a state, stored one in its place without an
answer, or with one. -/
inductive Progress
  | nothing
  | loaded (base : Option State)
  | missed (base : Option State)
  | kept (after : State)

/-- The state stored is as the message left it. -/
def Progress.Fits (current : Option State) : Progress → Prop
  | nothing => True
  | loaded base => current = base
  | missed base => heldVersion current = heldVersion base + 1
  | kept after => current = some after

/-- What a message knows: its graph, and what it did. -/
structure Draft where
  graph : Option FlowGraph
  progress : Progress

def Draft.fresh : Draft := ⟨none, .nothing⟩

section Steps

variable (fair : State → Prop) (sound : Store → Prop) (held : Store → String → Option State)
  (lost : Store → Store → Bool) (p : Processor ε) (m : Inbound)

/-- What a message may do, and note.  Of a reply that is not fair it is not known how it is stored. -/
inductive Deed : Draft → World ε → Draft → World ε → Prop
  | calm {n : Draft} {w w' : World ε} : Calm sound held w w' → Deed n w n w'
  | fetch {w : World ε} {graph : FlowGraph} : w.registry.serves m.templateId = .ok graph →
    Deed .fresh w ⟨some graph, .nothing⟩ w
  | load {n : Draft} {w w' : World ε} : Calm sound held w w' → (∀ s, n.progress ≠ .kept s) →
    Deed n w { n with progress := .loaded (held w.store m.lockName) } w'
  | store {n : Draft} {w : World ε} {graph : FlowGraph} {base : Option State} {after : State}
      {s : Store} : n.graph = some graph → n.progress = .loaded base →
    Applies p m graph base after → after.key = m.key → sound s →
    Replaces (held w.store) (held s) m.lockName (some after) →
    Deed n w
      { n with progress := if lost w.store s then .missed base else .kept after }
      { w with store := s }
  | spoil {n n' : Draft} {w w' : World ε} {graph : FlowGraph} {base state : Option State}
      {guarded : Guarded} : n.graph = some graph → (∀ s, base = some s → fair s) →
    Answered p m graph base state guarded → ¬ fair guarded.reply.state → Deed n w n' w'

/-- What is so while nobody else stores anything for the session. -/
structure Undisturbed (n : Draft) (w : World ε) : Prop where
  sound : sound w.store
  closed : w.registry.Closed
  owned : ∀ s, held w.store m.lockName = some s → s.key = m.key
  fits : n.progress.Fits (held w.store m.lockName)

/-- What a message may rely on, and what it may do. -/
def deeds : Pact (World ε) Draft where
  sees := Undisturbed sound held m
  moves := Deed fair sound held lost p m

theorem ignores_deeds : (deeds fair sound held lost p m).Ignores (Calm sound held) :=
  ⟨Calm.refl, Calm.trans, fun _ h => .calm h⟩

end Steps

/-- The message has its graph, and no answer to a save. -/
structure Draft.OnWay (graph : FlowGraph) (n : Draft) : Prop where
  graph : n.graph = some graph
  free : ∀ after, n.progress ≠ .kept after

/-- The message has loaded a state, which is a fair one of its session. -/
structure Draft.HasLoaded (fair : State → Prop) (m : Inbound) (graph : FlowGraph)
    (base : Option State) (n : Draft) : Prop where
  graph : n.graph = some graph
  loaded : n.progress = .loaded base
  fair : ∀ s, base = some s → fair s
  owned : ∀ s, base = some s → s.key = m.key

/-- The message tries to store its reply to a state. -/
structure Draft.Tries (graph : FlowGraph) (base : Option State) (n : Draft) : Prop where
  graph : n.graph = some graph
  progress : n.progress = .loaded base ∨ n.progress = .missed base

/-- What a message may tell in the end: the state that it stored, unless it found the conversation
completed. -/
def Draft.Tells (n : Draft) (told : State) : Prop :=
  (∃ graph, n.graph = some graph) ∧
    (n.progress = .kept told ∨ ∃ base, n.progress = .loaded base ∧
      base.any (·.completed) = true)

theorem Draft.HasLoaded.onWay {fair : State → Prop} {base : Option State} {n : Draft}
    (h : n.HasLoaded fair m graph base) : n.OnWay graph := by
  refine ⟨h.graph, fun after hkept => ?_⟩
  rw [h.loaded] at hkept
  exact nomatch hkept

/-- Who finds the version expected has not stored anything yet. -/
theorem Draft.Tries.loaded {base current : Option State} {n : Draft} (h : n.Tries graph base)
    (hfits : n.progress.Fits current) (hversion : heldVersion current = heldVersion base) :
    n.progress = .loaded base := by
  rcases h.progress with hloaded | hmissed
  · exact hloaded
  · rw [hmissed] at hfits
    have hnext : heldVersion current = heldVersion base + 1 := hfits
    omega

theorem Draft.Tries.onWay {base : Option State} {n : Draft} (h : n.Tries graph base) :
    n.OnWay graph := by
  refine ⟨h.graph, fun after hkept => ?_⟩
  rcases h.progress with hloaded | hmissed
  · exact nomatch hkept.symm.trans hloaded
  · exact nomatch hkept.symm.trans hmissed

/-- A turn starts with a completed conversation only where one is stored. -/
theorem completed_of_answered {base state : Option State} {guarded : Guarded}
    (h : Answered p m graph base state guarded) (hcompleted : state.any (·.completed) = true) :
    base.any (·.completed) = true := by
  obtain ⟨now, -, hresumed⟩ := h.resumed
  cases base with
  | none =>
    rw [← Except.ok.inj hresumed] at hcompleted
    exact nomatch hcompleted
  | some s =>
    obtain ⟨s', hs', hstate⟩ := exceptBind_eq_ok.mp hresumed
    rw [← Except.ok.inj hstate] at hcompleted
    by_cases hresumes : Resumes graph s
    · rw [reconcile_of_resumes hresumes] at hs'
      rwa [← Except.ok.inj hs'] at hcompleted
    · rw [reconcile_of_not_resumes hresumes hs'] at hcompleted
      exact nomatch hcompleted

section Message

variable {fair : State → Prop} {sound : Store → Prop} {held : Store → String → Option State}
  {lost : Store → Store → Bool} {i : Interpreter}

theorem leads_fetching :
    (deeds fair sound held lost p m).Leads (· = .fresh) (graphOf m.templateId)
      (Ending (fun _ => True) fun n graph => n = ⟨some graph, .nothing⟩ ∧ graph.Closed) := by
  refine leads_graphOf_of (ignores_deeds fair sound held lost p m) fun n w hn hw => ?_
  -- the graph is noted at the look at the registry
  cases hfetch : w.registry.fetch m.templateId with
  | error f => exact ⟨n, .calm (.refl w), fun _ _ h => nomatch h⟩
  | ok found =>
    rw [hn]
    have hserves := Registry.serves_of_fetch hfetch
    refine ⟨_, .fetch hserves, fun graph registry h => ?_⟩
    obtain rfl := Except.ok.inj h
    exact ⟨⟨rfl, hw.closed.serves hserves⟩, Calm.registry (hw.closed.fetch hfetch)⟩

theorem leads_getting (hstore : Holding fair sound held) (hprior : m.prior = none) (attempt : Nat) :
    (deeds fair sound held lost p m).Leads (Draft.OnWay graph) (load m attempt)
      (Ending (Draft.OnWay graph) fun n base => n.HasLoaded fair m graph base) := by
  refine leads_load_of (J := fun base n => n.HasLoaded fair m graph base)
    (ignores_deeds fair sound held lost p m) (fun _ hsome => nomatch hprior.symm.trans hsome)
    (fun now => Pact.leads_tryPart fun n w hn hw => ?_) attempt
  obtain ⟨hsound, hheld, hbase⟩ := hstore.load now m.key hw.sound
  have hcalm : Calm sound held w { w with store := (w.store.load now m.key).2 } :=
    ⟨fun _ => ⟨hsound, hheld⟩, fun h => h⟩
  cases hanswer : (w.store.load now m.key).1 with
  | error f => exact ⟨n, .calm hcalm, hn⟩
  | ok base =>
    have hfound := hbase base m.lockName m.key_join hanswer
    refine ⟨{ n with progress := .loaded (held w.store m.lockName) }, .load hcalm hn.free,
      hn.graph, ?_, fun s hs => hstore.holds hw.sound (hfound.symm.trans hs),
      fun s hs => hw.owned s (hfound ▸ hs)⟩
    rw [hfound]

variable (hb : p.guard.manager.baseline = Engine.baseline i) (hwalks : GuardsWalks p.guard)
  (hprior : m.prior = none)
include hb hwalks hprior

theorem key_of_applies (hg : graph.Closed) {base state : Option State} {guarded : Guarded}
    (hbase : ∀ s, base = some s → s.key = m.key) (h : Answered p m graph base state guarded) :
    guarded.reply.state.key = m.key := by
  have hconcerns := concerns_of_answered hb hwalks hg (fun s hs => .inl fun _ => hbase s hs) h
  generalize guarded.reply.state.key = key at hconcerns
  cases hconcerns with
  | own => rfl
  | brought hbrought _ => exact nomatch hprior.symm.trans hbrought

variable (hstore : Losing fair sound held lost)
include hstore

omit hb hwalks hprior in
/-- One call of the store: it stores the reply where the version is the one expected, and its answer
may be lost. -/
theorem leads_offering {base state : Option State} {guarded : Guarded}
    (hfair : ∀ s, base = some s → fair s)
    (hanswered : Answered p m graph base state guarded) (hopen : state.any (·.completed) = false)
    (hkey : guarded.reply.state.key = m.key) :
    (deeds fair sound held lost p m).Leads (Draft.Tries graph base)
      (Action.tryPart (Store.save guarded.reply.state ((state.map (·.version)).getD 0)))
      (Ending (Draft.Tries graph base) fun n saved =>
        if saved.ok then n.Tells (saved.adopt guarded.reply.state) else n.OnWay graph) := by
  refine Pact.leads_tryPart fun n w hn hw => ?_
  obtain ⟨now, -, hresumed⟩ := hanswered.resumed
  have hexpected : (state.map State.version).getD 0 = heldVersion base := heldVersion_mapM hresumed
  rw [hexpected]
  by_cases hreply : fair guarded.reply.state
  case neg =>
    cases (Store.save guarded.reply.state (heldVersion base) (Holds.part w)).1 with
    | error f => exact ⟨n, .spoil hn.graph hfair hanswered hreply, hn⟩
    | ok saved =>
      dsimp only [Ending]
      split_ifs
      · exact ⟨⟨some graph, .kept _⟩, .spoil hn.graph hfair hanswered hreply, ⟨graph, rfl⟩, .inl rfl⟩
      · exact ⟨n, .spoil hn.graph hfair hanswered hreply, hn.onWay⟩
  obtain ⟨hsound, ⟨hheld, hno⟩ | ⟨name, hname, hfound, hreplaces, hanswer⟩⟩ :=
    hstore.save (heldVersion base) hw.sound hreply
  · refine ⟨n, .calm ⟨fun _ => ⟨hsound, hheld⟩, fun h => h⟩, ?_⟩
    cases hanswer : (w.store.save guarded.reply.state (heldVersion base)).1 with
    | error f => exact hn
    | ok saved =>
      dsimp only [Ending]
      rw [if_neg (by rw [hno saved hanswer]; exact Bool.false_ne_true)]
      exact hn.onWay
  · rw [hkey, m.key_join] at hname
    obtain rfl := Except.ok.inj hname
    refine ⟨_, .store hn.graph (hn.loaded hw.fits hfound) ⟨state, guarded, hanswered, hopen, rfl⟩
      hkey hsound hreplaces, ?_⟩
    rcases hanswer with ⟨hlost, hstored⟩ | ⟨hlost, f, hfailed⟩
    · rw [show (Store.save guarded.reply.state (heldVersion base) (Holds.part w)).1 = _
        from hstored]
      exact ⟨⟨graph, hn.graph⟩, .inl (if_neg (Bool.eq_false_iff.mp hlost))⟩
    · rw [show (Store.save guarded.reply.state (heldVersion base) (Holds.part w)).1 = _
        from hfailed]
      exact ⟨hn.graph, .inr (if_pos hlost)⟩

theorem leads_storing (hg : graph.Closed) {base state : Option State} {guarded : Guarded}
    (hanswered : Answered p m graph base state guarded)
    (hopen : state.any (·.completed) = false) :
    (deeds fair sound held lost p m).Leads (fun n => n.HasLoaded fair m graph base)
      (save state guarded.reply) (Ending (Draft.OnWay graph) fun n saved =>
        if saved.ok then n.Tells (saved.adopt guarded.reply.state) else n.OnWay graph) := by
  intro n₀ hloaded
  have hkey := key_of_applies hb hwalks hprior hg hloaded.owned hanswered
  have hsave := leads_withRetry (ignores_deeds fair sound held lost p m)
    (leads_offering hstore hloaded.fair hanswered hopen hkey) "state_save"
  refine (hsave n₀ ⟨hloaded.graph, .inl hloaded.loaded⟩).mono fun n o hn => ?_
  cases o with
  | error f => exact hn.onWay
  | ok saved => exact hn

/-- **A message does nothing else.** -/
theorem leads_applying :
    (deeds fair sound held lost p m).Leads (· = .fresh) (process p m)
      (Ending (fun _ => True) fun n outcome => n.Tells outcome.state) := by
  have hidle := ignores_deeds fair sound held lost p m
  have htry (graph : FlowGraph) (start : Seconds) : (deeds fair sound held lost p m).Leads
      (fun n => n = ⟨some graph, .nothing⟩ ∧ graph.Closed)
      (tryRepeatedly p m graph start p.attempts.toNat 0)
      (Ending (Draft.OnWay graph) fun n settled => n.Tells settled.guarded.reply.state) := by
    refine Pact.leads_of_fact fun hg => Pact.Leads.weaken (I := Draft.OnWay graph) ?_ ?_
    · exact leads_tryRepeatedly (J := fun base n => n.HasLoaded fair m graph base)
        (K := fun guarded n => n.Tells guarded.reply.state) hidle
        (Calm.load hstore.toHolding) (leads_getting hstore.toHolding hprior) (fun base n hn => hn.onWay)
        (fun n hanswered hcompleted hn => ⟨⟨graph, hn.graph⟩, .inr
          ⟨_, hn.loaded, completed_of_answered hanswered hcompleted⟩⟩)
        (fun hanswered hopen => leads_storing hb hwalks hprior hstore hg hanswered hopen) start _ 0
    · rintro n rfl
      exact ⟨rfl, fun _ h => nomatch h⟩
  refine (leads_process_of (K := fun guarded n => n.Tells guarded.reply.state) hidle leads_fetching
    htry fun guarded _ _ => Calm.idle_schedule guarded).mono fun n o hn => ?_
  cases o with
  | error f => trivial
  | ok outcome =>
    obtain ⟨guarded, htells, hstate, -⟩ := hn
    show n.Tells outcome.state
    rwa [hstate]

end Message

/-! ### Runs -/

section Run

variable {fair : State → Prop} {sound : Store → Prop} {held : Store → String → Option State}
  {lost : Store → Store → Bool} {first : Option State} {n n' : Draft}
  {trace : List (Crew.Move (World ε))} {w w' : World ε}

/-- In the graphs that the message was served, its replies to fair states are fair. -/
def FairlyServed (fair : State → Prop) (p : Processor ε) (m : Inbound)
    (trace : List (Crew.Move (World ε))) : Prop :=
  ∀ v ∈ trace, ∀ graph, v.before.registry.serves m.templateId = .ok graph →
    Preserves fair p m graph

theorem FairlyServed.of_append {more : List (Crew.Move (World ε))}
    (h : FairlyServed fair p m (trace ++ more)) : FairlyServed fair p m trace :=
  fun v hv => h v (List.mem_append_left more hv)

/-- What was stored so far is accounted for. -/
structure Counted (sound : Store → Prop) (held : Store → String → Option State)
    (lost : Store → Store → Bool) (p : Processor ε) (m : Inbound) (first : Option State)
    (n : Draft) (trace : List (Crew.Move (World ε))) (w : World ε) : Prop where
  known : Undisturbed sound held m n w
  served : ∀ graph, n.graph = some graph →
    ∃ v ∈ trace, v.before.registry.serves m.templateId = .ok graph
  /-- Before the message has its graph, nothing is stored. -/
  applied : ∀ graph, (∀ g, n.graph = some g → g = graph) →
    Applied p m graph first (writes held lost m.lockName trace) (held w.store m.lockName)
  missed : (∀ after, n.progress ≠ .kept after) →
    ∀ e ∈ writes held lost m.lockName trace, e.lost = true
  kept : ∀ after, n.progress = .kept after → ∃ log e,
    writes held lost m.lockName trace = log ++ [e] ∧ (∀ e' ∈ log, e'.lost = true) ∧
      e.lost = false ∧ e.after = after

theorem counted_start (hsound : sound w.store) (hclosed : w.registry.Closed)
    (hown : ∀ s, held w.store m.lockName = some s → s.key = m.key) :
    Counted sound held lost p m (held w.store m.lockName) .fresh [] w :=
  ⟨⟨hsound, hclosed, hown, trivial⟩, fun _ h => (nomatch h), fun _ _ => .start,
    fun _ _ h => absurd h List.not_mem_nil, fun _ h => nomatch h⟩

namespace Counted

variable (h : Counted sound held lost p m first n trace w)
include h

theorem served_append {graph : FlowGraph} (hgraph : n.graph = some graph)
    (more : List (Crew.Move (World ε))) :
    ∃ v ∈ trace ++ more, v.before.registry.serves m.templateId = .ok graph := by
  obtain ⟨v, hv, hserves⟩ := h.served graph hgraph
  exact ⟨v, List.mem_append_left more hv, hserves⟩

/-- A step that stores nothing. -/
theorem still (hcalm : Calm sound held w w') (hgraph : n'.graph = n.graph)
    (hfits : n'.progress.Fits (held w.store m.lockName))
    (hkept : ∀ after, n'.progress = .kept after ↔ n.progress = .kept after) :
    Counted sound held lost p m first n' (trace ++ Crew.record 0 w w') w' := by
  obtain ⟨hsound, hheld⟩ := hcalm.store h.known.sound
  refine ⟨⟨hsound, hcalm.closed h.known.closed, ?_, ?_⟩, fun graph hg => ?_, fun graph hg => ?_,
    fun hfree => ?_, fun after hafter => ?_⟩
  · rw [hheld]
    exact h.known.owned
  · rw [hheld]
    exact hfits
  · exact h.served_append (hgraph ▸ hg) _
  · rw [writes_append_of_same hheld, hheld]
    exact h.applied graph fun g hg' => hg g (hgraph.trans hg')
  · rw [writes_append_of_same hheld]
    exact h.missed fun after hafter => hfree after ((hkept after).mpr hafter)
  · rw [writes_append_of_same hheld]
    exact h.kept after ((hkept after).mp hafter)

/-- A reply is stored. -/
theorem store {graph : FlowGraph} {base : Option State} {after : State} {s : Store}
    (hgraph : n.graph = some graph) (hloaded : n.progress = .loaded base)
    (happlies : Applies p m graph base after) (hkey : after.key = m.key) (hsound : sound s)
    (hreplaces : Replaces (held w.store) (held s) m.lockName (some after)) :
    Counted sound held lost p m first
      { n with progress := if lost w.store s then .missed base else .kept after }
      (trace ++ Crew.record 0 w { w with store := s }) { w with store := s } := by
  have hbase : held w.store m.lockName = base := by
    have hfits := h.known.fits
    rwa [hloaded] at hfits
  have hversion : after.version = heldVersion base + 1 := by
    obtain ⟨state, guarded, -, -, hafter⟩ := happlies
    rw [hafter]
    rfl
  have hwrites : writes held lost m.lockName (trace ++ Crew.record 0 w { w with store := s }) =
      writes held lost m.lockName trace ++ [⟨base, after, lost w.store s⟩] := by
    rw [writes_append_of_next hreplaces.1 (by rw [hbase]; exact hversion), hbase]
  have hmissed : ∀ e ∈ writes held lost m.lockName trace, e.lost = true :=
    h.missed fun after hkept => nomatch hloaded.symm.trans hkept
  refine ⟨⟨hsound, h.known.closed, fun s' hs' => ?_, ?_⟩, fun graph' hg => ?_, fun graph' hg => ?_,
    fun hfree => ?_, fun after' hafter => ?_⟩
  · rwa [← Option.some.inj (hreplaces.1.symm.trans hs')]
  · show Progress.Fits (held s m.lockName) (if lost w.store s then .missed base else .kept after)
    split_ifs
    · rw [hreplaces.1]
      exact hversion
    · exact hreplaces.1
  · exact h.served_append hg _
  · obtain rfl := hg graph hgraph
    rw [hwrites, show held s m.lockName = some after from hreplaces.1]
    have happlied := h.applied graph fun g hg' => hg g hg'
    rw [hbase] at happlied
    exact Applied.again (e := ⟨base, after, lost w.store s⟩) happlied happlies
  · rw [hwrites]
    intro e he
    rcases List.mem_append.mp he with he | he
    · exact hmissed e he
    · rw [List.mem_singleton.mp he]
      exact Decidable.byContradiction fun hlost => hfree after (if_neg hlost)
  · have hafter : (if lost w.store s then Progress.missed base else .kept after) = .kept after' :=
      hafter
    split_ifs at hafter with hlost
    exact ⟨_, _, hwrites, hmissed, Bool.eq_false_iff.mpr hlost, Progress.kept.inj hafter⟩

/-- **Whatever a message does is accounted for.** -/
theorem step (hfairly : FairlyServed fair p m trace)
    (hdeed : Deed fair sound held lost p m n w n' w') :
    Counted sound held lost p m first n' (trace ++ Crew.record 0 w w') w' := by
  cases hdeed with
  | calm hcalm => exact h.still hcalm rfl h.known.fits fun _ => Iff.rfl
  | @fetch _ graph hserves =>
    have hnext : Counted sound held lost p m first .fresh (trace ++ Crew.record 0 w w) w :=
      h.still (.refl w) rfl trivial fun _ => Iff.rfl
    refine ⟨⟨hnext.known.sound, hnext.known.closed, hnext.known.owned, trivial⟩,
      fun graph' hg => ⟨⟨0, w, w⟩, ?_, ?_⟩, fun graph' hg => ?_, hnext.missed,
      fun _ hkept => nomatch hkept⟩
    · exact List.mem_append_right _ (List.mem_singleton_self _)
    · rw [← Option.some.inj hg]
      exact hserves
    · exact hnext.applied graph' fun _ hnone => nomatch hnone
  | load hcalm hfree =>
    exact h.still hcalm rfl rfl fun after =>
      ⟨fun hkept => (nomatch hkept), fun hkept => absurd hkept (hfree after)⟩
  | store hgraph hloaded happlies hkey hsound hreplaces =>
    exact h.store hgraph hloaded happlies hkey hsound hreplaces
  | spoil hgraph hbase hanswered hunfair =>
    obtain ⟨v, hv, hserves⟩ := h.served _ hgraph
    exact absurd (hfairly v hv _ hserves hbase hanswered) hunfair

/-- Others store nothing for the session. -/
theorem others (hsound : sound w'.store) (hclosed : w'.registry.Closed)
    (hheld : held w'.store m.lockName = held w.store m.lockName) :
    Counted sound held lost p m first n trace w' := by
  refine ⟨⟨hsound, hclosed, ?_, ?_⟩, h.served, ?_, h.missed, h.kept⟩
  · rw [hheld]
    exact h.known.owned
  · rw [hheld]
    exact h.known.fits
  · rw [hheld]
    exact h.applied

end Counted

/-- Others store nothing for the session of the message. -/
def Elsewhere (sound : Store → Prop) (held : Store → String → Option State) (m : Inbound)
    (w w' : World ε) : Prop :=
  (sound w.store → sound w'.store) ∧ (w.registry.Closed → w'.registry.Closed) ∧
    held w'.store m.lockName = held w.store m.lockName

variable {i : Interpreter} {start : World ε} {c : Crew (World ε) (World ε) Outcome}

/-- There is one message, and what it stored is accounted for. -/
def CountedOne (sound : Store → Prop) (held : Store → String → Option State)
    (lost : Store → Store → Bool) (p : Processor ε) (m : Inbound) (first : Option State)
    (notes : List Draft) (trace : List (Crew.Move (World ε))) (w : World ε) : Prop :=
  ∃ n, notes = [n] ∧ Counted sound held lost p m first n trace w

omit [Clocked ε] in
theorem eq_of_getElem?_singleton {α : Type} {a b : α} {j : Nat} (h : [a][j]? = some b) :
    j = 0 ∧ b = a := by
  cases j with
  | zero => exact ⟨rfl, (Option.some.inj h).symm⟩
  | succ j => exact nomatch h

/-- In any run, what the message stored is accounted for, and the message keeps its pact. -/
theorem counted_of_turns (hstore : Losing fair sound held lost)
    (hb : p.guard.manager.baseline = Engine.baseline i) (hwalks : GuardsWalks p.guard)
    (hprior : m.prior = none) (hfairly : FairlyServed fair p m trace)
    (hclosed : start.registry.Closed) (hsound : sound start.store)
    (hown : ∀ s, held start.store m.lockName = some s → s.key = m.key)
    (hrun : Crew.Run Places.whole (Elsewhere sound held m) Crew.record ⟨start, [process p m]⟩
      trace c) :
    ∃ n, Counted sound held lost p m (held start.store m.lockName) n trace c.world ∧
      ∀ outcome, c.tasks[0]? = some (.finished (.ok outcome)) → n.Tells outcome.state := by
  have hready : Crew.Aligned (Crew.pactsOf [m] (deeds fair sound held lost p))
      (Crew.endsOf [m] fun _ => Ending (fun _ => True) fun n outcome => n.Tells outcome.state)
      [.fresh] [process p m] := by
    refine Crew.aligned_map (l := [m]) fun m' hm' => ?_
    rw [List.mem_singleton.mp hm']
    exact leads_applying hb hwalks hprior hstore .fresh rfl
  have hkept : ∃ notes,
      CountedOne sound held lost p m (held start.store m.lockName) notes trace c.world ∧
      Crew.Aligned (Crew.pactsOf [m] (deeds fair sound held lost p))
        (Crew.endsOf [m] fun _ => Ending (fun _ => True) fun n outcome => n.Tells outcome.state)
        notes c.tasks := by
    refine Crew.keeps_while (FairlyServed fair p m) FairlyServed.of_append
      ⟨.fresh, rfl, counted_start hsound hclosed hown⟩ hready ?_ ?_ ?_ hrun hfairly
    · rintro _ trace w j n ⟨n', rfl, h⟩ hn
      obtain ⟨rfl, rfl⟩ := eq_of_getElem?_singleton hn
      exact h.known
    · rintro _ trace w j n n' v hfairly ⟨n'', rfl, h⟩ hn hm
      obtain ⟨rfl, rfl⟩ := eq_of_getElem?_singleton hn
      exact ⟨n', rfl, h.step hfairly hm⟩
    · rintro _ trace w w' ⟨n, rfl, h⟩ ⟨hsound', hclosed', hheld⟩
      exact ⟨n, rfl, h.others (hsound' h.known.sound) (hclosed' h.known.closed) hheld⟩
  obtain ⟨_, ⟨n, rfl, hcounted⟩, haligned⟩ := hkept
  refine ⟨n, hcounted, fun outcome hx => ?_⟩
  obtain ⟨n', hn', hended⟩ := haligned 0 _ hx
  rw [← Option.some.inj hn'] at hended
  exact hended m rfl

/-- **How often a message is applied.**  Nobody else stores anything for its session, but the answer
to a save may be lost, before or after the state is stored, as often as may be.  A message that
returns, when its conversation was not completed, has stored a chain of states, each of them the
reply to the message in the state before, under the next version.  The answers of all but the last
were lost.  The last one is the state that the message returns; or its answer was lost too, and it
completed the conversation.  So without a lost answer, the message is applied once.  What the message
replies has to be what the store holds as it is. -/
theorem counted_of_run (hstore : Losing fair sound held lost)
    (hb : p.guard.manager.baseline = Engine.baseline i) (hequipped : Equipped p.guard)
    (hprior : m.prior = none) (hfairly : FairlyServed fair p m trace)
    (hclosed : start.registry.Closed) (hsound : sound start.store)
    (hown : ∀ s, held start.store m.lockName = some s → s.key = m.key)
    (hopen : (held start.store m.lockName).any (·.completed) = false)
    (hrun : Crew.Run Places.whole (Elsewhere sound held m) Crew.record ⟨start, [process p m]⟩
      trace c) {outcome : Outcome} (hx : c.tasks[0]? = some (.finished (.ok outcome))) :
    ∃ graph log e, (∃ v ∈ trace, v.before.registry.serves m.templateId = .ok graph) ∧
      writes held lost m.lockName trace = log ++ [e] ∧
      Applied p m graph (held start.store m.lockName) (log ++ [e]) (held c.world.store m.lockName) ∧
      heldVersion (held c.world.store m.lockName) =
        heldVersion (held start.store m.lockName) + (log.length + 1) ∧
      (∀ e' ∈ log, e'.lost = true) ∧
      (e.lost = false ∧ outcome.state = e.after ∨ e.lost = true ∧ e.after.completed = true) ∧
      ((∀ e' ∈ log ++ [e], e'.lost = false) → log = [] ∧ outcome.state = e.after) := by
  obtain ⟨n, hcounted, htells⟩ :=
    counted_of_turns hstore hb hequipped.walks hprior hfairly hclosed hsound hown hrun
  obtain ⟨⟨graph, hgraph⟩, hprogress⟩ := htells outcome hx
  have happlied := hcounted.applied graph fun g hg => Option.some.inj (hg.symm.trans hgraph)
  have hends : ∃ log e, writes held lost m.lockName trace = log ++ [e] ∧
      (∀ e' ∈ log, e'.lost = true) ∧
      (e.lost = false ∧ outcome.state = e.after ∨ e.lost = true ∧ e.after.completed = true) := by
    rcases hprogress with hkept | ⟨base, hloaded, hcompleted⟩
    · obtain ⟨log, e, hwrites, hmissed, hanswered, hafter⟩ := hcounted.kept outcome.state hkept
      exact ⟨log, e, hwrites, hmissed, .inl ⟨hanswered, hafter.symm⟩⟩
    · have hbase : held c.world.store m.lockName = base := by
        have hfits := hcounted.known.fits
        rwa [hloaded] at hfits
      have hmissed := hcounted.missed fun after hkept => nomatch hkept.symm.trans hloaded
      rw [← hbase] at hcompleted
      -- the conversation was completed on the way
      rcases List.eq_nil_or_concat (writes held lost m.lockName trace) with hnone | ⟨log, e, hwrites⟩
      · rw [hnone] at happlied
        rw [happlied.eq_first, hopen] at hcompleted
        exact nomatch hcompleted
      · rw [List.concat_eq_append] at hwrites
        rw [hwrites] at happlied hmissed
        rw [happlied.last_eq] at hcompleted
        exact ⟨log, e, hwrites, fun e' he' => hmissed e' (List.mem_append_left _ he'),
          .inr ⟨hmissed e (List.mem_append_right _ (List.mem_singleton_self e)), hcompleted⟩⟩
  obtain ⟨log, e, hwrites, hmissed, htold⟩ := hends
  rw [hwrites] at happlied
  have hversion := happlied.version
  rw [List.length_append, List.length_singleton] at hversion
  refine ⟨graph, log, e, hcounted.served graph hgraph, hwrites, happlied, hversion, hmissed, htold,
    fun hnone => ⟨?_, ?_⟩⟩
  · refine List.eq_nil_iff_forall_not_mem.mpr fun e' he' => ?_
    exact nomatch (hmissed e' he').symm.trans (hnone e' (List.mem_append_left _ he'))
  · rcases htold with ⟨-, htold⟩ | ⟨hlost, -⟩
    · exact htold
    · have hanswered := hnone e (List.mem_append_right _ (List.mem_singleton_self e))
      exact nomatch hlost.symm.trans hanswered

end Run

/-! ### A greeting -/

section Greeting

/-- The answer to the next save is lost. -/
def lossySite : World Time.Clock :=
  { greetingSite with
    store := { greetingSite.store with outage := { Storage.Outage.none with lostAnswer := 1 } } }

/-- **Messages that are not applied once.**  One is applied twice: the answer to its save is lost, so
that it is taken for the answer to the question that it led to.  Without the loss, the conversation is
at the question.  Another one is not applied to its session at all, as it brings along the state of
somebody else. -/
theorem not_applied_once :
    let reply := (process greeter hello).run lossySite
    let reply' := (process greeter hello).run greetingSite
    let brought := (process greeter { hello with prior := some strayState }).run greetingSite
    Storage.inMemory lossySite.store hello.lockName = none ∧
      reply.1.toOption.map (fun o => (o.state.version, o.state.history)) =
        some (2, [.text "ask", .text "bye"]) ∧
      (Storage.inMemory reply.2.store hello.lockName).map (fun s => (s.version, s.completed)) =
        some (2, true) ∧
      (Storage.inMemory reply'.2.store hello.lockName).map (fun s => (s.version, s.completed)) =
        some (1, false) ∧
      brought.1.toOption.isSome = true ∧
      Storage.inMemory brought.2.store hello.lockName = none := by
  decide +kernel

def lossyRun : List (Crew.Move (World Time.Clock)) ×
    Crew (World Time.Clock) (World Time.Clock) Outcome :=
  (Crew.mk lossySite [process greeter hello]).drive Places.whole Crew.record (List.replicate 200 0)

/-- The same message, step by step. -/
theorem counted_of_run_lossy : ∃ trace c outcome,
    Crew.Run Places.whole (Elsewhere Storage.IsMemory Storage.inMemory hello) Crew.record
      ⟨lossySite, [process greeter hello]⟩ trace c ∧
    c.tasks[0]? = some (.finished (.ok outcome)) ∧
    ∃ graph log e,
      (∃ v ∈ trace, v.before.registry.serves hello.templateId = .ok graph) ∧
      writes Storage.inMemory Storage.lostAnswer hello.lockName trace = log ++ [e] ∧
      Applied greeter hello graph none (log ++ [e])
        (Storage.inMemory c.world.store hello.lockName) ∧
      log.length = 1 ∧ (∀ e' ∈ log, e'.lost = true) ∧ e.lost = false ∧ outcome.state = e.after := by
  have hrun : Crew.Run Places.whole (Elsewhere Storage.IsMemory Storage.inMemory hello) Crew.record
      ⟨lossySite, [process greeter hello]⟩ lossyRun.1 lossyRun.2 := Crew.run_drive _
  have hlosses : (writes Storage.inMemory Storage.lostAnswer hello.lockName lossyRun.1).map
      Write.lost = [true, false] := by decide +kernel
  have hover : (lossyRun.2.tasks[0]?.bind Action.answer?).isSome = true := by decide +kernel
  obtain ⟨outcome, houtcome⟩ := Option.isSome_iff_exists.mp hover
  obtain ⟨x, hx, hanswer⟩ := Option.bind_eq_some_iff.mp houtcome
  rw [Action.eq_of_answer? hanswer] at hx
  have hb : greeter.guard.manager.baseline = Engine.baseline {} := rfl
  have hnone : Storage.inMemory lossySite.store hello.lockName = none := rfl
  obtain ⟨graph, log, e, hserved, hwrites, happlied, -, hmissed, htold, -⟩ :=
    counted_of_run Storage.losing_memory hb (equipped_processor greetingBlueprint deadLine) rfl
      (fun _ _ graph _ => preserves_any hello graph)
      Template.Registry.closed_empty ⟨.empty, rfl⟩ (fun _ hs => nomatch hnone.symm.trans hs) rfl
      hrun hx
  rw [hwrites, List.map_append] at hlosses
  have hparts : log.map Write.lost ++ [e.lost] = [true] ++ [false] := hlosses
  obtain ⟨hlog, he⟩ := List.append_inj' hparts rfl
  have hlength : log.length = 1 := by simpa using congrArg List.length hlog
  have hanswered : e.lost = false := List.singleton_inj.mp he
  refine ⟨_, _, outcome, hrun, hx, graph, log, e, hserved, hwrites, happlied, hlength, hmissed,
    hanswered, ?_⟩
  rcases htold with ⟨-, htold⟩ | ⟨hlost, -⟩
  · exact htold
  · exact nomatch hanswered.symm.trans hlost

end Greeting

end Parley.Turn
