import Parley.Proofs.Turn.Conduct
import Parley.Service.Routes

/-!
# Parley.Proofs.Turn.Errands — what a service changes in its store

A service has errands: messages, resets, and registrations of templates.  `Effect` lists what an
errand may change, and what a message notes of its graph and of the state that it starts with.
`changes_of_turn`: in any run of errands, among others who leave the world sane, a state is stored
only by a message, as the reply to what this message saw before, and dropped only by a reset; if what
messages reply is fair, that is, the store holds it as it is (`Fairly`).
-/

namespace Parley.Turn

open Conversation (SessionKey State)
open Pact (Ending)
open Recovery (Guarded)
open Storage (Holding Replaces Replacing Store heldVersion)
open Template (FlowGraph Registry)
open Time (Clocked Moment Seconds)

variable {ε : Type}

/-! ### Calm steps -/

/-- The same states are stored, and templates stay closed. -/
structure Calm (sound : Store → Prop) (held : Store → String → Option State) (w w' : World ε) :
    Prop where
  store : sound w.store → sound w'.store ∧ held w'.store = held w.store
  closed : w.registry.Closed → w'.registry.Closed

namespace Calm

variable {fair : State → Prop} {sound : Store → Prop} {held : Store → String → Option State}
  {u v w w' : World ε}

theorem of_same (hstore : w'.store = w.store) (hregistry : w'.registry = w.registry) :
    Calm sound held w w' := by
  refine ⟨fun h => ?_, fun h => ?_⟩
  · rw [hstore]
    exact ⟨h, rfl⟩
  · rw [hregistry]
    exact h

theorem refl (w : World ε) : Calm sound held w w := of_same rfl rfl

theorem trans (h : Calm sound held u v) (h' : Calm sound held v w) : Calm sound held u w := by
  refine ⟨fun hu => ?_, fun hu => h'.closed (h.closed hu)⟩
  obtain ⟨hv, heq⟩ := h.store hu
  obtain ⟨hw, heq'⟩ := h'.store hv
  exact ⟨hw, heq'.trans heq⟩

theorem load (hstore : Holding fair sound held) (now : Moment) (key : SessionKey) (w : World ε) :
    Calm sound held w { w with store := (w.store.load now key).2 } := by
  refine ⟨fun hs => ?_, fun h => h⟩
  obtain ⟨hsound, hheld, -⟩ := hstore.load now key hs
  exact ⟨hsound, hheld⟩

theorem registry {registry : Registry} (h : registry.Closed) (w : World ε) :
    Calm sound held w { w with registry := registry } :=
  ⟨fun hs => ⟨hs, rfl⟩, fun _ => h⟩

instance : Lockless (ε := ε) (Calm sound held) where
  of_parts hs hr _ _ _ := of_same hs hr
  of_locks _ _ := of_same rfl rfl

end Calm

/-! ### Errands -/

/-- What a service is asked for: to serve a session, or to take a template. -/
inductive Errand
  | request (r : Request)
  | register (templateId : String) (t : Service.TemplateRequest)

/-- What a message knows: its graph, and the state that it loaded last. -/
structure Memo where
  graph : Option FlowGraph
  base : Option (Option State)

def Memo.fresh : Memo := ⟨none, none⟩

/-- The message starts with `base`: it loaded it, or the sender brought it along. -/
def Memo.Has (n : Memo) (m : Inbound) (base : Option State) : Prop :=
  n.base = some base ∨ base.isSome = true ∧ m.prior = base

variable [Clocked ε]

/-- Does what is asked for; only a message has an outcome. -/
def Errand.serve (p : Processor ε) : Errand → Action (World ε) (Option Outcome)
  | request r => r.serve p
  | register templateId t =>
    (Service.putTemplate templateId t).andThen fun _ => Action.result none

/-- The message stores `after`: the state of its reply when it starts with `base`, under the next
version. -/
def Stores (p : Processor ε) (m : Inbound) (graph : FlowGraph) (base : Option State)
    (after : State) : Prop :=
  ∃ state guarded, Answered p m graph base state guarded ∧
    after = (storedAt guarded (heldVersion base + 1)).reply.state

section Effect

variable (fair : State → Prop) (sound : Store → Prop) (held : Store → String → Option State)
  (p : Processor ε)

/-- What an errand may change, and note.  Of a reply that is not fair it is not known how it is
stored. -/
inductive Effect : Errand → Memo → World ε → Memo → World ε → Prop
  | calm {e : Errand} {n : Memo} {w w' : World ε} : Calm sound held w w' → Effect e n w n w'
  | fetch {m : Inbound} {n : Memo} {w : World ε} {graph : FlowGraph} :
    w.registry.serves m.templateId = .ok graph →
    Effect (.request (.message m)) n w { n with graph := some graph } w
  | load {m : Inbound} {n : Memo} {w w' : World ε} : Calm sound held w w' →
    Effect (.request (.message m)) n w { n with base := some (held w.store m.lockName) } w'
  | save {m : Inbound} {n : Memo} {w : World ε} {graph : FlowGraph} {base : Option State}
      {after : State} {name : String} {s : Store} :
    n.graph = some graph → n.Has m base → Stores p m graph base after →
    after.key.join = .ok name → heldVersion (held w.store name) = heldVersion base → sound s →
    Replaces (held w.store) (held s) name (some after) →
    Effect (.request (.message m)) n w n { w with store := s }
  | spoil {m : Inbound} {n : Memo} {w w' : World ε} {graph : FlowGraph} {base state : Option State}
      {guarded : Guarded} : n.graph = some graph → n.Has m base →
    Answered p m graph base state guarded → ¬ fair guarded.reply.state →
    Effect (.request (.message m)) n w n w'
  | drop {m : Inbound} {n : Memo} {w : World ε} {s : Store} :
    sound s → Replaces (held w.store) (held s) m.lockName none →
    Effect (.request (.reset m)) n w n { w with store := s }

/-- What an errand may rely on, and what it may change. -/
def pledge (e : Errand) : Pact (World ε) Memo where
  sees _ w := sound w.store ∧ w.registry.Closed
  moves := Effect fair sound held p e

theorem ignores_pledge (e : Errand) : (pledge fair sound held p e).Ignores (Calm sound held) :=
  ⟨Calm.refl, Calm.trans, fun _ h => .calm h⟩

end Effect

variable {fair : State → Prop} {sound : Store → Prop} {held : Store → String → Option State}
  {p : Processor ε} {e : Errand} {m : Inbound} {α : Type}

/-! ### Registries -/

section Registries

variable {same : World ε → World ε → Prop} [Slight same]
  (hregistry : ∀ (w : World ε) (registry : Registry), same w { w with registry := registry })
include hregistry

omit [Clocked ε] [Slight same] in
theorem idle_graphOf (templateId : String) :
    (graphOf templateId : Action (World ε) FlowGraph).Idle same := by
  refine Action.idle_view.andThen fun registry => (Action.idle_ofExcept _).andThen fun found => ?_
  exact Action.Idle.andThen (Action.idle_update fun w => hregistry w _) fun _ =>
    Action.idle_result _

omit [Clocked ε] in
theorem idle_putTemplate (templateId : String) (t : Service.TemplateRequest) :
    (Service.putTemplate templateId t : Action (World ε) Service.Response).Idle same := by
  refine Action.idle_view.andThen fun registry => (Action.idle_ofExcept _).andThen fun found => ?_
  refine Action.Idle.andThen (Action.idle_update fun w => hregistry w _) fun _ => ?_
  refine Action.Idle.andThen
    (Action.idle_onPart fun _ => Slight.of_parts rfl rfl rfl rfl rfl rfl rfl) fun _ => ?_
  exact Action.idle_result _

end Registries

/-! ### Around a message -/

section Around

variable {γ : Type} {P : Pact (World ε) γ} {same : World ε → World ε → Prop} [Lockless same]
  (hidle : P.Ignores same)
include hidle

omit [Clocked ε] in
/-- What is held by whom does not matter. -/
theorem passage_of_lockless (name : String) :
    Session.Passage P name (fun _ _ => True) id where
  look hw := hidle.allows hw (hidle.refl _)
  enter w n _ hw := ⟨n, hidle.allows hw (Unlocked.of_locks w _), trivial, rfl⟩
  ask w _ n _ hw := ⟨n, hidle.allows hw (Unlocked.of_locks w _), trivial, rfl⟩
  grasp _ _ _ n _ hw := ⟨n, hidle.allows hw (hidle.refl _), trivial, rfl⟩
  leave w _ _ _ n _ hw := ⟨n, hidle.allows hw (Unlocked.of_locks w _), trivial, rfl⟩

theorem leads_holding {x : Action (World ε) α} {I E : γ → Prop} {K : γ → α → Prop} (name : String)
    (span : Option Number) (hx : P.Leads I x (Ending E K)) :
    P.Leads I (Session.whileHolding name span x) (Ending (fun _ => True) K) := by
  have hbody : P.Leads (fun n => True ∧ I n) x
      (Ending (fun _ => True ∧ True) fun n a => True ∧ K n a) := by
    refine (hx.weaken fun _ hn => hn.2).mono fun n o hn => ?_
    cases o with
    | ok a => exact ⟨trivial, hn⟩
    | error f => exact ⟨trivial, trivial⟩
  have hpassed := (passage_of_lockless hidle name).leads_whileHolding (E := fun _ => True) span
    (fun _ => hbody) fun _ _ => trivial
  refine (hpassed.weaken fun _ hn => ⟨trivial, hn⟩).mono fun n o hn => ?_
  cases o with
  | ok a => exact hn.2
  | error f => trivial

omit [Clocked ε] [Lockless same] in
/-- A message comes to its graph by a look at the registry, which it then writes back. -/
theorem leads_graphOf_of {I : γ → Prop} {K : FlowGraph → γ → Prop} {templateId : String}
    (hlook : ∀ n w, I n → P.sees n w → ∃ n', P.moves n w n' w ∧
      ∀ graph registry, w.registry.fetch templateId = .ok (graph, registry) →
        K graph n' ∧ ∀ w' : World ε, same w' { w' with registry := registry }) :
    P.Leads I (graphOf templateId) (Ending (fun _ => True) fun n graph => K graph n) := by
  have hview : P.Leads I (Action.view Registry) (Ending (fun _ => True) fun n registry =>
      ∀ graph registry', registry.fetch templateId = .ok (graph, registry') →
        K graph n ∧ ∀ w' : World ε, same w' { w' with registry := registry' }) :=
    Pact.leads_look fun n w hn hw => hlook n w hn hw
  refine hview.bind (fun registry => ?_) fun _ h => h
  cases hfetch : registry.fetch templateId with
  | error f => exact Pact.leads_finished fun _ _ => trivial
  | ok found =>
    obtain ⟨graph, registry'⟩ := found
    intro n hn
    obtain ⟨hgraph, hsame⟩ := hn graph registry' rfl
    have hrest : P.Leads (K graph)
        ((Action.update fun _ : Registry => registry').andThen fun _ => Action.result graph)
        (Ending (fun _ => True) fun n graph => K graph n) :=
      Pact.leads_idle_andThen hidle (Action.idle_update hsame)
        (fun _ _ => Pact.leads_finished fun _ h => h) fun _ _ _ => trivial
    exact hrest n hgraph

omit [Clocked ε] in
/-- A template is registered in the registry that was looked at. -/
theorem leads_putTemplate_of {I : γ → Prop} {id : String} {t : Service.TemplateRequest}
    (hlook : ∀ n w, I n → P.sees n w →
      ∀ graph registry, w.registry.register id t.document t.version = .ok (graph, registry) →
        ∀ w' : World ε, same w' { w' with registry := registry }) :
    P.Leads I (Service.putTemplate id t) (Ending (fun _ => True) fun _ _ => True) := by
  have hview : P.Leads I (Action.view Registry) (Ending (fun _ => True) fun n registry =>
      I n ∧ ∀ graph registry', registry.register id t.document t.version = .ok (graph, registry') →
        ∀ w' : World ε, same w' { w' with registry := registry' }) :=
    Pact.leads_look fun n w hn hw =>
      ⟨n, hidle.allows hw (hidle.refl w), hn, hlook n w hn hw⟩
  refine hview.bind (fun registry => Pact.leads_of_fact fun hsame => ?_) fun _ h => h
  refine Pact.leads_idle_andThen hidle (Action.idle_ofExcept _)
    (fun ⟨graph, registry'⟩ hregister => ?_) fun _ _ _ => trivial
  have hsame' := hsame graph registry' (Action.mayEnd_ofExcept.mp hregister).symm
  refine Pact.leads_idle_andThen hidle (Action.idle_update hsame') (fun _ _ => ?_)
    fun _ _ _ => trivial
  refine Pact.leads_idle_andThen hidle
    (Action.idle_onPart fun _ => Minor.of_parts rfl rfl rfl rfl rfl) (fun _ _ => ?_)
    fun _ _ _ => trivial
  exact Pact.leads_finished fun _ _ => trivial

/-- A message fetches its graph and is tried; nothing else in it matters, if passing on its stage
visits does not. -/
theorem leads_process_of {I : γ → Prop} {G E : FlowGraph → γ → Prop} {K : Guarded → γ → Prop}
    (hfetch : P.Leads I (graphOf m.templateId)
      (Ending (fun _ => True) fun n graph => G graph n))
    (htry : ∀ graph start, P.Leads (G graph) (tryRepeatedly p m graph start p.attempts.toNat 0)
      (Ending (E graph) fun n settled => K settled.guarded n))
    (hschedule : ∀ guarded n, K guarded n → (schedule guarded : Action (World ε) Unit).Idle same) :
    P.Leads I (process p m) (Ending (fun _ => True) fun n outcome =>
      ∃ guarded, K guarded n ∧ outcome.state = guarded.reply.state ∧
        outcome.outputs = guarded.reply.outputs) := by
  refine Pact.leads_idle_andThen hidle idle_reading (fun start _ => ?_) fun _ _ _ => trivial
  refine hfetch.bind (fun graph => ?_) fun _ h => h
  refine (leads_holding hidle m.lockName p.lockSpan (htry graph start)).bind (fun settled => ?_)
    fun _ h => h
  refine Pact.leads_idle_andThen hidle (idle_note m graph _ _ start) (fun _ _ n hn => ?_)
    fun _ _ _ => trivial
  have hend : P.Leads (K settled.guarded) (schedule settled.guarded)
      (Ending (fun _ => True) fun n _ => K settled.guarded n) := by
    refine (Pact.leads_of_idle hidle (hschedule settled.guarded n hn)).mono fun n o hn => ?_
    cases o with
    | ok a => exact hn.1
    | error f => trivial
  refine Pact.Leads.bind hend (fun _ => ?_) (fun _ h => h) n hn
  refine Pact.leads_idle_andThen hidle idle_reading (fun _ _ => ?_) fun _ _ _ => trivial
  exact Pact.leads_finished fun _ h => ⟨settled.guarded, h, rfl, rfl⟩

end Around

omit [Clocked ε] in
theorem Calm.idle_schedule (guarded : Guarded) :
    (schedule guarded : Action (World ε) Unit).Idle (Calm sound held) := by
  have hclaim : (Action.tryPart fun l : Stages.Ledger => Stages.passOn l guarded.reply.state
      guarded.reply.stages : Action (World ε) _).Idle (Calm sound held) :=
    (Action.idle_onPart fun _ => .of_same rfl rfl).andThen fun _ => Action.idle_ofExcept _
  exact hclaim.andThen fun _ => Action.idle_ofState fun _ => .of_same rfl rfl

/-! ### Messages -/

/-- The state belongs to a reply to what the message knows. -/
def Replied (p : Processor ε) (m : Inbound) (n : Memo) (s : State) : Prop :=
  ∃ graph base state guarded, n.graph = some graph ∧ n.Has m base ∧
    Answered p m graph base state guarded ∧ s.key = guarded.reply.state.key

section Message

variable {graph : FlowGraph}

theorem leads_fetch :
    (pledge fair sound held p (.request (.message m))).Leads (fun _ => True) (graphOf m.templateId)
      (Ending (fun _ => True) fun n graph => n.graph = some graph) := by
  refine leads_graphOf_of (ignores_pledge fair sound held p _) fun n w _ hw => ?_
  -- the graph is noted at the look at the registry
  cases hfetch : w.registry.fetch m.templateId with
  | error f => exact ⟨n, .calm (.refl w), fun _ _ h => nomatch h⟩
  | ok found =>
    refine ⟨_, .fetch (Registry.serves_of_fetch hfetch), fun graph registry h => ?_⟩
    obtain rfl := Except.ok.inj h
    exact ⟨rfl, Calm.registry (hw.2.fetch hfetch)⟩

theorem leads_loading (hstore : Holding fair sound held) (attempt : Nat) :
    (pledge fair sound held p (.request (.message m))).Leads (·.graph = some graph) (load m attempt)
      (Ending (·.graph = some graph) fun n base => n.graph = some graph ∧ n.Has m base) := by
  refine leads_load_of (J := fun base n => n.graph = some graph ∧ n.Has m base)
    (ignores_pledge fair sound held p _) (fun _ hprior _ hn => ⟨hn, .inr ⟨rfl, hprior⟩⟩)
    (fun now => Pact.leads_tryPart fun n w hn hw => ?_) attempt
  have hcalm : Calm sound held w { w with store := (w.store.load now m.key).2 } :=
    .load hstore now m.key w
  cases hanswer : (w.store.load now m.key).1 with
  | error f => exact ⟨n, .calm hcalm, hn⟩
  | ok base =>
    obtain ⟨-, -, hbase⟩ := hstore.load now m.key hw.1
    refine ⟨{ n with base := some (held w.store m.lockName) }, .load hcalm, hn, .inl ?_⟩
    rw [hbase base m.lockName m.key_join hanswer]

variable (hstore : Replacing fair sound held)
include hstore

theorem leads_saving {base state : Option State} {guarded : Guarded}
    (hanswered : Answered p m graph base state guarded) :
    (pledge fair sound held p (.request (.message m))).Leads
      (fun n => n.graph = some graph ∧ n.Has m base) (save state guarded.reply)
      (Ending (fun n => n.graph = some graph ∧ n.Has m base)
        fun n _ => n.graph = some graph ∧ n.Has m base) := by
  refine leads_withRetry (ignores_pledge fair sound held p (.request (.message m)))
    (Pact.leads_tryPart fun n w hn hw => ?_) _
  obtain ⟨now, -, hresumed⟩ := hanswered.resumed
  have hexpected : (state.map State.version).getD 0 = heldVersion base :=
    heldVersion_mapM hresumed
  rw [hexpected]
  refine ⟨n, ?_, ?_⟩
  · by_cases hfair : fair guarded.reply.state
    · obtain ⟨hsound, hheld | ⟨name, hname, hfound, hreplaces⟩⟩ :=
        hstore.save (heldVersion base) hw.1 hfair
      · exact .calm ⟨fun _ => ⟨hsound, hheld⟩, fun h => h⟩
      · exact .save hn.1 hn.2 ⟨state, guarded, hanswered, rfl⟩ hname hfound hsound hreplaces
    · exact .spoil hn.1 hn.2 hanswered hfair
  · cases (Store.save guarded.reply.state (heldVersion base) (Holds.part w)).1 <;> exact hn

/-- Whatever comes of the attempts at a message, it is a reply to what the message knows. -/
theorem leads_trying (start : Seconds) (left attempt : Nat) :
    (pledge fair sound held p (.request (.message m))).Leads (·.graph = some graph)
      (tryRepeatedly p m graph start left attempt)
      (Ending (·.graph = some graph) fun n settled =>
        Replied p m n settled.guarded.reply.state) := by
  have hreplied {base state : Option State} {guarded : Guarded}
      (hanswered : Answered p m graph base state guarded) {n : Memo}
      (hn : n.graph = some graph ∧ n.Has m base) {s : State}
      (hs : s.key = guarded.reply.state.key) : Replied p m n s :=
    ⟨graph, base, state, guarded, hn.1, hn.2, hanswered, hs⟩
  refine leads_tryRepeatedly (J := fun base n => n.graph = some graph ∧ n.Has m base)
    (K := fun guarded n => Replied p m n guarded.reply.state)
    (ignores_pledge fair sound held p _) (Calm.load hstore.toHolding)
    (leads_loading hstore.toHolding) (fun _ _ hn => hn.1)
    (fun n hanswered _ hn => hreplied hanswered hn rfl) (fun hanswered _ => ?_) start left attempt
  refine (leads_saving hstore hanswered).mono fun n o hn => ?_
  cases o with
  | error f => exact hn.1
  | ok saved =>
    dsimp only [Ending] at hn ⊢
    split_ifs
    · exact hreplied hanswered hn (saved.key_adopt _)
    · exact hn.1

theorem leads_message :
    (pledge fair sound held p (.request (.message m))).Leads (fun _ => True) (process p m)
      (Ending (fun _ => True) fun n outcome => Replied p m n outcome.state) := by
  have hprocess := leads_process_of (p := p) (K := fun guarded n =>
    Replied p m n guarded.reply.state) (ignores_pledge fair sound held p (.request (.message m)))
    leads_fetch (fun graph start => leads_trying hstore start p.attempts.toNat 0)
    fun guarded _ _ => Calm.idle_schedule guarded
  refine hprocess.mono fun n o hn => ?_
  cases o with
  | error f => trivial
  | ok outcome =>
    obtain ⟨guarded, hreplied, hstate, -⟩ := hn
    show Replied p m n outcome.state
    rwa [hstate]

end Message

/-! ### All errands -/

section Whole

theorem leads_forget (hstore : Holding fair sound held) :
    (pledge fair sound held p (.request (.reset m))).Leads (fun _ => True) (reset p m)
      (Ending (fun _ => True) fun _ _ => True) := by
  have hdelete : (pledge fair sound held p (.request (.reset m))).Leads (fun _ => True)
      (Recovery.withRetry "state_delete" (Action.tryPart (Store.delete m.key)))
      (Ending (fun _ => True) fun _ _ => True) := by
    refine leads_withRetry (ignores_pledge fair sound held p _)
      (Pact.leads_tryPart fun n w _ hw => ⟨n, ?_, ?_⟩) _
    · obtain ⟨hsound, hheld | ⟨name, hname, hreplaces⟩⟩ := hstore.delete m.key hw.1
      · exact .calm ⟨fun _ => ⟨hsound, hheld⟩, fun h => h⟩
      · rw [m.key_join] at hname
        rw [← Except.ok.inj hname] at hreplaces
        exact .drop hsound hreplaces
    · cases (Store.delete m.key (Holds.part w)).1 <;> trivial
  exact leads_holding (ignores_pledge fair sound held p _) m.lockName p.lockSpan hdelete

theorem leads_register (templateId : String) (t : Service.TemplateRequest) :
    (pledge fair sound held p e).Leads (fun _ => True) (Service.putTemplate templateId t)
      (Ending (fun _ => True) fun _ _ => True) :=
  leads_putTemplate_of (ignores_pledge fair sound held p e) fun _ _ _ hw _ _ hregister =>
    Calm.registry (hw.2.register hregister)

/-- How an errand may end: the outcome of a message is a reply to what it knows. -/
def Told (p : Processor ε) (e : Errand) (n : Memo) (outcome? : Option Outcome) : Prop :=
  ∀ m outcome, e = .request (.message m) → outcome? = some outcome →
    Replied p m n outcome.state

/-- **An errand changes nothing else.** -/
theorem leads_errand (hstore : Replacing fair sound held) :
    (pledge fair sound held p e).Leads (fun _ => True) (e.serve p)
      (Ending (fun _ => True) (Told p e)) := by
  cases e with
  | register templateId t =>
    refine (leads_register templateId t).bind (fun _ => ?_) fun _ h => h
    exact Pact.leads_finished fun _ _ _ _ h => nomatch h
  | request r =>
    cases r with
    | message m =>
      refine (leads_message hstore).bind (fun outcome => ?_) fun _ h => h
      refine Pact.leads_finished fun n hn m' outcome' hm ho => ?_
      obtain rfl : m = m' := Request.message.inj (Errand.request.inj hm)
      rwa [← Option.some.inj ho]
    | reset m =>
      refine (leads_forget hstore.toHolding).bind (fun _ => ?_) fun _ h => h
      exact Pact.leads_finished fun _ _ _ _ h => nomatch Errand.request.inj h

end Whole

/-! ### Runs -/

/-- All is well: what is held under a name is fine there. -/
structure Sane (sound : Store → Prop) (held : Store → String → Option State)
    (fine : String → State → Prop) (w : World ε) : Prop where
  sound : sound w.store
  closed : w.registry.Closed
  fine : ∀ name s, held w.store name = some s → fine name s

/-- What an errand looks at. -/
def glimpse (i : Nat) (w _ : World ε) : List (Nat × World ε) := [(i, w)]

/-- So far, the errand `i` has looked at such a world. -/
def Glimpsed (trace : List (Nat × World ε)) (i : Nat) (P : World ε → Prop) : Prop :=
  ∃ w, (i, w) ∈ trace ∧ P w

/-- What a message has seen when it starts with `base` in this graph. -/
structure Begun (held : Store → String → Option State) (fine : String → State → Prop)
    (trace : List (Nat × World ε)) (i : Nat) (m : Inbound) (graph : FlowGraph)
    (base : Option State) : Prop where
  served : Glimpsed trace i fun w => w.registry.serves m.templateId = .ok graph
  found : (Glimpsed trace i fun w => held w.store m.lockName = base) ∨
    base.isSome = true ∧ m.prior = base
  closed : graph.Closed
  fine : ∀ s, base = some s → fine m.lockName s ∨ m.prior = some s

/-- What messages reply is fair, if what they start with is, or was brought along. -/
def Fairly (fair : State → Prop) (held : Store → String → Option State)
    (fine : String → State → Prop) (p : Processor ε) (errands : List Errand)
    (trace : List (Nat × World ε)) : Prop :=
  ∀ {i : Nat} {m : Inbound} {graph : FlowGraph} {base state : Option State} {guarded : Guarded},
    errands[i]? = some (.request (.message m)) → Begun held fine trace i m graph base →
    (∀ s, base = some s → fair s ∨ m.prior = some s) → Answered p m graph base state guarded →
    fair guarded.reply.state

theorem fairly_any {fine : String → State → Prop} {errands : List Errand}
    {trace : List (Nat × World ε)} : Fairly Storage.Any held fine p errands trace :=
  fun _ _ _ _ => trivial

/-- Replies that are stored are fine, if what they start with is, or was brought along. -/
def Upholds (fine : String → State → Prop) (p : Processor ε) (errands : List Errand) : Prop :=
  ∀ m graph base after name, .request (.message m) ∈ errands → graph.Closed →
    (∀ s, base = some s → fine m.lockName s ∨ m.prior = some s) → Stores p m graph base after →
    after.key.join = .ok name → fine name after

omit [Clocked ε] in
theorem Glimpsed.append {trace more : List (Nat × World ε)} {i : Nat} {P : World ε → Prop}
    (h : Glimpsed trace i P) : Glimpsed (trace ++ more) i P := by
  obtain ⟨w, hw, hP⟩ := h
  exact ⟨w, List.mem_append_left more hw, hP⟩

omit [Clocked ε] in
theorem glimpsed_now {trace : List (Nat × World ε)} {i : Nat} {w w' : World ε}
    {P : World ε → Prop} (h : P w) : Glimpsed (trace ++ glimpse i w w') i P :=
  ⟨w, List.mem_append_right trace List.mem_cons_self, h⟩

omit [Clocked ε] in
theorem Begun.append {fine : String → State → Prop} {trace : List (Nat × World ε)} {i : Nat}
    {graph : FlowGraph} {base : Option State} (h : Begun held fine trace i m graph base)
    (more : List (Nat × World ε)) : Begun held fine (trace ++ more) i m graph base :=
  ⟨h.served.append, h.found.imp_left Glimpsed.append, h.closed, h.fine⟩

theorem Fairly.of_append {fine : String → State → Prop} {errands : List Errand}
    {trace more : List (Nat × World ε)} (h : Fairly fair held fine p errands (trace ++ more)) :
    Fairly fair held fine p errands trace :=
  fun he hbegun hfair hanswered => h he (hbegun.append more) hfair hanswered

section Run

variable {fine : String → State → Prop} {errands : List Errand} {notes : List Memo}
  {trace : List (Nat × World ε)} {w w' : World ε} {i : Nat} {n n' : Memo}

omit [Clocked ε] in
theorem Sane.of_calm (h : Sane sound held fine w) (hcalm : Calm sound held w w') :
    Sane sound held fine w' := by
  obtain ⟨hsound, hheld⟩ := hcalm.store h.sound
  refine ⟨hsound, hcalm.closed h.closed, fun name s hs => h.fine name s ?_⟩
  rwa [← hheld]

omit [Clocked ε] in
theorem Sane.of_replaces (h : Sane sound held fine w) {name : String} {s : Store}
    {state : Option State} (hsound : sound s)
    (hreplaces : Replaces (held w.store) (held s) name state)
    (hfine : ∀ after, state = some after → fine name after) :
    Sane sound held fine { w with store := s } := by
  refine ⟨hsound, h.closed, fun other after hafter => ?_⟩
  by_cases ho : other = name
  · subst ho
    exact hfine after (hreplaces.1.symm.trans hafter)
  · rw [hreplaces.2 other ho] at hafter
    exact h.fine other after hafter

/-- What a message knows was seen. -/
structure Recalls (held : Store → String → Option State) (trace : List (Nat × World ε)) (i : Nat)
    (m : Inbound) (n : Memo) : Prop where
  graph : ∀ graph, n.graph = some graph →
    Glimpsed trace i fun w => w.registry.serves m.templateId = .ok graph
  base : ∀ base, n.base = some base → Glimpsed trace i fun w => held w.store m.lockName = base

omit [Clocked ε] in
theorem Recalls.append (h : Recalls held trace i m n) (more : List (Nat × World ε)) :
    Recalls held (trace ++ more) i m n :=
  ⟨fun graph hg => (h.graph graph hg).append, fun base hb => (h.base base hb).append⟩

/-- All is well now, all was well at every look, and messages know what they saw. -/
structure Kept (sound : Store → Prop) (held : Store → String → Option State)
    (fine : String → State → Prop) (errands : List Errand) (notes : List Memo)
    (trace : List (Nat × World ε)) (w : World ε) : Prop where
  length : notes.length = errands.length
  sane : Sane sound held fine w
  seen : ∀ v ∈ trace, Sane sound held fine v.2
  recalls : ∀ i m n, errands[i]? = some (.request (.message m)) → notes[i]? = some n →
    Recalls held trace i m n

omit [Clocked ε] in
theorem kept_start (h : Sane sound held fine w) :
    Kept sound held fine errands (errands.map fun _ => .fresh) [] w := by
  refine ⟨List.length_map _, h, fun _ hv => absurd hv List.not_mem_nil, fun i m n _ hn => ?_⟩
  obtain ⟨-, -, rfl⟩ := Option.map_eq_some_iff.mp ((List.getElem?_map ..).symm.trans hn)
  exact ⟨fun _ h => (nomatch h), fun _ h => (nomatch h)⟩

omit [Clocked ε] in
theorem Kept.errandOf (h : Kept sound held fine errands notes trace w)
    (hn : notes[i]? = some n) : ∃ e, errands[i]? = some e :=
  Crew.entry_of_note h.length hn

omit [Clocked ε] in
/-- What a message starts with was seen, and is fine, or was brought along. -/
theorem Kept.begun (h : Kept sound held fine errands notes trace w)
    (he : errands[i]? = some (.request (.message m))) (hn : notes[i]? = some n)
    {graph : FlowGraph} {base : Option State} (hgraph : n.graph = some graph)
    (hbase : n.Has m base) : Begun held fine trace i m graph base := by
  have hrecalls := h.recalls i m n he hn
  have hserved := hrecalls.graph graph hgraph
  have hclosed : graph.Closed := by
    obtain ⟨v, hv, hserves⟩ := hserved
    exact (h.seen _ hv).closed.serves hserves
  rcases hbase with hbase | ⟨hsome, hprior⟩
  · have hfound := hrecalls.base base hbase
    refine ⟨hserved, .inl hfound, hclosed, fun s hs => ?_⟩
    obtain ⟨v, hv, hheld⟩ := hfound
    exact .inl ((h.seen _ hv).fine m.lockName s (hheld.trans hs))
  · exact ⟨hserved, .inr ⟨hsome, hprior⟩, hclosed, fun s hs => .inr (hprior.trans hs)⟩

omit [Clocked ε] in
/-- What a message starts with is fair, or was brought along. -/
theorem Kept.fair_base (h : Kept sound held fine errands notes trace w)
    (hstore : Holding fair sound held) {graph : FlowGraph} {base : Option State}
    (hbegun : Begun held fine trace i m graph base) (s : State) (hs : base = some s) :
    fair s ∨ m.prior = some s := by
  rcases hbegun.found with ⟨v, hv, hheld⟩ | ⟨-, hprior⟩
  · exact .inl (hstore.holds (h.seen _ hv).sound (hheld.trans hs))
  · exact .inr (hprior.trans hs)

/-- What a message replies is fair. -/
theorem Kept.fair_reply (h : Kept sound held fine errands notes trace w)
    (hstore : Holding fair sound held) (hfair : Fairly fair held fine p errands trace)
    (he : errands[i]? = some (.request (.message m))) (hn : notes[i]? = some n)
    {graph : FlowGraph} {base state : Option State} {guarded : Guarded}
    (hgraph : n.graph = some graph) (hbase : n.Has m base)
    (hanswered : Answered p m graph base state guarded) : fair guarded.reply.state := by
  have hbegun := h.begun he hn hgraph hbase
  exact hfair he hbegun (h.fair_base hstore hbegun) hanswered

/-- **All stays well** when an errand changes something. -/
theorem Kept.effect (h : Kept sound held fine errands notes trace w)
    (hstore : Holding fair sound held) (hfair : Fairly fair held fine p errands trace)
    (hupholds : Upholds fine p errands) (he : errands[i]? = some e) (hn : notes[i]? = some n)
    (heffect : Effect fair sound held p e n w n' w') :
    Kept sound held fine errands (notes.set i n') (trace ++ glimpse i w w') w' := by
  have hseen (v : Nat × World ε) (hv : v ∈ trace ++ glimpse i w w') :
      Sane sound held fine v.2 := by
    rcases List.mem_append.mp hv with hv | hv
    · exact h.seen v hv
    · rw [List.mem_singleton.mp hv]
      exact h.sane
  have hsane : Sane sound held fine w' := by
    cases heffect with
    | calm hcalm => exact h.sane.of_calm hcalm
    | fetch _ => exact h.sane
    | load hcalm => exact h.sane.of_calm hcalm
    | drop hsound hreplaces => exact h.sane.of_replaces hsound hreplaces fun _ h => nomatch h
    | spoil hgraph hbase hanswered hunfair =>
      exact absurd (h.fair_reply hstore hfair he hn hgraph hbase hanswered) hunfair
    | @save m _ _ graph base after name _ hgraph hbase hstores hname _ hsound hreplaces =>
      have hbegun := h.begun he hn hgraph hbase
      refine h.sane.of_replaces hsound hreplaces fun after' hafter => ?_
      rw [← Option.some.inj hafter]
      exact hupholds m graph base after name (List.mem_of_getElem? he) hbegun.closed hbegun.fine
        hstores hname
  refine ⟨(List.length_set ..).trans h.length, hsane, hseen, fun j m k hj hk => ?_⟩
  rcases Session.of_getElem?_set hk with ⟨rfl, rfl⟩ | ⟨-, hk⟩
  · obtain rfl : e = .request (.message m) := Option.some.inj (he.symm.trans hj)
    have hrecalls := (h.recalls i m n he hn).append (glimpse i w w')
    cases heffect with
    | calm _ => exact hrecalls
    | fetch hserves =>
      refine ⟨fun graph hgraph => ?_, hrecalls.base⟩
      rw [← Option.some.inj hgraph]
      exact glimpsed_now hserves
    | load _ =>
      refine ⟨hrecalls.graph, fun base hbase => ?_⟩
      exact glimpsed_now (Option.some.inj hbase)
    | save | spoil => exact hrecalls
  · exact (h.recalls j m k hj hk).append _

/-- Others do whatever leaves the world sane. -/
def Decent (sound : Store → Prop) (held : Store → String → Option State)
    (fine : String → State → Prop) (w w' : World ε) : Prop :=
  Sane sound held fine w → Sane sound held fine w'

variable {start : World ε} {c : Crew (World ε) (World ε) (Option Outcome)}
  {x : Action (World ε) (Option Outcome)}

/-- In any run of errands all stays well, and each errand keeps its pledge. -/
theorem kept_of_run (hstore : Replacing fair sound held)
    (hfair : Fairly fair held fine p errands trace) (hupholds : Upholds fine p errands)
    (hstart : Sane sound held fine start)
    (hrun : Crew.Run Places.whole (Decent sound held fine) glimpse
      ⟨start, errands.map (·.serve p)⟩ trace c) :
    ∃ notes, Kept sound held fine errands notes trace c.world ∧
      Crew.Aligned (Crew.pactsOf errands (pledge fair sound held p))
        (Crew.endsOf errands fun e => Ending (fun _ => True) (Told p e)) notes c.tasks := by
  have hready : Crew.Aligned (Crew.pactsOf errands (pledge fair sound held p))
      (Crew.endsOf errands fun e => Ending (fun _ => True) (Told p e))
      (errands.map fun _ => .fresh) (errands.map (·.serve p)) :=
    Crew.aligned_map fun e _ => leads_errand hstore .fresh trivial
  refine Crew.keeps_while (Fairly fair held fine p errands) (fun h => h.of_append)
    (kept_start hstart) hready (fun h hn => ?_) (fun hfair h hn hm => ?_) (fun h hothers => ?_) hrun
    hfair
  · obtain ⟨e, he⟩ := h.errandOf hn
    rw [Crew.pactsOf_eq he]
    exact ⟨h.sane.sound, h.sane.closed⟩
  · obtain ⟨e, he⟩ := h.errandOf hn
    rw [Crew.pactsOf_eq he] at hm
    exact h.effect hstore.toHolding hfair hupholds he hn hm
  · exact ⟨h.length, hothers h.sane, h.seen, h.recalls⟩

/-- How an errand changes what is held under a name: a message stores its reply, or a reset drops
what is there. -/
inductive Change (held : Store → String → Option State) (fine : String → State → Prop)
    (p : Processor ε) (trace : List (Nat × World ε)) (i : Nat) (w : World ε) (name : String) :
    Errand → Option State → Prop
  | saved {m : Inbound} {graph : FlowGraph} {base : Option State} {after : State} :
    Begun held fine trace i m graph base → Stores p m graph base after →
    after.key.join = .ok name → heldVersion (held w.store name) = heldVersion base →
    Change held fine p trace i w name (.request (.message m)) (some after)
  | dropped {m : Inbound} : name = m.lockName →
    Change held fine p trace i w name (.request (.reset m)) none

theorem Kept.change (h : Kept sound held fine errands notes trace w)
    (hstore : Holding fair sound held) (hfair : Fairly fair held fine p errands trace)
    (he : errands[i]? = some e) (hn : notes[i]? = some n)
    (heffect : Effect fair sound held p e n w n' w') {name : String}
    (hchange : held w'.store name ≠ held w.store name) :
    Change held fine p trace i w name e (held w'.store name) := by
  -- what replaces something under one name changes nothing under another one
  have hname {other : String} {s : Store} {state : Option State}
      (hreplaces : Replaces (held w.store) (held s) other state)
      (hchange : held s name ≠ held w.store name) : name = other :=
    Decidable.byContradiction fun ho => hchange (hreplaces.2 name ho)
  cases heffect with
  | calm hcalm | load hcalm =>
    obtain ⟨-, hheld⟩ := hcalm.store h.sane.sound
    rw [hheld] at hchange
    exact absurd rfl hchange
  | fetch _ => exact absurd rfl hchange
  | spoil hgraph hbase hanswered hunfair =>
    exact absurd (h.fair_reply hstore hfair he hn hgraph hbase hanswered) hunfair
  | drop _ hreplaces =>
    obtain rfl := hname hreplaces hchange
    rw [hreplaces.1]
    exact .dropped rfl
  | save hgraph hbase hstores hjoin hversion _ hreplaces =>
    obtain rfl := hname hreplaces hchange
    rw [hreplaces.1]
    exact .saved (h.begun he hn hgraph hbase) hstores hjoin hversion

section Turn

variable (hstore : Replacing fair sound held) (hfair : Fairly fair held fine p errands trace)
  (hupholds : Upholds fine p errands) (hstart : Sane sound held fine start)
  (hrun : Crew.Run Places.whole (Decent sound held fine) glimpse
    ⟨start, errands.map (·.serve p)⟩ trace c)
include hstore hfair hupholds hstart hrun

/-- **After any run, the next step of an errand changes what is held in no other way.** -/
theorem changes_of_turn (he : errands[i]? = some e) (hx : c.tasks[i]? = some x) {name : String}
    (hchange : held (c.turn Places.whole i x).world.store name ≠ held c.world.store name) :
    Change held fine p trace i c.world name e
      (held (c.turn Places.whole i x).world.store name) := by
  obtain ⟨notes, hkept, haligned⟩ := kept_of_run hstore hfair hupholds hstart hrun
  obtain ⟨n, hn, hready⟩ := haligned i x hx
  rw [Crew.pactsOf_eq he] at hready
  cases hover : x.isOver with
  | true =>
    cases x with
    | finished o => exact absurd rfl hchange
    | look _ | put _ _ | pause _ _ => exact nomatch hover
  | false =>
    obtain ⟨n', heffect, -⟩ := hready.step ⟨hkept.sane.sound, hkept.sane.closed⟩ hover
    exact hkept.change hstore.toHolding hfair he hn heffect hchange

/-- The outcome of a message is a reply to what it saw. -/
theorem replied_of_run (he : errands[i]? = some (.request (.message m))) {outcome : Outcome}
    (hx : c.tasks[i]? = some (.finished (.ok (some outcome)))) :
    ∃ graph base state guarded, Begun held fine trace i m graph base ∧
      Answered p m graph base state guarded ∧ outcome.state.key = guarded.reply.state.key := by
  obtain ⟨notes, hkept, haligned⟩ := kept_of_run hstore hfair hupholds hstart hrun
  obtain ⟨n, hn, hready⟩ := haligned i _ hx
  have htold : Told p (.request (.message m)) n (some outcome) := hready _ he
  obtain ⟨graph, base, state, guarded, hgraph, hbase, hanswered, hkey⟩ := htold m outcome rfl rfl
  exact ⟨graph, base, state, guarded, hkept.begun he hn hgraph hbase, hanswered, hkey⟩

end Turn

end Run

end Parley.Turn
