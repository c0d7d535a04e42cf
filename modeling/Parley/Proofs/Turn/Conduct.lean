import Parley.Proofs.Session.Exclusion
import Parley.Proofs.Session.Passage
import Parley.Proofs.Turn.Quiet

/-!
# Parley.Proofs.Turn.Conduct — what a message does, step by step

A message enters the lock of its session, holds it, loads the state, stores another one, leaves, and
passes its stage visits on.  `Step` lists the steps of importance, with a `Note` of how far the
message has come; whatever else happens in a turn is idle.  `leads_process` and `leads_reset`: the
processing of a message and the reset of a session take no other steps, whatever others do between
them.  A message that fails has stored nothing, or what it stored names a lead that cannot be shown
(`Unsent`).
-/

namespace Parley.Turn

open Conversation (State)
open Pact (Ending)
open Recovery (Guarded)
open Session (Hold Ticket)
open Stages (Advance Ledger findLead)
open Storage (Holding Store Swapping heldVersion Replaces)
open Template (FlowGraph Registry)
open Time (Clocked Seconds)

/-! ### Requests -/

/-- What a service is asked for: to process a message, or to forget a session. -/
inductive Request
  | message (m : Inbound)
  | reset (m : Inbound)

def Request.inbound : Request → Inbound
  | message m | reset m => m

/-- The name of the session. -/
def Request.name (r : Request) : String := r.inbound.lockName

/-- Does what is asked for; only a message has an outcome. -/
def Request.serve {ε : Type} [Clocked ε] (p : Processor ε) :
    Request → Action (World ε) (Option Outcome)
  | message m => (process p m).andThen fun outcome => Action.result (some outcome)
  | reset m => (Turn.reset p m).andThen fun _ => Action.result none

/-! ### Notes -/

/-- What a message has in hand: the state that it loaded, or the one that it stored on it. -/
inductive Work
  | nothing
  | loaded (base : Option State)
  | stored (base : Option State) (guarded : Guarded)

/-- What became of the stage visits: they are claimed in the ledger, then passed on. -/
inductive Dues
  | unclaimed
  | claimed (advances : List Advance)
  | passed

/-- How far a message has come. -/
structure Note where
  hold : Hold
  work : Work
  dues : Dues

def Note.fresh : Note := ⟨.outside, .nothing, .unclaimed⟩

/-- Nothing was stored so far. -/
def Work.IsFree : Work → Prop
  | stored _ _ => False
  | _ => True

variable {ε : Type} [Clocked ε]

/-- The guard's reply to a message when `base` is stored; the turn starts with `state`. -/
structure Answered (p : Processor ε) (m : Inbound) (graph : FlowGraph) (base state : Option State)
    (guarded : Guarded) : Prop where
  resumed : ∃ now : Time.Moment, now.Proper ∧ base.mapM (reconcile graph m.key now) = .ok state
  replied : ∃ decision, (execute p m graph state decision).MayEnd (.ok guarded)

/-- A message has its reply: it stored the new state, or the conversation was completed before. -/
inductive Finished (p : Processor ε) (m : Inbound) (graph : FlowGraph) : Work → Guarded → Prop
  | stored {base : Option State} {guarded : Guarded} :
    Finished p m graph (.stored base guarded) guarded
  | idle {base state : Option State} {guarded : Guarded} :
    Answered p m graph base state guarded → state.any (·.completed) = true →
    Finished p m graph (.loaded base) guarded

/-- The reply with the version under which its state was stored. -/
def storedAt (guarded : Guarded) (version : Int) : Guarded :=
  { guarded with reply := { guarded.reply with
      state := { guarded.reply.state with version := version } } }

/-- The advances that the stage visits of a reply lead to, and the ledger that knows them. -/
def claims (guarded : Guarded) (l : Ledger) : List Advance × Ledger :=
  Stages.dispatch l guarded.reply.state guarded.reply.stages

/-! ### Steps -/

section Step

variable (sound : Store → Prop) (held : Store → String → Option State)
  (served : String → Except Fault FlowGraph) (p : Processor ε)

/-- The steps of importance, from a note and a world to another note and world. -/
inductive Step : Request → Note → World ε → Note → World ε → Prop
  | idle {r : Request} {n : Note} {w w' : World ε} : Alike sound held w w' → Step r n w n w'
  | enter {r : Request} {n : Note} {w : World ε} : n.hold = .outside →
    Step r n w { n with hold := .inLine (w.locks.enter r.name).1 }
      { w with locks := (w.locks.enter r.name).2 }
  | ask {r : Request} {n : Note} {w : World ε} {t : Ticket} : n.hold = .inLine t →
    Step r n w n { w with locks := w.locks.ask t }
  | grasp {r : Request} {n : Note} {w : World ε} {t : Ticket} : n.hold = .inLine t →
    w.locks.holds t = true → Step r n w { n with hold := .inside t } w
  | leave {r : Request} {n : Note} {w : World ε} {t : Ticket} :
    n.hold = .inLine t ∨ n.hold = .inside t →
    Step r n w { n with hold := .left }
      { w with locks := (w.locks.giveUp t).leave t }
  | load {m : Inbound} {n : Note} {w w' : World ε} {t : Ticket} : n.hold = .inside t →
    n.work.IsFree → n.dues = .unclaimed → Alike sound held w w' →
    Step (.message m) n w { n with work := .loaded (held w.store m.lockName) } w'
  | store {m : Inbound} {n : Note} {w : World ε} {t : Ticket} {graph : FlowGraph}
      {base state : Option State} {guarded : Guarded} {name : String} {s : Store} :
    n.hold = .inside t → n.work = .loaded base → n.dues = .unclaimed →
    served m.templateId = .ok graph → Answered p m graph base state guarded →
    state.any (·.completed) = false → guarded.reply.state.key.join = .ok name →
    heldVersion (held w.store name) = heldVersion base → sound s →
    Replaces (held w.store) (held s) name
      (some (storedAt guarded (heldVersion base + 1)).reply.state) →
    Step (.message m) n w { n with work := .stored base (storedAt guarded (heldVersion base + 1)) }
      { w with store := s }
  | drop {m : Inbound} {n : Note} {w : World ε} {t : Ticket} {s : Store} : n.hold = .inside t →
    n.work = .nothing → sound s → Replaces (held w.store) (held s) m.lockName none →
    Step (.reset m) n w n { w with store := s }
  | claim {m : Inbound} {n : Note} {w : World ε} {graph : FlowGraph} {guarded : Guarded}
      {lead : Value} : served m.templateId = .ok graph → Finished p m graph n.work guarded →
    n.hold = .left → n.dues = .unclaimed → findLead guarded.reply.state = .ok lead →
    Step (.message m) n w { n with dues := .claimed (claims guarded w.ledger).1 }
      { w with ledger := (claims guarded w.ledger).2 }
  | pass {m : Inbound} {n : Note} {w : World ε} {advances : List Advance} :
    n.dues = .claimed advances →
    Step (.message m) n w { n with dues := .passed }
      { w with advances := w.advances ++ advances }

/-- What a request may rely on, and which steps it may take. -/
def conduct (r : Request) : Pact (World ε) Note where
  sees _ w := sound w.store ∧ w.registry.serves = served
  moves := Step sound held served p r

theorem ignores_conduct (r : Request) :
    (conduct sound held served p r).Ignores (Alike sound held) :=
  ⟨Alike.refl, Alike.trans, fun _ h => .idle h⟩

end Step

variable {fair : State → Prop} {sound : Store → Prop} {held : Store → String → Option State}
  {served : String → Except Fault FlowGraph} {p : Processor ε} {r : Request} {α : Type}

/-- The request stands so with the lock, its work is in `J`, and nothing is claimed. -/
structure At (hold : Hold) (J : Work → Prop) (n : Note) : Prop where
  hold : n.hold = hold
  dues : n.dues = .unclaimed
  work : J n.work

theorem At.mono {hold : Hold} {J L : Work → Prop} {n : Note} (h : At hold J n)
    (hJ : ∀ work, J work → L work) : At hold L n :=
  ⟨h.hold, h.dues, hJ _ h.work⟩

/-! ### What a turn gives -/

section Answered

variable {m : Inbound} {graph : FlowGraph} {base state : Option State}

/-- The conversation is at a node of the graph. -/
def Resumes (graph : FlowGraph) (s : State) : Prop :=
  s.flowId = .text graph.id ∧ ∃ node, graph.lookup s.currentNodeId = .ok (some node)

theorem reconcile_of_resumes {key : Conversation.SessionKey} {now : Time.Moment} {s : State}
    (h : Resumes graph s) : reconcile graph key now s = .ok s := by
  obtain ⟨hflow, node, hnode⟩ := h
  unfold reconcile
  rw [if_pos hflow, hnode]
  rfl

theorem reconcile_of_not_resumes {key : Conversation.SessionKey} {now : Time.Moment}
    {s s' : State} (h : ¬ Resumes graph s) (hs : reconcile graph key now s = .ok s') :
    s' = { State.initial graph key now with version := s.version } := by
  unfold reconcile at hs
  by_cases hflow : s.flowId = .text graph.id
  · rw [if_pos hflow] at hs
    cases hnode : graph.lookup s.currentNodeId with
    | error f =>
      rw [hnode] at hs
      exact nomatch hs
    | ok found =>
      cases found with
      | some node => exact absurd ⟨hflow, node, hnode⟩ h
      | none =>
        rw [hnode] at hs
        exact (Except.ok.inj hs).symm
  · rw [if_neg hflow] at hs
    exact (Except.ok.inj hs).symm

theorem eq_of_mapM {key : Conversation.SessionKey} {now : Time.Moment}
    (hbase : ∀ s, base = some s → Resumes graph s)
    (h : base.mapM (reconcile graph key now) = .ok state) : state = base := by
  cases base with
  | none => exact (Except.ok.inj h).symm
  | some s =>
    obtain ⟨s', hs', h⟩ := exceptBind_eq_ok.mp h
    rw [reconcile_of_resumes (hbase s rfl)] at hs'
    rw [← Except.ok.inj h, ← Except.ok.inj hs']

theorem heldVersion_mapM {now : Time.Moment}
    (h : base.mapM (reconcile graph m.key now) = .ok state) :
    heldVersion state = heldVersion base := by
  cases base with
  | none => rw [← Except.ok.inj h]
  | some s =>
    obtain ⟨s', hs', h⟩ := exceptBind_eq_ok.mp h
    rw [← Except.ok.inj h]
    by_cases hresumes : Resumes graph s
    · rw [reconcile_of_resumes hresumes] at hs'
      rw [← Except.ok.inj hs']
    · rw [reconcile_of_not_resumes hresumes hs']
      rfl

theorem answered_of_work {start : Seconds} {settled : Settled}
    (h : (work p m graph start base).MayEnd (.ok (state, settled))) :
    Answered p m graph base state settled.guarded := by
  obtain ⟨now, hnow, h⟩ := Action.mayEnd_andThen_ok.mp h
  obtain ⟨state', hstate, h⟩ := Action.mayEnd_andThen_ok.mp h
  obtain ⟨decision, -, h⟩ := Action.mayEnd_andThen_ok.mp h
  obtain ⟨outcome, hout, h⟩ := Action.mayEnd_andThen_ok.mp h
  obtain ⟨o, hexecute, ho⟩ := Action.mayEnd_attempt.mp hout
  rw [Except.ok.inj ho] at h
  cases o with
  | error f =>
    dsimp only at h
    split at h
    · obtain ⟨-, -, h⟩ := Action.mayEnd_andThen_ok.mp h
      exact nomatch Action.mayEnd_fail.mp h
    · exact nomatch Action.mayEnd_fail.mp h
  | ok guarded =>
    obtain ⟨rfl, rfl⟩ := Prod.mk.inj (Except.ok.inj (Action.mayEnd_result.mp h))
    refine ⟨⟨now, Action.proper_of_now hnow, ?_⟩, decision, hexecute⟩
    cases base with
    | none => exact (Action.mayEnd_result.mp hstate).symm
    | some s =>
      obtain ⟨s', hs', hstate⟩ := Action.mayEnd_andThen_ok.mp hstate
      rw [Except.ok.inj (Action.mayEnd_result.mp hstate)]
      exact exceptBind_eq_ok.mpr ⟨s', (Action.mayEnd_ofExcept.mp hs').symm, rfl⟩

end Answered

/-! ### Attempts -/

section Attempts

variable {γ : Type} {P : Pact (World ε) γ} {same : World ε → World ε → Prop} [Minor same]
  {m : Inbound} {graph : FlowGraph} {I : γ → Prop} {J : Option State → γ → Prop}
  {K : Guarded → γ → Prop}

/-- A message comes to a state by a call of the store, or by bringing it along. -/
theorem leads_load_of (hidle : P.Ignores same)
    (hbrought : ∀ state, m.prior = some state → ∀ n, I n → J (some state) n)
    (hfound : ∀ now, P.Leads I (Action.tryPart (Store.load now m.key))
      (Ending I fun n base => J base n)) (attempt : Nat) :
    P.Leads I (load m attempt) (Ending I fun n base => J base n) := by
  unfold load
  split
  · rename_i state hprior
    refine Pact.leads_idle_andThen hidle (Action.idle_ofExcept _) (fun copied hcopied => ?_)
      fun _ _ h => h
    obtain ⟨-, rfl⟩ := State.copy_eq_ok.mp (Action.mayEnd_ofExcept.mp hcopied).symm
    exact Pact.leads_finished fun n hn => hbrought copied hprior n hn
  · refine leads_withRetry hidle ?_ _
    exact Pact.leads_idle_andThen hidle idle_now (fun now _ => hfound now) fun _ _ h => h

variable (hidle : P.Ignores same)
  (hquiet : ∀ (now : Time.Moment) (key : Conversation.SessionKey) (w : World ε),
    same w { w with store := (w.store.load now key).2 })
  (hload : ∀ attempt, P.Leads I (load m attempt) (Ending I fun n base => J base n))
  (hloaded : ∀ base n, J base n → I n)
  (hidled : ∀ {base state guarded} n, Answered p m graph base state guarded →
    state.any (·.completed) = true → J base n → K guarded n)
  (hsave : ∀ {base state guarded}, Answered p m graph base state guarded →
    state.any (·.completed) = false → P.Leads (J base) (save state guarded.reply)
      (Ending I fun n saved =>
        if saved.ok then
          K { guarded with reply := { guarded.reply with
              state := saved.adopt guarded.reply.state } } n
        else I n))
include hidle hquiet hload hloaded hidled hsave

/-- An attempt keeps the pact if loading and storing do: with `J base` the message has loaded `base`,
and with `K guarded` it has its reply. -/
theorem leads_tryOnce (start : Seconds) (attempt : Nat) :
    P.Leads I (tryOnce p m graph start attempt) (Ending I fun n settled? =>
      match settled? with
      | some settled => K settled.guarded n
      | none => I n) := by
  refine (hload attempt).bind (fun base => ?_) fun _ h => h
  refine Pact.leads_idle_andThen hidle (idle_work hquiet p m graph start base)
    (fun ⟨state, settled⟩ hwork => ?_) fun n _ h => hloaded base n h
  have hanswered := answered_of_work hwork
  dsimp only
  split_ifs with hcompleted
  · exact Pact.leads_finished fun n h => hidled n hanswered hcompleted h
  · refine (hsave hanswered (Bool.eq_false_iff.mpr hcompleted)).bind (fun saved => ?_) fun _ h => h
    split_ifs <;> exact Pact.leads_finished fun _ h => h

theorem leads_tryRepeatedly (start : Seconds) (left attempt : Nat) :
    P.Leads I (tryRepeatedly p m graph start left attempt)
      (Ending I fun n settled => K settled.guarded n) := by
  induction left generalizing attempt with
  | zero => exact Pact.leads_finished fun _ h => h
  | succ left ih =>
    refine (leads_tryOnce hidle hquiet hload hloaded hidled hsave start attempt).bind
      (fun settled? => ?_) fun _ h => h
    cases settled? with
    | some settled => exact Pact.leads_finished fun _ h => h
    | none => exact ih (attempt + 1)

end Attempts

/-! ### The store -/

/-- What the message makes of a fair state in this graph is fair. -/
def Preserves (fair : State → Prop) (p : Processor ε) (m : Inbound) (graph : FlowGraph) : Prop :=
  ∀ {base state : Option State} {guarded : Guarded}, (∀ s, base = some s → fair s) →
    Answered p m graph base state guarded → fair guarded.reply.state

theorem preserves_any (m : Inbound) (graph : FlowGraph) : Preserves Storage.Any p m graph :=
  fun _ _ => trivial

section Store

variable {m : Inbound} {t : Ticket}

/-- The message has loaded `base`, which is fair. -/
def HasLoaded (fair : State → Prop) (t : Ticket) (base : Option State) (n : Note) : Prop :=
  At (.inside t) (· = .loaded base) n ∧ ∀ s, base = some s → fair s

theorem HasLoaded.isFree {base : Option State} {n : Note} (h : HasLoaded fair t base n) :
    At (.inside t) Work.IsFree n := h.1.mono fun work hw => by rw [hw]; trivial

theorem leads_load (hstore : Holding fair sound held) (hprior : m.prior = none) (attempt : Nat) :
    (conduct sound held served p (.message m)).Leads (At (.inside t) Work.IsFree) (load m attempt)
      (Ending (At (.inside t) Work.IsFree) fun n base => HasLoaded fair t base n) := by
  refine leads_load_of (J := HasLoaded fair t)
    (ignores_conduct sound held served p _) (fun _ hsome => nomatch hprior.symm.trans hsome)
    (fun now => Pact.leads_tryPart fun n w hn hw => ?_) attempt
  have halike : Alike sound held w { w with store := (w.store.load now m.key).2 } :=
    .load hstore now m.key w
  cases hanswer : (w.store.load now m.key).1 with
  | error f => exact ⟨n, .idle halike, hn⟩
  | ok base =>
    obtain ⟨-, -, hbase⟩ := hstore.load now m.key hw.1
    have hfound := hbase base m.lockName m.key_join hanswer
    refine ⟨{ n with work := .loaded (held w.store m.lockName) },
      .load hn.hold hn.work hn.dues halike, ⟨hn.hold, hn.dues, ?_⟩, fun s hs => ?_⟩
    · rw [hfound]
    · exact hstore.holds hw.1 (hfound.symm.trans hs)

theorem leads_save (hstore : Swapping fair sound held) {graph : FlowGraph}
    (hserved : served m.templateId = .ok graph) {base state : Option State} {guarded : Guarded}
    (hversion : heldVersion state = heldVersion base)
    (hanswered : Answered p m graph base state guarded) (hopen : state.any (·.completed) = false)
    (hfair : fair guarded.reply.state) :
    (conduct sound held served p (.message m)).Leads (At (.inside t) (· = .loaded base))
      (save state guarded.reply)
      (Ending (At (.inside t) (· = .loaded base)) fun n saved =>
        if saved.ok then
          saved = .stored (.int (heldVersion base + 1)) ∧
            At (.inside t) (· = .stored base (storedAt guarded (heldVersion base + 1))) n
        else At (.inside t) (· = .loaded base) n) := by
  refine leads_withRetry (ignores_conduct sound held served p _)
    (Pact.leads_tryPart fun n w hn hw => ?_) _
  have hexpected : (state.map State.version).getD 0 = heldVersion base := hversion
  rw [hexpected]
  obtain ⟨hsound, ⟨hheld, hno⟩ | ⟨name, hname, hfound, hsaved, hreplaces⟩⟩ :=
    hstore.save (heldVersion base) hw.1 hfair
  · refine ⟨n, .idle ⟨fun _ => ⟨hsound, hheld⟩, rfl, rfl, rfl, rfl⟩, ?_⟩
    cases hanswer : (w.store.save guarded.reply.state (heldVersion base)).1 with
    | error f => exact hn
    | ok saved =>
      dsimp only [Ending]
      rw [if_neg (by rw [hno saved hanswer]; exact Bool.false_ne_true)]
      exact hn
  · refine ⟨{ n with work := .stored base (storedAt guarded (heldVersion base + 1)) },
      .store hn.hold hn.work hn.dues hserved hanswered hopen hname hfound hsound hreplaces, ?_⟩
    rw [show (Store.save guarded.reply.state (heldVersion base) (Holds.part w)).1 = _ from hsaved]
    exact ⟨rfl, hn.hold, hn.dues, rfl⟩

theorem leads_attempts (hstore : Swapping fair sound held) (hprior : m.prior = none)
    {graph : FlowGraph} (hserved : served m.templateId = .ok graph)
    (hpreserves : Preserves fair p m graph) (start : Seconds) (left attempt : Nat) :
    (conduct sound held served p (.message m)).Leads (At (.inside t) Work.IsFree)
      (tryRepeatedly p m graph start left attempt)
      (Ending (At (.inside t) Work.IsFree) fun n settled =>
        At (.inside t) (Finished p m graph · settled.guarded) n) := by
  refine leads_tryRepeatedly (J := HasLoaded fair t)
    (K := fun guarded => At (.inside t) (Finished p m graph · guarded))
    (ignores_conduct sound held served p _) (Alike.load hstore.toHolding)
    (leads_load hstore.toHolding hprior) (fun base n hn => hn.isFree)
    (fun n hanswered hcompleted hn => hn.1.mono fun work hw => by
      rw [hw]
      exact .idle hanswered hcompleted)
    (fun {base state guarded} hanswered hopen => ?_) start left attempt
  obtain ⟨now, -, hresumed⟩ := hanswered.resumed
  refine Pact.leads_of_fact fun hbase => ?_
  refine (leads_save hstore hserved (heldVersion_mapM hresumed) hanswered hopen
    (hpreserves hbase hanswered)).mono fun n o hn => ?_
  have hfree {n : Note} (hn : At (.inside t) (· = .loaded base) n) :
      At (.inside t) Work.IsFree n := hn.mono fun work hw => by rw [hw]; trivial
  cases o with
  | error f => exact hfree hn
  | ok saved =>
    dsimp only [Ending] at hn ⊢
    split_ifs at hn ⊢
    · rw [hn.1]
      exact hn.2.mono fun work hw => by rw [hw]; exact .stored
    · exact hfree hn

theorem leads_delete (hstore : Holding fair sound held) :
    (conduct sound held served p (.reset m)).Leads (At (.inside t) (· = .nothing))
      (Recovery.withRetry "state_delete" (Action.tryPart (Store.delete m.key)))
      (Ending (At (.inside t) (· = .nothing)) fun n _ => At (.inside t) (· = .nothing) n) := by
  refine leads_withRetry (ignores_conduct sound held served p _)
    (Pact.leads_tryPart fun n w hn hw => ⟨n, ?_, ?_⟩) _
  · obtain ⟨hsound, hheld | ⟨name, hname, hreplaces⟩⟩ := hstore.delete m.key hw.1
    · exact .idle ⟨fun _ => ⟨hsound, hheld⟩, rfl, rfl, rfl, rfl⟩
    · rw [m.key_join] at hname
      rw [← Except.ok.inj hname] at hreplaces
      exact .drop hn.hold hn.work hsound hreplaces
  · cases (Store.delete m.key (Holds.part w)).1 <;> exact hn

end Store

/-! ### The lock -/

section Lock

variable {J E : Work → Prop}

/-- What a note says of one at a stand. -/
def holdAt : Session.Stand → Hold
  | .outside => .outside
  | .entered t | .inLine t => .inLine t
  | .inside t => .inside t
  | .left _ => .left

theorem passage_conduct : Session.Passage (conduct sound held served p r) r.name
    (fun s n => n.hold = holdAt s) fun n => (n.work, n.dues) where
  look _ := .idle (.refl _)
  enter _ _ hn _ := ⟨_, .enter hn, rfl, rfl⟩
  ask _ _ n hn _ := ⟨n, .ask hn, hn, rfl⟩
  grasp _ _ hholds _ hn _ := ⟨_, .grasp hn hholds, rfl, rfl⟩
  leave _ s t hs n hn _ := by
    refine ⟨{ n with hold := .left }, .leave (t := t) ?_, rfl, rfl⟩
    rcases hs with rfl | rfl | rfl
    · exact .inl hn
    · exact .inl hn
    · exact .inr hn

/-- What is done while the lock is held, is done between entering and leaving. -/
theorem leads_whileHolding {x : Action (World ε) α} {K : Work → α → Prop} (span : Option Number)
    (hx : ∀ t, (conduct sound held served p r).Leads (At (.inside t) J) x
      (Ending (At (.inside t) E) fun n a => At (.inside t) (K · a) n))
    (hE : ∀ work, J work → E work) :
    (conduct sound held served p r).Leads (At .outside J) (Session.whileHolding r.name span x)
      (Ending (At .left E) fun n a => At .left (K · a) n) := by
  have hbody (t : Ticket) : (conduct sound held served p r).Leads
      (fun n => n.hold = .inside t ∧ n.dues = .unclaimed ∧ J n.work) x
      (Ending (fun n => n.hold = .inside t ∧ n.dues = .unclaimed ∧ E n.work)
        fun n a => n.hold = .inside t ∧ n.dues = .unclaimed ∧ K n.work a) := by
    refine ((hx t).weaken fun n hn => ⟨hn.1, hn.2.1, hn.2.2⟩).mono fun n o hn => ?_
    cases o with
    | ok a => exact ⟨hn.hold, hn.dues, hn.work⟩
    | error f => exact ⟨hn.hold, hn.dues, hn.work⟩
  have hpassed := passage_conduct.leads_whileHolding (J := fun r => r.2 = .unclaimed ∧ J r.1)
    (E := fun r => r.2 = .unclaimed ∧ E r.1) (K := fun r a => r.2 = .unclaimed ∧ K r.1 a) span hbody
    fun _ hr => ⟨hr.1, hE _ hr.2⟩
  refine (hpassed.weaken fun n hn => ⟨hn.hold, hn.dues, hn.work⟩).mono fun n o hn => ?_
  cases o with
  | ok a =>
    obtain ⟨⟨_, hleft⟩, hdues, hwork⟩ := hn
    exact ⟨hleft, hdues, hwork⟩
  | error f =>
    obtain ⟨⟨_, hleft⟩, hdues, hwork⟩ := hn
    exact ⟨hleft, hdues, hwork⟩

end Lock

/-! ### Whole requests -/

/-- A message is done: it has its reply, and its stage visits are passed on. -/
structure Processed (served : String → Except Fault FlowGraph) (p : Processor ε) (m : Inbound)
    (n : Note) (outcome : Outcome) : Prop where
  dues : n.dues = .passed
  work : ∃ graph guarded, served m.templateId = .ok graph ∧ Finished p m graph n.work guarded ∧
    outcome.state = guarded.reply.state

/-- A request is over, and nothing was stored. -/
structure Spared (n : Note) : Prop where
  dues : n.dues = .unclaimed
  work : n.work.IsFree

/-- A message has its reply, but its stage visits are not passed on: the lead that the new state names
cannot be shown. -/
structure Unsent (served : String → Except Fault FlowGraph) (p : Processor ε) (m : Inbound)
    (n : Note) (f : Fault) : Prop where
  dues : n.dues = .unclaimed
  work : ∃ graph guarded, served m.templateId = .ok graph ∧ Finished p m graph n.work guarded ∧
    findLead guarded.reply.state = .error f

/-- How a message may end. -/
def Ended (served : String → Except Fault FlowGraph) (p : Processor ε) (m : Inbound) (n : Note) :
    Except Fault Outcome → Prop
  | .ok outcome => Processed served p m n outcome
  | .error f => Spared n ∨ Unsent served p m n f

theorem At.spared {hold : Hold} {n : Note} (h : At hold Work.IsFree n) : Spared n :=
  ⟨h.dues, h.work⟩

section Whole

variable {m : Inbound}

theorem leads_graphOf (templateId : String) :
    (conduct sound held served p r).Leads (At .outside Work.IsFree) (graphOf templateId)
      (Ending (At .outside Work.IsFree) fun n graph =>
        At .outside Work.IsFree n ∧ served templateId = .ok graph) := by
  have hview : (conduct sound held served p r).Leads (At .outside Work.IsFree)
      (Action.view Registry) (Ending (fun _ => False) fun n registry =>
        At .outside Work.IsFree n ∧ registry.serves = served) :=
    Pact.leads_look fun n w hn hw => ⟨n, .idle (.refl w), hn, hw.2⟩
  refine hview.bind (fun registry => ?_) fun _ h => h.elim
  cases hfetch : registry.fetch templateId with
  | error f => exact Pact.leads_finished fun _ h => h.1
  | ok found =>
    obtain ⟨graph, registry'⟩ := found
    have hserved (n : Note) (h : At .outside Work.IsFree n ∧ registry.serves = served) :
        At .outside Work.IsFree n ∧ served templateId = .ok graph :=
      ⟨h.1, h.2 ▸ Registry.serves_of_fetch hfetch⟩
    have hupdate : (conduct sound held served p r).Leads
        (fun n => At .outside Work.IsFree n ∧ registry.serves = served)
        (Action.update fun _ : Registry => registry') (Ending (fun _ => False) fun n _ =>
          At .outside Work.IsFree n ∧ served templateId = .ok graph) := by
      refine Pact.leads_ofState fun n w hn hw => ⟨n, ?_, hserved n hn⟩
      refine Step.idle ⟨fun hs => ⟨hs, rfl⟩, ?_, rfl, rfl, rfl⟩
      show registry'.serves = w.registry.serves
      rw [Registry.serves_fetch hfetch, hn.2, hw.2]
    exact hupdate.bind (fun _ => Pact.leads_finished fun _ h => h) fun _ h => h.elim

/-- Stage visits are claimed and passed on, or else there is no lead. -/
theorem leads_schedule {graph : FlowGraph} (hserved : served m.templateId = .ok graph)
    (guarded : Guarded) :
    (conduct sound held served p (.message m)).Leads
      (At .left (Finished p m graph · guarded)) (schedule guarded)
      fun n o => match o with
        | .ok _ => n.dues = .passed ∧ Finished p m graph n.work guarded
        | .error f => Unsent served p m n f := by
  have hclaim : (conduct sound held served p (.message m)).Leads
      (At .left (Finished p m graph · guarded))
      (Action.tryPart fun l : Ledger =>
        Stages.passOn l guarded.reply.state guarded.reply.stages)
      fun n o => match o with
        | .ok advances => n.dues = .claimed advances ∧ Finished p m graph n.work guarded
        | .error f => Unsent served p m n f := by
    refine Pact.leads_tryPart fun n w hn _ => ?_
    unfold Stages.passOn
    cases hlead : findLead guarded.reply.state with
    | ok lead =>
      exact ⟨{ n with dues := .claimed (claims guarded w.ledger).1 },
        .claim hserved hn.work hn.hold hn.dues hlead, rfl, hn.work⟩
    | error f =>
      exact ⟨n, .idle (.refl w), hn.dues, graph, guarded, hserved, hn.work, hlead⟩
  refine hclaim.andThen (fun advances => ?_) fun _ _ h => h
  exact Pact.leads_ofState fun n w hn _ => ⟨{ n with dues := .passed }, .pass hn.1, rfl, hn.2⟩

theorem mayEnd_note {graph : FlowGraph} {decision : Routing.Decision} {guarded : Option Guarded}
    {start : Seconds} {o : Except Fault Unit}
    (h : (note m graph decision guarded start : Action (World ε) Unit).MayEnd o) : o = .ok () := by
  rcases Action.mayEnd_andThen.mp h with ⟨clock, -, h⟩ | ⟨f, h, -⟩
  · exact Action.mayEnd_update h
  · obtain ⟨w, h⟩ := Action.mayEnd_look.mp h
    exact nomatch Action.mayEnd_result.mp h

/-- **A message takes no other steps.** -/
theorem leads_process (hstore : Swapping fair sound held) (hprior : m.prior = none)
    (hpreserves : ∀ graph, served m.templateId = .ok graph → Preserves fair p m graph) :
    (conduct sound held served p (.message m)).Leads (At .outside Work.IsFree) (process p m)
      (Ended served p m) := by
  have hidle := ignores_conduct sound held served p (.message m)
  refine Pact.leads_idle_andThen hidle idle_reading (fun start _ => ?_) fun _ _ h => .inl h.spared
  refine (leads_graphOf m.templateId).andThen (fun graph => ?_) fun _ _ h => .inl h.spared
  refine Pact.leads_of_fact fun hserved => ?_
  have hwork (t : Ticket) := leads_attempts (p := p) (t := t) hstore hprior hserved
    (hpreserves graph hserved) start p.attempts.toNat 0
  refine (leads_whileHolding p.lockSpan hwork fun _ h => h).andThen (fun settled => ?_)
    fun _ _ h => .inl h.spared
  have hnote : (conduct sound held served p (.message m)).Leads
      (At .left (Finished p m graph · settled.guarded))
      (note m graph settled.decision (some settled.guarded) start)
      (Ending (fun _ => False) fun n _ => At .left (Finished p m graph · settled.guarded) n) := by
    refine (Pact.leads_of_idle hidle (idle_note m graph _ _ start)).mono fun n o h => ?_
    cases o with
    | ok a => exact h.1
    | error f => exact nomatch mayEnd_note h.2
  refine hnote.andThen (fun _ => ?_) fun _ _ h => h.elim
  refine (leads_schedule hserved settled.guarded).andThen (fun _ => ?_) fun _ _ h => .inr h
  refine (Pact.leads_of_idle hidle idle_reading).andThen (fun now => ?_) fun n f h => ?_
  · exact Pact.leads_finished fun n h => ⟨h.1.1, graph, settled.guarded, hserved, h.1.2, rfl⟩
  · obtain ⟨w, hfail⟩ := Action.mayEnd_look.mp h.2
    exact nomatch Action.mayEnd_result.mp hfail

theorem leads_reset (hstore : Holding fair sound held) :
    (conduct sound held served p (.reset m)).Leads (At .outside (· = .nothing)) (reset p m)
      (Ending Spared fun n _ => Spared n) := by
  have hspared (n : Note) (h : At .left (· = .nothing) n) : Spared n :=
    (h.mono fun work hw => by rw [hw]; trivial).spared
  refine (leads_whileHolding p.lockSpan (fun t => leads_delete (t := t) hstore)
    fun _ h => h).mono fun n o h => ?_
  cases o with
  | ok dropped => exact hspared n h
  | error f => exact hspared n h

/-- How a request may end. -/
def Served (served : String → Except Fault FlowGraph) (p : Processor ε) :
    Request → Note → Except Fault (Option Outcome) → Prop
  | .message m, n, .ok (some outcome) => Ended served p m n (.ok outcome)
  | .message _, _, .ok none => False
  | .message m, n, .error f => Ended served p m n (.error f)
  | .reset _, n, _ => Spared n

/-- **A request takes no other steps.** -/
theorem leads_serve (hstore : Swapping fair sound held) (hprior : r.inbound.prior = none)
    (hpreserves : ∀ graph, served r.inbound.templateId = .ok graph →
      Preserves fair p r.inbound graph) :
    (conduct sound held served p r).Leads (· = .fresh) (r.serve p) (Served served p r) := by
  cases r with
  | message m =>
    have hfresh (n : Note) (h : n = .fresh) : At .outside Work.IsFree n := by
      rw [h]
      exact ⟨rfl, rfl, trivial⟩
    refine Pact.Leads.weaken ((leads_process hstore hprior hpreserves).andThen (fun outcome => ?_)
      fun _ _ h => h) hfresh
    exact Pact.leads_finished fun _ h => h
  | reset m =>
    have hfresh (n : Note) (h : n = .fresh) : At .outside (· = .nothing) n := by
      rw [h]
      exact ⟨rfl, rfl, rfl⟩
    refine Pact.Leads.weaken ((leads_reset hstore.toHolding).andThen (fun dropped => ?_)
      fun _ _ h => h) hfresh
    exact Pact.leads_finished fun _ h => h

end Whole

/-! ### Entries -/

/-- A state that was stored, the one that it took the place of, and the request that did so. -/
structure Entry where
  job : Nat
  before : Option State
  after : State
  deriving DecidableEq

/-- What a step of a request stored under a name, if the version there is another one. -/
def entries (held : Store → String → Option State) (name : String) (job : Nat) (s s' : Store) :
    List Entry :=
  match held s' name with
  | none => []
  | some after =>
    if after.version = heldVersion (held s name) then [] else [⟨job, held s name, after⟩]

/-- What a request stored so far. -/
def Work.entries (job : Nat) : Work → List Entry
  | stored base guarded => [⟨job, base, guarded.reply.state⟩]
  | _ => []

section Entries

variable {name : String} {i : Nat} {s s' : Store}

theorem entries_of_same (h : held s' = held s) : entries held name i s s' = [] := by
  unfold entries
  rw [h]
  cases held s name with
  | none => rfl
  | some state => exact if_pos rfl

theorem entries_of_none (h : held s' name = none) : entries held name i s s' = [] := by
  unfold entries
  rw [h]

/-- A state that is stored with the next version is seen. -/
theorem entries_of_next {state : State} (h : held s' name = some state)
    (hv : state.version = heldVersion (held s name) + 1) :
    entries held name i s s' = [⟨i, held s name, state⟩] := by
  unfold entries
  rw [h]
  exact if_neg (by omega)

theorem Work.IsFree.entries {work : Work} (h : work.IsFree) (i : Nat) : work.entries i = [] := by
  cases work with
  | nothing | loaded base => rfl
  | stored base guarded => exact h.elim

end Entries

end Parley.Turn
