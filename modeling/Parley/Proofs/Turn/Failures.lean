import Parley.Proofs.Session.Queue
import Parley.Proofs.Storage.Contents
import Parley.Proofs.Turn.Errands
import Parley.Proofs.Turn.Home

/-!
# Parley.Proofs.Turn.Failures — what a message that fails leaves behind

The errands of a service take turns, among others who leave the locks alone.  `Tread` lists what a
step of an errand may do, with a `Footing` that knows where the errand stands with its lock, and what
it wrote so far.  After its state is stored, a message can fail in one way only: the lead that the
state names cannot be shown.  `untouched_of_failed`: it has not touched the ledger or the scheduled
advances then, nor what is stored but for this one state, and it is in the queue of no lock.
`stored_of_failed` is a message that fails so.
-/

namespace Parley.Turn

open Conversation (State)
open Pact (Ending)
open Recovery (Guarded)
open Session (Attended Locks Stand Ticket)
open Stages (findLead)
open Storage (Store)
open Template (FlowGraph)
open Time (Clocked)

variable {ε : Type}

/-! ### Steps -/

/-- The same is stored, the same visits are known, and the same advances scheduled. -/
structure Untouched (w w' : World ε) : Prop where
  records : w'.store.contents = w.store.contents
  ledger : w'.ledger = w.ledger
  advances : w'.advances = w.advances

/-- Nothing is touched, and no lock either. -/
structure Still (w w' : World ε) : Prop extends Untouched w w' where
  answers : w.store.Answers → w'.store.Answers
  locks : w'.locks = w.locks

/-- What an errand wrote: nothing, a state once, or more. -/
inductive Mark
  | nothing
  | stored (s : State)
  | more

/-- Where an errand stands with its lock, and what it wrote. -/
structure Footing where
  stand : Stand
  mark : Mark

def Footing.fresh : Footing := ⟨.outside, .nothing⟩

/-- A step that stores a state, and touches nothing else. -/
def Saves (s : State) (w w' : World ε) : Prop :=
  ∃ expected saved, (w.store.save s expected).1 = .ok saved ∧ saved.ok = true ∧
    w' = { w with store := (w.store.save s expected).2 }

/-- What an errand may do under the name of its lock. -/
inductive Tread (name : String) : Footing → World ε → Footing → World ε → Prop
  | still {n : Footing} {w w' : World ε} : Still w w' → Tread name n w n w'
  | save {n : Footing} {w w' : World ε} {s : State} : n.mark = .nothing → Saves s w w' →
    Tread name n w { n with mark := .stored s } w'
  | write {n : Footing} {w w' : World ε} : w'.store.Answers → w'.locks = w.locks →
    Tread name n w { n with mark := .more } w'
  | enter {n : Footing} {w : World ε} : n.stand = .outside →
    Tread name n w { n with stand := .entered (w.locks.enter name).1 }
      { w with locks := (w.locks.enter name).2 }
  | ask {n : Footing} {w : World ε} {t : Ticket} : n.stand = .entered t →
    Tread name n w { n with stand := .inLine t } { w with locks := w.locks.ask t }
  | grasp {n : Footing} {w : World ε} {t : Ticket} : n.stand = .inLine t →
    Tread name n w { n with stand := .inside t } w
  | leave {n : Footing} {w : World ε} {t : Ticket} : n.stand.Present t →
    Tread name n w { n with stand := .left t }
      { w with locks := (w.locks.giveUp t).leave t }

/-- What an errand may rely on, and what it may do. -/
def footwork (name : String) : Pact (World ε) Footing where
  sees _ w := w.store.Answers
  moves := Tread name

variable {name : String}

namespace Still

variable {u v w w' : World ε}

theorem of_parts (hs : w'.store = w.store) (hl : w'.ledger = w.ledger) (hk : w'.locks = w.locks)
    (ha : w'.advances = w.advances) : Still w w' :=
  ⟨⟨congrArg Store.contents hs, hl, ha⟩, fun h => hs ▸ h, hk⟩

theorem refl (w : World ε) : Still w w := of_parts rfl rfl rfl rfl

theorem trans (h : Still u v) (h' : Still v w) : Still u w where
  records := h'.records.trans h.records
  ledger := h'.ledger.trans h.ledger
  advances := h'.advances.trans h.advances
  answers hu := h'.answers (h.answers hu)
  locks := h'.locks.trans h.locks

theorem load (now : Time.Moment) (key : Conversation.SessionKey) (w : World ε) :
    Still w { w with store := (w.store.load now key).2 } where
  records := Storage.contents_load now key
  ledger := rfl
  advances := rfl
  answers h := Storage.answers_load h now key
  locks := rfl

instance : Minor (ε := ε) Still := ⟨fun hs _ hl hk ha => of_parts hs hl hk ha⟩

end Still

theorem ignores_footwork (name : String) : (footwork (ε := ε) name).Ignores Still :=
  ⟨Still.refl, Still.trans, fun _ h => .still h⟩

theorem passage_footwork (name : String) :
    Session.Passage (footwork (ε := ε) name) name (fun s n => n.stand = s) Footing.mark where
  look _ := .still (.refl _)
  enter _ _ hn _ := ⟨_, .enter hn, rfl, rfl⟩
  ask _ _ _ hn _ := ⟨_, .ask hn, rfl, rfl⟩
  grasp _ _ _ _ hn _ := ⟨_, .grasp hn, rfl, rfl⟩
  leave _ _ _ hs _ hn _ := ⟨_, .leave (hn ▸ hs), rfl, rfl⟩

/-! ### Messages -/

variable [Clocked ε] {p : Processor ε} {m : Inbound} {t : Ticket} {f : Fault}

/-- One holds the lock, and wrote nothing so far. -/
def Footing.IsFree (t : Ticket) (n : Footing) : Prop := n.stand = .inside t ∧ n.mark = .nothing

/-- The state of a reply to the message. -/
def RepliesWith (p : Processor ε) (m : Inbound) (s : State) : Prop :=
  ∃ graph base state guarded, Answered p m graph base state guarded ∧ s = guarded.reply.state

/-- Nothing was written, or the state of the reply, which finds the same lead. -/
def Mark.Holds (p : Processor ε) (m : Inbound) (guarded : Guarded) (k : Mark) : Prop :=
  k = .nothing ∨ ∃ s, k = .stored s ∧ RepliesWith p m s ∧ findLead s = findLead guarded.reply.state

/-- Nothing was written, or a reply to the message whose lead cannot be found. -/
def Mark.Spares (p : Processor ε) (m : Inbound) (f : Fault) (k : Mark) : Prop :=
  k = .nothing ∨ ∃ s, k = .stored s ∧ RepliesWith p m s ∧ findLead s = .error f

/-- One is in no queue, and wrote nothing but a reply whose lead cannot be found. -/
structure Footing.IsClear (p : Processor ε) (m : Inbound) (f : Fault) (n : Footing) : Prop where
  stand : n.stand = .outside ∨ ∃ t, n.stand = .left t
  mark : n.mark.Spares p m f

theorem Footing.clear_fresh : Footing.fresh.IsClear p m f := ⟨.inl rfl, .inl rfl⟩

/-- How a message may end. -/
def Clear (p : Processor ε) (m : Inbound) {α : Type} (n : Footing) : Except Fault α → Prop
  | .ok _ => True
  | .error f => n.IsClear p m f

section Message

omit [Clocked ε] in
theorem findLead_adopt (saved : Storage.Saved) (s : State) :
    findLead (saved.adopt s) = findLead s := by
  unfold Storage.Saved.adopt
  split <;> rfl

/-- Stage visits are claimed and passed on without fail, or the lead cannot be found. -/
theorem leads_due (guarded : Guarded) :
    (footwork name).Leads (fun n => (∃ t, n.stand = .left t) ∧ n.mark.Holds p m guarded)
      (schedule guarded : Action (World ε) Unit) (Clear p m) := by
  have hclaim : (footwork name).Leads
      (fun n => (∃ t, n.stand = .left t) ∧ n.mark.Holds p m guarded)
      (Action.tryPart (fun l : Stages.Ledger =>
        Stages.passOn l guarded.reply.state guarded.reply.stages) : Action (World ε) _)
      (Clear p m) := by
    refine Pact.leads_tryPart fun n w hn hw => ?_
    unfold Stages.passOn
    cases hlead : findLead guarded.reply.state with
    | ok lead => exact ⟨_, .write hw rfl, trivial⟩
    | error f =>
      refine ⟨n, .still (.refl w), .inr hn.1, hn.2.imp_right fun ⟨s, hs, hreplies, hsame⟩ => ?_⟩
      exact ⟨s, hs, hreplies, hsame.trans hlead⟩
  refine hclaim.andThen (fun advances => ?_) fun _ _ h => h
  exact Pact.leads_ofState fun n w _ hw => ⟨_, .write hw rfl, trivial⟩

omit [Clocked ε] in
theorem leads_graph (templateId : String) :
    (footwork name).Leads (· = .fresh) (graphOf templateId : Action (World ε) FlowGraph)
      (Ending (· = .fresh) fun n _ => n = .fresh) := by
  have hidle : (graphOf templateId : Action (World ε) FlowGraph).Idle Still :=
    idle_graphOf (fun _ _ => .of_parts rfl rfl rfl rfl) templateId
  refine (Pact.leads_of_idle (ignores_footwork name) hidle).mono fun n o h => ?_
  cases o with
  | ok graph => exact h.1
  | error f => exact h.1

theorem leads_reload (attempt : Nat) :
    (footwork name).Leads (Footing.IsFree t) (load m attempt : Action (World ε) _)
      (Ending (Footing.IsFree t) fun n _ => n.IsFree t) := by
  refine leads_load_of (J := fun _ => Footing.IsFree t) (ignores_footwork name) (fun _ _ _ hn => hn)
    (fun now => Pact.leads_tryPart fun n w hn _ => ⟨n, .still (.load now m.key w), ?_⟩) attempt
  cases (Store.load now m.key (Holds.part w)).1 <;> exact hn

omit [Clocked ε] in
/-- What is tried is a save, and it has stored the state exactly if it is answered so. -/
theorem leads_offer (s : State) (expected : Int) :
    (footwork name).Leads (Footing.IsFree t) (Action.tryPart (Store.save s expected) :
        Action (World ε) _)
      (Ending (Footing.IsFree t) fun n saved =>
        if saved.ok then n.stand = .inside t ∧ n.mark = .stored s else n.IsFree t) := by
  refine Pact.leads_tryPart fun n w hn hw => ?_
  by_cases hstored : ∃ saved, (w.store.save s expected).1 = .ok saved ∧ saved.ok = true
  · obtain ⟨saved, hsaved, hok⟩ := hstored
    refine ⟨{ n with mark := .stored s }, .save hn.2 ⟨expected, saved, hsaved, hok, rfl⟩, ?_⟩
    rw [show (Store.save s expected (Holds.part w)).1 = _ from hsaved]
    dsimp only [Ending]
    rw [if_pos hok]
    exact ⟨hn.1, rfl⟩
  · have hno (saved) (h : (w.store.save s expected).1 = .ok saved) : saved.ok = false :=
      Bool.eq_false_iff.mpr fun hok => hstored ⟨saved, h, hok⟩
    refine ⟨n, .still ⟨⟨Storage.contents_save hw hno, rfl, rfl⟩,
      fun _ => Storage.answers_save hw s expected, rfl⟩, ?_⟩
    cases hanswer : (w.store.save s expected).1 with
    | error f => exact hn
    | ok saved =>
      dsimp only [Ending]
      rw [if_neg (Bool.eq_false_iff.mp (hno saved hanswer))]
      exact hn

/-- With the lock in hand, a message that fails has written nothing. -/
theorem leads_tries (graph : FlowGraph) (start : Time.Seconds) :
    (footwork name).Leads (Footing.IsFree t) (tryRepeatedly p m graph start p.attempts.toNat 0)
      (Ending (Footing.IsFree t) fun n settled =>
        n.stand = .inside t ∧ n.mark.Holds p m settled.guarded) := by
  refine leads_tryRepeatedly (J := fun _ => Footing.IsFree t)
    (K := fun guarded n => n.stand = .inside t ∧ n.mark.Holds p m guarded) (ignores_footwork name)
    Still.load leads_reload (fun _ _ hn => hn) (fun _ _ _ hn => ⟨hn.1, .inl hn.2⟩)
    (fun {base state guarded} hanswered _ => ?_) start _ 0
  refine (leads_withRetry (ignores_footwork name) (leads_offer guarded.reply.state _) _).mono
    fun n o hn => ?_
  cases o with
  | error f => exact hn
  | ok saved =>
    dsimp only [Ending] at hn ⊢
    split_ifs at hn ⊢
    · refine ⟨hn.1, .inr ⟨_, hn.2, ⟨graph, base, state, guarded, hanswered, rfl⟩, ?_⟩⟩
      exact (findLead_adopt saved _).symm
    · exact hn

/-- What a message notes of itself is noted without fail. -/
theorem leads_noting {I : Footing → Prop} (graph : FlowGraph) (settled : Settled)
    (start : Time.Seconds) :
    (footwork name).Leads I
      (note m graph settled.decision (some settled.guarded) start : Action (World ε) Unit)
      (Ending (fun _ => False) fun n _ => I n) := by
  refine (Pact.leads_of_idle (ignores_footwork name) (idle_note m graph _ _ start)).mono
    fun n o h => ?_
  cases o with
  | ok a => exact h.1
  | error f => exact nomatch mayEnd_note h.2

/-- **A message that fails has written nothing**, or a reply whose lead cannot be found. -/
theorem leads_process_clear :
    (footwork m.lockName).Leads (· = .fresh) (process p m) (Clear p m) := by
  have hidle : (footwork m.lockName : Pact (World ε) Footing).Ignores Still := ignores_footwork _
  have hpassage : Session.Passage (footwork m.lockName : Pact (World ε) Footing)
      m.lockName (fun s n => n.stand = s) Footing.mark := passage_footwork _
  have hclear (n : Footing) (f : Fault) (hn : n = .fresh) : n.IsClear p m f :=
    hn ▸ Footing.clear_fresh
  refine Pact.leads_idle_andThen hidle idle_reading (fun start _ => ?_) hclear
  refine (leads_graph m.templateId).andThen (fun graph => ?_) hclear
  have hheld := hpassage.leads_whileHolding (J := (· = .nothing)) (E := (· = .nothing))
    (K := fun k (settled : Settled) => k.Holds p m settled.guarded) p.lockSpan
    (fun _ => leads_tries (p := p) (m := m) graph start) fun _ h => h
  refine (hheld.weaken fun n hn => ?_).andThen (fun settled => ?_) fun n f hn =>
    ⟨.inr hn.1, .inl hn.2⟩
  · rw [show n = .fresh from hn]
    exact ⟨rfl, rfl⟩
  refine (leads_noting graph settled start).andThen (fun _ => ?_) fun _ _ hn => hn.elim
  -- what is left can fail in one way only
  refine (leads_due settled.guarded).andThen (fun _ => ?_) fun _ _ hn => hn
  refine (Pact.leads_of_idle hidle idle_reading).andThen (fun now => ?_) fun n f h => ?_
  · exact Pact.leads_finished fun _ _ => trivial
  · obtain ⟨w, hfail⟩ := Action.mayEnd_look.mp h.2
    exact nomatch Action.mayEnd_result.mp hfail

end Message

/-! ### All errands -/

/-- The name of the lock that the errand needs, if it needs one. -/
def Errand.lockName : Errand → String
  | request r => r.name
  | register templateId _ => templateId

/-- How an errand may end. -/
def Clears (p : Processor ε) (e : Errand) (n : Footing) (o : Except Fault (Option Outcome)) : Prop :=
  ∀ m, e = .request (.message m) → Clear p m n o

theorem leads_reset_footwork :
    (footwork m.lockName).Leads (· = .fresh) (reset p m)
      (Ending (fun _ => True) fun _ _ => True) := by
  have hpassage : Session.Passage (footwork m.lockName : Pact (World ε) Footing)
      m.lockName (fun s n => n.stand = s) Footing.mark := passage_footwork _
  have hdelete (t : Ticket) : (footwork m.lockName).Leads
      (fun n => n.stand = .inside t ∧ True)
      (Recovery.withRetry "state_delete" (Action.tryPart (Store.delete m.key)) :
        Action (World ε) Bool)
      (Ending (fun n => n.stand = .inside t ∧ True) fun n _ => n.stand = .inside t ∧ True) := by
    refine leads_withRetry (ignores_footwork m.lockName) (Pact.leads_tryPart fun n w hn hw => ?_) _
    refine ⟨{ n with mark := .more }, .write (Storage.answers_delete hw m.key) rfl, ?_⟩
    cases (Store.delete m.key (Holds.part w)).1 <;> exact hn
  have hheld := hpassage.leads_whileHolding (J := fun _ => True) (E := fun _ => True)
    (K := fun _ _ => True) p.lockSpan hdelete fun _ h => h
  refine (hheld.weaken fun n hn => ?_).mono fun n o _ => ?_
  · rw [hn]
    exact ⟨rfl, trivial⟩
  · cases o <;> trivial

theorem leads_serve_footwork (e : Errand) :
    (footwork e.lockName).Leads (· = .fresh) (e.serve p) (Clears p e) := by
  cases e with
  | register templateId t =>
    have hidle : (Service.putTemplate templateId t : Action (World ε) Service.Response).Idle Still :=
      idle_putTemplate (fun _ _ => .of_parts rfl rfl rfl rfl) templateId t
    refine Pact.leads_idle_andThen (ignores_footwork templateId) hidle (fun _ _ => ?_)
      fun _ _ _ _ h => nomatch h
    exact Pact.leads_finished fun _ _ _ h => nomatch h
  | request r =>
    cases r with
    | message m =>
      refine leads_process_clear.andThen (fun outcome => ?_) fun n f hn m' hm => ?_
      · exact Pact.leads_finished fun _ _ _ _ => trivial
      · rwa [← Request.message.inj (Errand.request.inj hm)]
    | reset m =>
      refine leads_reset_footwork.andThen (fun _ => ?_) fun _ _ _ _ h =>
        nomatch Errand.request.inj h
      exact Pact.leads_finished fun _ _ _ h => nomatch Errand.request.inj h

/-! ### Runs -/

section Run

omit [Clocked ε]

/-- The ticket that was given out in a step, to someone who enters under the name. -/
def ticketOf (name : String) (v : Crew.Move (World ε)) : Option Ticket :=
  if v.after.locks.next = v.before.locks.next then none else some (v.before.locks.enter name).1

/-- The lock of each errand. -/
def lockNames (errands : List Errand) (i : Nat) : String :=
  ((errands[i]?).map Errand.lockName).getD ""

/-- No step of `i` touches anything. -/
def Spotless (trace : List (Crew.Move (World ε))) (i : Nat) : Prop :=
  ∀ v ∈ trace, v.job = i → Untouched v.before v.after

/-- One step of `i` stores this state, and no other step touches anything. -/
def StoresOnce (trace : List (Crew.Move (World ε))) (i : Nat) (s : State) : Prop :=
  ∃ early v late, trace = early ++ v :: late ∧ v.job = i ∧ Saves s v.before v.after ∧
    Spotless (early ++ late) i

/-- What the steps of `i` wrote. -/
def Wrote (trace : List (Crew.Move (World ε))) (i : Nat) : Mark → Prop
  | .nothing => Spotless trace i
  | .stored s => StoresOnce trace i s
  | .more => True

/-- What is known of all errands at any time. -/
structure Watched (errands : List Errand) (notes : List Footing)
    (trace : List (Crew.Move (World ε))) (w : World ε) : Prop where
  length : notes.length = errands.length
  answers : w.store.Answers
  attended : Attended (notes.map Footing.stand) w.locks
  wrote : ∀ (i : Nat) (n : Footing), notes[i]? = some n → Wrote trace i n.mark
  tickets : ∀ (i : Nat) (n : Footing) (t : Ticket), notes[i]? = some n →
    ∀ v ∈ trace, v.job = i → ticketOf (lockNames errands i) v = some t → n.stand.ticket? = some t

variable {errands : List Errand} {notes : List Footing} {trace : List (Crew.Move (World ε))}
  {w w' : World ε} {i j : Nat} {n n' : Footing} {e : Errand}

theorem Spotless.append (h : Spotless trace i) (hnew : i = j → Untouched w w') :
    Spotless (trace ++ Crew.record j w w') i := by
  intro v hv hjob
  rcases List.mem_append.mp hv with hv | hv
  · exact h v hv hjob
  · rw [List.mem_singleton.mp hv] at hjob ⊢
    exact hnew hjob.symm

/-- A step that touches nothing if it is one of `i`. -/
theorem Wrote.append {mark : Mark} (h : Wrote trace i mark) (hnew : i = j → Untouched w w') :
    Wrote (trace ++ Crew.record j w w') i mark := by
  cases mark with
  | nothing => exact Spotless.append h hnew
  | more => trivial
  | stored s =>
    obtain ⟨early, v, late, rfl, hjob, hsaves, hspotless⟩ := h
    refine ⟨early, v, late ++ Crew.record j w w', ?_, hjob, hsaves, ?_⟩
    · rw [List.append_assoc, List.cons_append]
    · rw [← List.append_assoc]
      exact hspotless.append hnew

/-- The first step that stores something. -/
theorem Wrote.save {s : State} (h : Wrote trace i .nothing) (hsaves : Saves s w w') :
    Wrote (trace ++ Crew.record i w w') i (.stored s) :=
  ⟨trace, ⟨i, w, w'⟩, [], rfl, rfl, hsaves, by rwa [List.append_nil]⟩

theorem watched_start (hanswers : w.store.Answers)
    (hissued : ∀ place, ∀ t ∈ (w.locks.lockAt place).queue, t.number < w.locks.next) :
    Watched errands (errands.map fun _ => .fresh) [] w := by
  have hfresh {i : Nat} {n : Footing} (hn : (errands.map fun _ => Footing.fresh)[i]? = some n) :
      n = .fresh := by
    obtain ⟨-, -, rfl⟩ := Option.map_eq_some_iff.mp ((List.getElem?_map ..).symm.trans hn)
    rfl
  refine ⟨List.length_map _, hanswers, Session.attended_outside (fun stand hstand => ?_) hissued,
    fun i n hn => ?_, fun _ _ _ _ _ h => absurd h List.not_mem_nil⟩
  · obtain ⟨n, hn, rfl⟩ := List.mem_map.mp hstand
    obtain ⟨e, -, rfl⟩ := List.mem_map.mp hn
    rfl
  · rw [hfresh hn]
    exact fun _ hv => absurd hv List.not_mem_nil

namespace Watched

variable (h : Watched errands notes trace w)
include h

theorem errandOf (hn : notes[i]? = some n) : ∃ e, errands[i]? = some e :=
  Crew.entry_of_note h.length hn

omit h in
theorem standOf (hn : notes[i]? = some n) : (notes.map Footing.stand)[i]? = some n.stand := by
  rw [List.getElem?_map, hn]
  rfl

/-- A step, given what it does to locks and note. -/
theorem next (hn : notes[i]? = some n) (hanswers : w'.store.Answers)
    (hattended : Attended ((notes.map Footing.stand).set i n'.stand) w'.locks)
    (hwrote : Wrote (trace ++ Crew.record i w w') i n'.mark)
    (hticket : ∀ t, n.stand.ticket? = some t → n'.stand.ticket? = some t)
    (hgiven : ∀ t, ticketOf (lockNames errands i) ⟨i, w, w'⟩ = some t →
      n'.stand.ticket? = some t) :
    Watched errands (notes.set i n') (trace ++ Crew.record i w w') w' := by
  refine ⟨(List.length_set ..).trans h.length, hanswers, ?_, fun j k hk => ?_,
    fun j k t hk v hv hjob ht => ?_⟩
  · rwa [List.map_set]
  · rcases Session.of_getElem?_set hk with ⟨rfl, rfl⟩ | ⟨hij, hk⟩
    · exact hwrote
    · exact (h.wrote j k hk).append fun hji => absurd hji.symm hij
  · rcases Session.of_getElem?_set hk with ⟨rfl, rfl⟩ | ⟨hij, hk⟩
    · rcases List.mem_append.mp hv with hv | hv
      · exact hticket t (h.tickets i n t hn v hv hjob ht)
      · rw [List.mem_singleton.mp hv] at ht
        exact hgiven t ht
    · rcases List.mem_append.mp hv with hv | hv
      · exact h.tickets j k t hk v hv hjob ht
      · rw [List.mem_singleton.mp hv] at hjob
        exact absurd hjob hij

/-- A step that leaves the locks alone. -/
theorem aside (hn : notes[i]? = some n) (hanswers : w'.store.Answers) (hlocks : w'.locks = w.locks)
    (hstand : n'.stand = n.stand) (hwrote : Wrote (trace ++ Crew.record i w w') i n'.mark) :
    Watched errands (notes.set i n') (trace ++ Crew.record i w w') w' := by
  refine h.next hn hanswers ?_ hwrote (fun t ht => hstand ▸ ht) fun t ht => ?_
  · have hsame : (notes.map Footing.stand).set i n.stand = notes.map Footing.stand := by
      obtain ⟨hlength, hget⟩ := List.getElem?_eq_some_iff.mp (standOf hn)
      rw [← hget, List.set_getElem_self]
    rw [hstand, hsame, hlocks]
    exact h.attended
  · unfold ticketOf at ht
    rw [hlocks, if_pos rfl] at ht
    exact nomatch ht

/-- A step that touches nothing but the locks. -/
theorem through {locks : Locks} {stand : Stand} (hn : notes[i]? = some n)
    (hattended : Attended ((notes.map Footing.stand).set i stand) locks)
    (hticket : ∀ t, n.stand.ticket? = some t → stand.ticket? = some t)
    (hgiven : ∀ t, ticketOf (lockNames errands i) ⟨i, w, { w with locks := locks }⟩ = some t →
      stand.ticket? = some t) :
    Watched errands (notes.set i { n with stand := stand })
      (trace ++ Crew.record i w { w with locks := locks }) { w with locks := locks } :=
  h.next hn h.answers hattended ((h.wrote i n hn).append fun _ => ⟨rfl, rfl, rfl⟩) hticket hgiven

/-- **Every step of an errand is watched.** -/
theorem step (he : errands[i]? = some e) (hn : notes[i]? = some n)
    (ht : Tread e.lockName n w n' w') :
    Watched errands (notes.set i n') (trace ++ Crew.record i w w') w' := by
  have hname : e.lockName = lockNames errands i := by
    unfold lockNames
    rw [he]
    rfl
  rw [hname] at ht
  have hstand := standOf hn
  have hwrote := h.wrote i n hn
  have hnone {locks : Locks} {t : Ticket} {stand : Stand} (hnext : locks.next = w.locks.next)
      (hgiven : ticketOf (lockNames errands i) ⟨i, w, { w with locks := locks }⟩ = some t) :
      stand.ticket? = some t := by
    unfold ticketOf at hgiven
    rw [if_pos hnext] at hgiven
    exact nomatch hgiven
  cases ht with
  | still hstill =>
    exact h.aside hn (hstill.answers h.answers) hstill.locks rfl
      (hwrote.append fun _ => hstill.toUntouched)
  | save hmark hsaves =>
    obtain ⟨expected, saved, hsaved, hok, rfl⟩ := hsaves
    rw [hmark] at hwrote
    exact h.aside hn (Storage.answers_save h.answers _ expected) rfl rfl
      (hwrote.save ⟨expected, saved, hsaved, hok, rfl⟩)
  | write hanswers hlocks => exact h.aside hn hanswers hlocks rfl trivial
  | enter houtside =>
    refine h.through hn (h.attended.enter (houtside ▸ hstand) _) (fun t ht => ?_) fun t ht => ?_
    · rw [houtside] at ht
      exact nomatch ht
    · have hnew : (w.locks.enter (lockNames errands i)).2.next ≠ w.locks.next := Nat.succ_ne_self _
      unfold ticketOf at ht
      rwa [if_neg hnew] at ht
  | ask hentered =>
    refine h.through hn (h.attended.ask (hentered ▸ hstand)) (fun t ht => ?_) fun _ => hnone rfl
    rw [hentered] at ht
    exact ht
  | grasp hline =>
    refine h.through hn (h.attended.grasp (hline ▸ hstand)) (fun t ht => ?_) fun _ => hnone rfl
    rw [hline] at ht
    exact ht
  | leave hpresent =>
    refine h.through hn (h.attended.leave hstand hpresent) (fun t ht => ?_) fun _ =>
      hnone Session.Locks.next_leave
    rw [hpresent.ticket] at ht
    exact ht

/-- Others leave the locks alone. -/
theorem others (hanswers : w'.store.Answers) (hlocks : w'.locks = w.locks) :
    Watched errands notes trace w' :=
  ⟨h.length, hanswers, hlocks ▸ h.attended, h.wrote, h.tickets⟩

end Watched

/-- Others leave the locks alone, and cut off no answers. -/
def Aside (w w' : World ε) : Prop :=
  (w.store.Answers → w'.store.Answers) ∧ w'.locks = w.locks

variable [Clocked ε] {start : World ε} {c : Crew (World ε) (World ε) (Option Outcome)}

/-- **A message that fails leaves nothing behind**, whatever it fails with, and whatever else is going
on: other messages, resets, registrations of templates, and others who leave the locks alone.  None
of its steps changed what is stored, which visits the ledger knows, or which advances are scheduled;
or one of them stored a reply to the message whose lead cannot be found, which is what it fails with,
and the others changed nothing.  And the ticket that it got, if it got one, is in the queue of no
lock, so that it neither holds nor awaits any.  The store is of either kind and may fail at any time;
but no answers are lost, so that a save that fails has not stored anything. -/
theorem untouched_of_failed (hanswers : start.store.Answers)
    (hissued : ∀ place, ∀ t ∈ (start.locks.lockAt place).queue, t.number < start.locks.next)
    (hrun : Crew.Run Places.whole Aside Crew.record ⟨start, errands.map (·.serve p)⟩ trace c)
    (he : errands[i]? = some (.request (.message m))) {f : Fault}
    (hx : c.tasks[i]? = some (.finished (.error f))) :
    (Spotless trace i ∨ ∃ s, RepliesWith p m s ∧ findLead s = .error f ∧ StoresOnce trace i s) ∧
      ∀ v ∈ trace, v.job = i → ∀ t, ticketOf m.lockName v = some t →
        ∀ place, t ∉ (c.world.locks.lockAt place).queue := by
  have hready : Crew.Aligned (Crew.pactsOf errands fun e : Errand => footwork e.lockName)
      (Crew.endsOf errands (Clears p)) (errands.map fun _ => .fresh) (errands.map (·.serve p)) :=
    Crew.aligned_map fun e _ => leads_serve_footwork e .fresh rfl
  have hkept : ∃ notes, Watched errands notes trace c.world ∧
      Crew.Aligned (Crew.pactsOf errands fun e : Errand => footwork e.lockName)
        (Crew.endsOf errands (Clears p)) notes c.tasks := by
    refine Crew.keeps (watched_start hanswers hissued) hready (fun h hn => ?_) (fun h hn hm => ?_)
      (fun h hothers => h.others (hothers.1 h.answers) hothers.2) hrun
    · obtain ⟨e, he⟩ := h.errandOf hn
      rw [Crew.pactsOf_eq he]
      exact h.answers
    · obtain ⟨e, he⟩ := h.errandOf hn
      rw [Crew.pactsOf_eq he] at hm
      exact h.step he hn hm
  obtain ⟨notes, hwatched, haligned⟩ := hkept
  obtain ⟨n, hn, hended⟩ := haligned i _ hx
  have hclear : n.IsClear p m f := hended _ he m rfl
  have hwrote := hwatched.wrote i n hn
  refine ⟨?_, fun v hv hjob t ht place => ?_⟩
  · rcases hclear.mark with hnothing | ⟨s, hstored, hreplies, hlead⟩
    · rw [hnothing] at hwrote
      exact .inl hwrote
    · rw [hstored] at hwrote
      exact .inr ⟨s, hreplies, hlead, hwrote⟩
  · have hname : m.lockName = lockNames errands i := by
      unfold lockNames
      rw [he]
      rfl
    have hticket := hwatched.tickets i n t hn v hv hjob (hname ▸ ht)
    have hgone := Watched.standOf hn
    rcases hclear.stand with houtside | ⟨t', hleft⟩
    · rw [houtside] at hticket
      exact nomatch hticket
    · rw [hleft] at hticket
      rw [hleft, Option.some.inj hticket] at hgone
      exact hwatched.attended.gone hgone place

end Run

/-! ### Messages that fail -/

section Greetings

/-- The next three saves fail. -/
def shakySite : World Time.Clock :=
  { greetingSite with
    store := { greetingSite.store with outage := { Storage.Outage.none with save := 3 } } }

/-- The same message comes twice. -/
def greetingTwice : List Errand := [.request (.message hello), .request (.message hello)]

/-- The second message waits in line behind the first one, and gives up; the first one cannot store
its reply. -/
def shakyRun : List (Crew.Move (World Time.Clock)) ×
    Crew (World Time.Clock) (World Time.Clock) (Option Outcome) :=
  (Crew.mk shakySite (greetingTwice.map (·.serve greeter))).drive Places.whole Crew.record
    ((List.replicate 20 [0, 1]).flatten ++ List.replicate 60 0)

/-- Two messages fail, one with the lock in hand and one in line. -/
theorem untouched_of_failed_greetings : ∃ trace c,
    Crew.Run Places.whole Aside Crew.record
      ⟨shakySite, greetingTwice.map (·.serve greeter)⟩ trace c ∧
    c.tasks.map Action.fault? = [
      some (Recovery.exhaustedFault "state_save" 3
        (some (.storePersistence "save" "acme:ann:1" "injected"))),
      some (Session.busy "acme:ann:1")] ∧
    trace.filterMap (fun v => (ticketOf "acme:ann:1" v).map fun t => (v.job, t)) =
      [(0, ⟨0, "acme:ann:1", 0⟩), (1, ⟨1, "acme:ann:1", 0⟩)] ∧
    ∀ i, i < 2 →
      Spotless trace i ∧ ∀ v ∈ trace, v.job = i → ∀ t, ticketOf "acme:ann:1" v = some t →
        ∀ place, t ∉ (c.world.locks.lockAt place).queue := by
  have hrun : Crew.Run Places.whole Aside Crew.record
      ⟨shakySite, greetingTwice.map (·.serve greeter)⟩ shakyRun.1 shakyRun.2 := Crew.run_drive _
  have hfaults : shakyRun.2.tasks.map Action.fault? = [
      some (Recovery.exhaustedFault "state_save" 3
        (some (.storePersistence "save" "acme:ann:1" "injected"))),
      some (Session.busy "acme:ann:1")] := by decide +kernel
  refine ⟨_, _, hrun, hfaults, by decide +kernel, fun i hi => ?_⟩
  have hfault : ∃ f, (shakyRun.2.tasks.map Action.fault?)[i]? = some (some f) ∧
      f.isLimit = false := by
    rw [hfaults]
    rcases Nat.le_one_iff_eq_zero_or_eq_one.mp (Nat.le_of_lt_succ hi) with rfl | rfl
    · exact ⟨_, rfl, rfl⟩
    · exact ⟨_, rfl, rfl⟩
  have he : greetingTwice[i]? = some (.request (.message hello)) := by
    rcases Nat.le_one_iff_eq_zero_or_eq_one.mp (Nat.le_of_lt_succ hi) with rfl | rfl <;> rfl
  obtain ⟨f, hf, hlimit⟩ := hfault
  rw [List.getElem?_map] at hf
  obtain ⟨x, hx, hf⟩ := Option.map_eq_some_iff.mp hf
  rw [Action.eq_of_fault? hf] at hx
  obtain ⟨hspotless | ⟨s, -, hlead, -⟩, hgone⟩ :=
    untouched_of_failed (show shakySite.store.Answers from rfl)
      (fun _ _ ht => absurd ht List.not_mem_nil) hrun he hx
  · exact ⟨hspotless, hgone⟩
  · exact nomatch hlimit.symm.trans (Stages.isLimit_of_findLead hlead)

/-- **A message that fails when its state is stored already**: the lead that it names has too many
digits. -/
theorem stored_of_failed :
    let (answer, w) := (process greeter climb).run towerSite
    answer.map (·.state.version) = .error (.tooLong none) ∧
      Storage.inMemory towerSite.store climb.lockName = none ∧
      (Storage.inMemory w.store climb.lockName).map (·.version) = some 1 := by
  decide +kernel

end Greetings

end Parley.Turn
