import Parley.Proofs.Turn.Tidy

/-!
# Parley.Proofs.Turn.Advances — each stage visit that is stored is passed on once

Messages and resets of any sessions take turns at one service.  The ledger knows the visits that
were claimed, and what was passed on are the visits of messages that are done (`Paid`).
`advances_of_run`: in every run, each stage visit that was stored leads to one advance, at the
latest when all requests are over, and nothing else leads to any; but those of a state that names a
lead which cannot be shown lead to none.
-/

namespace Parley.Turn

open Conversation (Interpreter State)
open Recovery (Guarded)
open Stages (VisitKey advanceOf findLead)
open Storage (Store Swapping)
open Template (FlowGraph)
open Time (Clocked)

variable {ε : Type} {fair : State → Prop} {sound : Store → Prop} {held : Store → String → Option State}
  {served : String → Except Fault FlowGraph} {requests : List Request} {start w w' : World ε}
  {notes : List Note} {log : List Entry} {i : Nat} {r : Request} {m : Inbound} {n n' : Note}

/-! ### The ledger and the advances -/

/-- The ledger knows the visits that were claimed, and those of the requests that passed theirs on
were scheduled. -/
structure Paid (start : World ε) (notes : List Note) (w : World ε) : Prop where
  room : w.ledger.maxEntries = start.ledger.maxEntries
  known : w.ledger.entries.Perm ((notes.flatMap Note.claimed).map Visit.key)
  claimed : ∀ (i : Nat) (n : Note) (advances : List Stages.Advance), notes[i]? = some n →
    n.dues = .claimed advances → advances = n.work.visits.map Visit.advance
  found : ∀ (i : Nat) (n : Note) (base : Option State) (guarded : Guarded), notes[i]? = some n →
    n.dues ≠ .unclaimed → n.work = .stored base guarded →
    ∃ lead, findLead guarded.reply.state = .ok lead
  passed : ∃ made : List Visit, w.advances = start.advances ++ made.map Visit.advance ∧
    made.Perm (notes.flatMap Note.passed)

theorem paid_start (hledger : start.ledger.entries = []) :
    Paid start (requests.map fun _ => .fresh) start := by
  have hclaimed : (requests.map fun _ => Note.fresh).flatMap Note.claimed = [] := by
    simp [Note.fresh, Note.claimed]
  have hpassed : (requests.map fun _ => Note.fresh).flatMap Note.passed = [] := by
    simp [Note.fresh, Note.passed]
  refine ⟨rfl, ?_, fun i n advances hn hdues => ?_, fun i n base guarded hn hdues _ => ?_, [],
    (List.append_nil _).symm, ?_⟩
  · rw [hledger, hclaimed]
    exact List.Perm.refl _
  · obtain ⟨r, -, rfl⟩ := List.mem_map.mp (List.mem_of_getElem? hn)
    cases hdues
  · obtain ⟨r, -, rfl⟩ := List.mem_map.mp (List.mem_of_getElem? hn)
    exact absurd rfl hdues
  · rw [hpassed]

namespace Paid

/-- A step that claims nothing and passes nothing on. -/
theorem still (h : Paid start notes w) (hn : notes[i]? = some n) (hdues : n'.dues = n.dues)
    (hwork : n'.work = n.work ∨ n.dues = .unclaimed)
    (hledger : w'.ledger = w.ledger) (hadvances : w'.advances = w.advances) :
    Paid start (notes.set i n') w' := by
  have hclaimed : n'.claimed = n.claimed := by
    unfold Note.claimed
    rw [hdues]
    rcases hwork with hwork | hunclaimed
    · rw [hwork]
    · rw [hunclaimed]
  have hpassed : n'.passed = n.passed := by
    unfold Note.passed
    rw [hdues]
    rcases hwork with hwork | hunclaimed
    · rw [hwork]
    · rw [hunclaimed]
  obtain ⟨made, hmade, hperm⟩ := h.passed
  refine ⟨by rw [hledger, h.room], ?_, fun j g advances hj hg => ?_,
    fun j g base guarded hj hg hstored => ?_, made, ?_, ?_⟩
  · rw [hledger]
    exact h.known.trans ((flatMap_set_of_eq hn hclaimed).map _).symm
  · rcases Session.of_getElem?_set hj with ⟨rfl, rfl⟩ | ⟨-, hj⟩
    · rw [hdues] at hg
      rcases hwork with hwork | hunclaimed
      · rw [hwork]
        exact h.claimed i n advances hn hg
      · exact nomatch hunclaimed.symm.trans hg
    · exact h.claimed j g advances hj hg
  · rcases Session.of_getElem?_set hj with ⟨rfl, rfl⟩ | ⟨-, hj⟩
    · rw [hdues] at hg
      rcases hwork with hwork | hunclaimed
      · exact h.found i n base guarded hn hg (hwork.symm.trans hstored)
      · exact absurd hunclaimed hg
    · exact h.found j g base guarded hj hg hstored
  · rw [hadvances, hmade]
  · exact hperm.trans (flatMap_set_of_eq hn hpassed).symm

/-- Visits that nobody claimed are claimed. -/
theorem claim (h : Paid start notes w) (hn : notes[i]? = some n) (hdues : n.dues = .unclaimed)
    {guarded : Guarded}
    (hvisits : guarded.reply.stages.map (visitOf guarded.reply.state) = n.work.visits)
    (hfound : ∀ base stored, n.work = .stored base stored →
      ∃ lead, findLead stored.reply.state = .ok lead)
    (hnew : ((notes.flatMap Note.claimed ++ n.work.visits).map Visit.key).Nodup)
    (hroom : (notes.flatMap Note.claimed ++ n.work.visits).length ≤ start.ledger.maxEntries) :
    Paid start (notes.set i { n with dues := .claimed (claims guarded w.ledger).1 })
      { w with ledger := (claims guarded w.ledger).2 } := by
  have hkeys : guarded.reply.stages.map (VisitKey.of guarded.reply.state) =
      n.work.visits.map Visit.key := by
    rw [← hvisits, List.map_map]
    rfl
  have hadvances : guarded.reply.stages.map (advanceOf guarded.reply.state) =
      n.work.visits.map Visit.advance := by
    rw [← hvisits, List.map_map]
    rfl
  have hentries : (w.ledger.entries ++ n.work.visits.map Visit.key).Perm
      ((notes.flatMap Note.claimed ++ n.work.visits).map Visit.key) := by
    rw [List.map_append]
    exact h.known.append_right _
  have hclaims : claims guarded w.ledger = (n.work.visits.map Visit.advance,
      { w.ledger with entries := w.ledger.entries ++ n.work.visits.map Visit.key }) := by
    unfold claims
    rw [Stages.dispatch_eq, hkeys, hadvances]
    · rw [hkeys]
      exact hentries.nodup_iff.mpr hnew
    · rw [hkeys, hentries.length_eq, List.length_map, h.room]
      exact hroom
  have hnone : n.claimed = [] ∧ n.passed = [] := by
    unfold Note.claimed Note.passed
    rw [hdues]
    exact ⟨rfl, rfl⟩
  have hclaimed (advances : List Stages.Advance) :
      ((notes.set i { n with dues := .claimed advances }).flatMap Note.claimed).Perm
        (notes.flatMap Note.claimed ++ n.work.visits) := flatMap_set_of_nil hn hnone.1
  obtain ⟨made, hmade, hperm⟩ := h.passed
  rw [hclaims]
  refine ⟨h.room, hentries.trans ((hclaimed _).map _).symm,
    fun j g advances hj hg => ?_, fun j g base stored hj hg hstored => ?_, made, hmade, ?_⟩
  · rcases Session.of_getElem?_set hj with ⟨rfl, rfl⟩ | ⟨-, hj⟩
    · exact (Dues.claimed.inj hg).symm
    · exact h.claimed j g advances hj hg
  · rcases Session.of_getElem?_set hj with ⟨rfl, rfl⟩ | ⟨-, hj⟩
    · exact hfound base stored hstored
    · exact h.found j g base stored hj hg hstored
  · exact hperm.trans (flatMap_set_of_eq hn hnone.2.symm).symm

/-- Advances of claimed visits are passed on. -/
theorem pass (h : Paid start notes w) (hn : notes[i]? = some n) {advances : List Stages.Advance}
    (hdues : n.dues = .claimed advances) : Paid start (notes.set i { n with dues := .passed })
      { w with advances := w.advances ++ advances } := by
  have hadvances := h.claimed i n advances hn hdues
  have hclaimed : n.claimed = n.work.visits := by
    unfold Note.claimed
    rw [hdues]
  have hnone : n.passed = [] := by
    unfold Note.passed
    rw [hdues]
  have hpassed : ((notes.set i { n with dues := .passed }).flatMap Note.passed).Perm
      (notes.flatMap Note.passed ++ n.work.visits) := flatMap_set_of_nil hn hnone
  obtain ⟨made, hmade, hperm⟩ := h.passed
  refine ⟨h.room, h.known.trans ((flatMap_set_of_eq hn hclaimed.symm).map _).symm,
    fun j g advances' hj hg => ?_, fun j g base guarded hj hg hstored => ?_,
    made ++ n.work.visits, ?_, ?_⟩
  · rcases Session.of_getElem?_set hj with ⟨-, rfl⟩ | ⟨-, hj⟩
    · exact nomatch hg
    · exact h.claimed j g advances' hj hg
  · rcases Session.of_getElem?_set hj with ⟨rfl, rfl⟩ | ⟨-, hj⟩
    · exact h.found i n base guarded hn (by rw [hdues]; exact nofun) hstored
    · exact h.found j g base guarded hj hg hstored
  · rw [List.map_append, ← List.append_assoc, ← hmade, hadvances]
  · exact (hperm.append_right _).trans hpassed.symm

section Step

variable [Clocked ε] {p : Processor ε} {interpreter : Interpreter}
  (hb : p.guard.manager.baseline = Engine.baseline interpreter) (hwalks : GuardsWalks p.guard)
  (hclosed : ∀ templateId graph, served templateId = .ok graph → graph.Closed)
include hb hwalks hclosed

/-- What a message that has its reply claims, are the visits of what it stored. -/
theorem visits_of_finished {graph : FlowGraph} (hserved : served m.templateId = .ok graph)
    {work : Work} {guarded : Guarded} (h : Finished p m graph work guarded) :
    guarded.reply.stages.map (visitOf guarded.reply.state) = work.visits := by
  cases h with
  | stored => rfl
  | idle hanswered hcompleted =>
    have hg := hclosed m.templateId graph hserved
    rw [stages_of_completed hb hg hwalks hanswered hcompleted]
    rfl

/-- **Every step of a request keeps ledger and advances in order.** -/
theorem step (h : Paid start notes w)
    (htidy : Tidy sound held served requests start notes log w) (hnamed : Named (held start.store))
    (hapart : Apart (graphFor served requests) (held start.store) log)
    (hroom : (persisted (graphFor served requests) log).length ≤ start.ledger.maxEntries)
    (hn : notes[i]? = some n) (hstep : Step sound held served p r n w n' w') :
    Paid start (notes.set i n') w' := by
  cases hstep with
  | idle halike => exact h.still hn rfl (.inl rfl) halike.ledger halike.advances
  | enter _ | ask _ | grasp _ _ | leave _ | drop _ _ _ _ => exact h.still hn rfl (.inl rfl) rfl rfl
  | load _ _ hdues halike => exact h.still hn rfl (.inr hdues) halike.ledger halike.advances
  | store _ _ hdues _ _ _ _ _ _ _ => exact h.still hn rfl (.inr hdues) rfl rfl
  | claim hserved hfinished _ hdues hlead =>
    obtain ⟨hnew, hfits⟩ := htidy.unclaimed hnamed hapart hroom hn hdues
    refine h.claim hn hdues (visits_of_finished hb hwalks hclosed hserved hfinished)
      (fun base stored hstored => ?_) hnew hfits
    rw [hstored] at hfinished
    cases hfinished
    exact ⟨_, hlead⟩
  | pass hdues => exact h.pass hn hdues

end Step

end Paid

/-! ### Runs -/

/-- All is in order, and the ledger as long as it has room. -/
structure InOrder (sound : Store → Prop) (held : Store → String → Option State)
    (served : String → Except Fault FlowGraph) (requests : List Request) (start : World ε)
    (notes : List Note) (log : List Entry) (w : World ε) : Prop where
  tidy : Tidy sound held served requests start notes log w
  paid : Apart (graphFor served requests) (held start.store) log →
    (persisted (graphFor served requests) log).length ≤ start.ledger.maxEntries →
    Paid start notes w

/-- Others change nothing of importance. -/
theorem InOrder.others (h : InOrder sound held served requests start notes log w)
    (halike : Alike sound held w w') :
    InOrder sound held served requests start notes log w' := by
  obtain ⟨hsound, hheld⟩ := halike.store h.tidy.sound
  refine ⟨⟨h.tidy.length, hsound, halike.registry.trans h.tidy.serves, ?_, ?_, ?_, h.tidy.told,
    h.tidy.accounts, h.tidy.whole⟩, fun hapart hroom => ?_⟩
  · rw [halike.locks]
    exact h.tidy.orderly
  · rw [hheld]
    exact h.tidy.story
  · rw [hheld]
    exact h.tidy.guards
  · obtain ⟨hcapacity, hknown, hclaimed, hfound, hpassed⟩ := h.paid hapart hroom
    refine ⟨?_, ?_, hclaimed, hfound, ?_⟩
    · rw [halike.ledger, hcapacity]
    · rw [halike.ledger]
      exact hknown
    · rw [halike.advances]
      exact hpassed

/-- A visit that was passed on was stored, with a lead that can be shown. -/
theorem entry_of_passed (htidy : Tidy sound held served requests start notes log w)
    (hpaid : Paid start notes w) {v : Visit} (hv : v ∈ notes.flatMap Note.passed) :
    ∃ e ∈ log, findLead e.after = .ok v.advance.leadId ∧
      ∃ graph, graphFor served requests e.job = some graph ∧ v ∈ e.visits graph := by
  obtain ⟨n, hmem, hv⟩ := List.mem_flatMap.mp hv
  obtain ⟨i, hn⟩ := List.getElem?_of_mem hmem
  have hvisit : v ∈ n.work.visits := n.passed_append_owed ▸ List.mem_append_left _ hv
  have hdues : n.dues ≠ .unclaimed := by
    intro hunclaimed
    unfold Note.passed at hv
    rw [hunclaimed] at hv
    exact absurd hv List.not_mem_nil
  obtain ⟨base, guarded, hwork, hlog, hstage, hgraph⟩ := htidy.entry_of_visit hn hvisit
  obtain ⟨lead, hlead⟩ := hpaid.found i n base guarded hn hdues hwork
  refine ⟨_, hlog, ?_, hgraph⟩
  obtain ⟨t, -, rfl⟩ := List.mem_map.mp hstage
  exact hlead.trans (congrArg Except.ok (Stages.findLead_eq_ok.mp hlead).2)

section Run

variable [Clocked ε] {p : Processor ε} {c : Crew (World ε) (World ε) (Option Outcome)}

/-- A request that is over owes nothing, but for a lead that cannot be shown. -/
theorem owed_of_ended {o : Except Fault (Option Outcome)} (h : Served served p r n o) :
    n.owed = [] ∨ ∃ f, o = .error f ∧ ∀ base guarded, n.work = .stored base guarded →
      findLead guarded.reply.state = .error f := by
  have hspared (hs : Spared n) : n.owed = [] := by
    unfold Note.owed
    rw [hs.dues]
    exact hs.work.visits
  cases r with
  | reset m =>
    rw [Served] at h
    exact .inl (hspared h)
  | message m =>
    cases o with
    | ok outcome? =>
      cases outcome? with
      | none => exact h.elim
      | some outcome =>
        refine .inl ?_
        unfold Note.owed
        rw [Processed.dues h]
    | error f =>
      rcases h with hs | hunsent
      · exact .inl (hspared hs)
      · obtain ⟨_, guarded, -, hfinished, hlead⟩ := hunsent.work
        refine .inr ⟨f, rfl, fun base stored hstored => ?_⟩
        rw [hstored] at hfinished
        cases hfinished
        exact hlead

theorem InOrder.step {interpreter : Interpreter}
    (hb : p.guard.manager.baseline = Engine.baseline interpreter) (hwalks : GuardsWalks p.guard)
    (hclosed : ∀ templateId graph, served templateId = .ok graph → graph.Closed)
    (hnamed : Named (held start.store))
    (h : InOrder sound held served requests start notes log w) (hn : notes[i]? = some n)
    (hr : requests[i]? = some r) (hstep : Step sound held served p r n w n' w') :
    InOrder sound held served requests start (notes.set i n')
      (log ++ entries held (nameOf requests i) i w.store w'.store) w' := by
  refine ⟨h.tidy.step hb hwalks hclosed hnamed hn hr hstep, fun hapart hroom => ?_⟩
  have hbefore : (persisted (graphFor served requests) log).length ≤ start.ledger.maxEntries := by
    unfold persisted at hroom ⊢
    rw [List.flatMap_append, List.length_append] at hroom
    omega
  have hpaid := h.paid hapart.of_append hbefore
  exact hpaid.step hb hwalks hclosed h.tidy hnamed hapart.of_append hbefore hn hstep

/-- A visit that is owed was stored, by a request that is not over yet, or has failed for its lead. -/
theorem entry_of_owed (htidy : Tidy sound held served requests start notes log w)
    (haligned : Crew.Aligned (Crew.pactsOf requests (conduct sound held served p))
      (Crew.endsOf requests (Served served p)) notes c.tasks)
    (hlength : c.tasks.length = requests.length) {v : Visit}
    (hv : v ∈ notes.flatMap Note.owed) :
    ∃ e ∈ log, (∃ x, c.tasks[e.job]? = some x ∧
        (x.isOver = false ∨ ∃ f, x = .finished (.error f) ∧ findLead e.after = .error f)) ∧
      ∃ graph, graphFor served requests e.job = some graph ∧ v ∈ e.visits graph := by
  obtain ⟨n, hmem, hv⟩ := List.mem_flatMap.mp hv
  obtain ⟨i, hn⟩ := List.getElem?_of_mem hmem
  have hvisit : v ∈ n.work.visits := n.passed_append_owed ▸ List.mem_append_right _ hv
  obtain ⟨base, guarded, hwork, hlog, -, hgraph⟩ := htidy.entry_of_visit hn hvisit
  refine ⟨_, hlog, ?_, hgraph⟩
  obtain ⟨r, hr⟩ := htidy.requestOf hn
  have hi : i < c.tasks.length := hlength ▸ (List.getElem?_eq_some_iff.mp hr).1
  have htask := List.getElem?_eq_getElem hi
  refine ⟨c.tasks[i], htask, ?_⟩
  obtain ⟨n', hn', hx⟩ := haligned i _ htask
  rw [hn] at hn'
  rw [← Option.some.inj hn'] at hx
  cases hx' : c.tasks[i] with
  | finished o =>
    rw [hx'] at hx
    rcases owed_of_ended (hx r hr) with hnone | ⟨f, rfl, hlead⟩
    · rw [hnone] at hv
      exact absurd hv List.not_mem_nil
    · exact .inr ⟨f, rfl, hlead base guarded hwork⟩
  | look _ | put _ _ | pause _ _ => exact .inl rfl

/-- **Each stage visit that is stored is passed on once**, whatever requests come to a service for
whatever sessions, and whatever turns they take.  The conversations of a session start at different
times, and the ledger has room for all visits.  Then no place of a conversation is visited twice by
what is stored; the advances that were scheduled are those of visits that were stored with a lead that
can be shown, each of them once; and visits that were not passed on so far are of requests that are
not over yet, or that failed because the lead cannot be shown.  The store may be that of a process, or
a server if the templates are whole (`swapping_whole`, `preserves_whole`). -/
theorem advances_of_run (hstore : Swapping fair sound held) {interpreter : Interpreter}
    (hb : p.guard.manager.baseline = Engine.baseline interpreter) (hwalks : GuardsWalks p.guard)
    (hfresh : ∀ r ∈ requests, r.inbound.prior = none)
    (hpreserves : ∀ r ∈ requests, ∀ graph,
      start.registry.serves r.inbound.templateId = .ok graph → Preserves fair p r.inbound graph)
    (hclosed : start.registry.Closed)
    (hsound : sound start.store) (hnamed : Named (held start.store))
    (hledger : start.ledger.entries = [])
    (hrun : Crew.Run Places.whole (Alike sound held)
      (fun i w w' => entries held (nameOf requests i) i w.store w'.store)
      ⟨start, requests.map (·.serve p)⟩ log c)
    (hapart : Apart (graphFor start.registry.serves requests) (held start.store) log)
    (hroom : (persisted (graphFor start.registry.serves requests) log).length ≤
      start.ledger.maxEntries) :
    ((persisted (graphFor start.registry.serves requests) log).map Visit.spot).Nodup ∧
      ∃ made owed : List Visit,
        c.world.advances = start.advances ++ made.map Visit.advance ∧
        (made ++ owed).Perm (persisted (graphFor start.registry.serves requests) log) ∧
        (∀ v ∈ made, ∃ e ∈ log, findLead e.after = .ok v.advance.leadId ∧
          ∃ graph, graphFor start.registry.serves requests e.job = some graph ∧
            v ∈ e.visits graph) ∧
        ∀ v ∈ owed, ∃ e ∈ log, (∃ x, c.tasks[e.job]? = some x ∧
            (x.isOver = false ∨ ∃ f, x = .finished (.error f) ∧ findLead e.after = .error f)) ∧
          ∃ graph, graphFor start.registry.serves requests e.job = some graph ∧
            v ∈ e.visits graph := by
  have hgraphs (templateId : String) (graph : FlowGraph)
      (h : start.registry.serves templateId = .ok graph) : graph.Closed := hclosed.serves h
  have hready : Crew.Aligned (Crew.pactsOf requests (conduct sound held start.registry.serves p))
      (Crew.endsOf requests (Served start.registry.serves p))
      (requests.map fun _ => Note.fresh) (requests.map (·.serve p)) :=
    Crew.aligned_map fun r hr => leads_serve hstore (hfresh r hr) (hpreserves r hr) .fresh rfl
  have hfirst : InOrder sound held start.registry.serves requests start
      (requests.map fun _ => .fresh) [] start :=
    ⟨tidy_start hsound rfl, fun _ _ => paid_start hledger⟩
  have hkept : ∃ notes, InOrder sound held start.registry.serves requests start notes log c.world ∧
      Crew.Aligned (Crew.pactsOf requests (conduct sound held start.registry.serves p))
        (Crew.endsOf requests (Served start.registry.serves p)) notes c.tasks := by
    refine Crew.keeps hfirst hready (fun h hn => ?_) (fun h hn hm => ?_) (fun h hpass => ?_) hrun
    · obtain ⟨r, hr⟩ := h.tidy.requestOf hn
      rw [Crew.pactsOf_eq hr]
      exact ⟨h.tidy.sound, h.tidy.serves⟩
    · obtain ⟨r, hr⟩ := h.tidy.requestOf hn
      rw [Crew.pactsOf_eq hr] at hm
      exact h.step hb hwalks hgraphs hnamed hn hr hm
    · exact h.others hpass
  obtain ⟨notes, ⟨htidy, hpaid⟩, haligned⟩ := hkept
  have hpaid := hpaid hapart hroom
  obtain ⟨made, hmade, hperm⟩ := hpaid.passed
  refine ⟨nodup_persisted htidy.story hnamed hapart, made, notes.flatMap Note.owed, hmade, ?_,
    fun v hv => ?_, fun v hv => ?_⟩
  · have hparts : (notes.flatMap Note.passed ++ notes.flatMap Note.owed).Perm
        (notes.flatMap (·.work.visits)) := by
      have happend := List.flatMap_append_perm notes Note.passed Note.owed
      simp only [Note.passed_append_owed] at happend
      exact happend
    exact ((hperm.append_right _).trans hparts).trans htidy.whole.symm
  · exact entry_of_passed htidy hpaid (hperm.mem_iff.mp hv)
  · exact entry_of_owed htidy haligned (hrun.length_tasks.trans (List.length_map _)) hv

end Run

/-! ### Greetings -/

section Greetings

/-- Two messages and a reset of one session, and a message of another one. -/
def greetingRequests : List Request :=
  [.message hello, .message hello, .reset hello, .message { hello with userId := "bob" }]

/-- The second message waits in line while the first one is processed, and so is that of the other
session; the reset comes last. -/
def greetingOrder : List Nat :=
  (List.replicate 20 [0, 3]).flatten ++ List.replicate 8 1 ++ (List.replicate 45 [0, 3]).flatten ++
    List.replicate 70 1 ++ List.replicate 20 2

def greetingsRun : List Entry × Crew (World Time.Clock) (World Time.Clock) (Option Outcome) :=
  (Crew.mk greetingSite (greetingRequests.map (·.serve greeter))).drive Places.whole
    (fun i w w' => entries Storage.inMemory (nameOf greetingRequests i) i w.store w'.store)
    greetingOrder

theorem apart_greetings : Apart (graphFor greetingSite.registry.serves greetingRequests)
    (Storage.inMemory greetingSite.store) greetingsRun.1 :=
  ⟨by decide +kernel, fun _ _ _ _ hs => nomatch hs⟩

/-- Of two sessions, one is asked and answers, and the other one is asked. -/
theorem advances_of_run_greetings : ∃ log c,
    Crew.Run Places.whole (Alike Storage.InMemory Storage.inMemory)
      (fun i w w' => entries Storage.inMemory (nameOf greetingRequests i) i w.store w'.store)
      ⟨greetingSite, greetingRequests.map (·.serve greeter)⟩ log c ∧
    (log.map fun e => (e.job, e.after.version)) = [(0, 1), (3, 1), (1, 2)] ∧
    (c.tasks.map (·.isOver)) = [true, true, true, true] ∧
    c.world.advances = [⟨.text "ann", "met"⟩, ⟨.text "bob", "met"⟩, ⟨.text "ann", "won"⟩] ∧
    ((persisted (graphFor greetingSite.registry.serves greetingRequests) log).map
      Visit.spot).Nodup ∧
    ∃ made owed : List Visit, c.world.advances = made.map Visit.advance ∧
      (made ++ owed).Perm
        (persisted (graphFor greetingSite.registry.serves greetingRequests) log) ∧
      (∀ v ∈ made, ∃ e ∈ log, findLead e.after = .ok v.advance.leadId ∧
        ∃ graph, graphFor greetingSite.registry.serves greetingRequests e.job = some graph ∧
          v ∈ e.visits graph) ∧
      ∀ v ∈ owed, ∃ e ∈ log, (∃ x, c.tasks[e.job]? = some x ∧
          (x.isOver = false ∨ ∃ f, x = .finished (.error f) ∧ findLead e.after = .error f)) ∧
        ∃ graph, graphFor greetingSite.registry.serves greetingRequests e.job = some graph ∧
          v ∈ e.visits graph := by
  have hrun : Crew.Run Places.whole (Alike Storage.InMemory Storage.inMemory)
      (fun i w w' => entries Storage.inMemory (nameOf greetingRequests i) i w.store w'.store)
      ⟨greetingSite, greetingRequests.map (·.serve greeter)⟩ greetingsRun.1 greetingsRun.2 :=
    Crew.run_drive _
  have hfresh (r : Request) (hr : r ∈ greetingRequests) : r.inbound.prior = none := by
    simp only [greetingRequests, List.mem_cons, List.not_mem_nil, or_false] at hr
    rcases hr with rfl | rfl | rfl | rfl <;> rfl
  have hb : greeter.guard.manager.baseline = Engine.baseline {} := rfl
  have hnamed : Named (Storage.inMemory greetingSite.store) := by
    intro name s hs
    have hnone : Storage.inMemory greetingSite.store name = none := rfl
    exact nomatch hnone.symm.trans hs
  obtain ⟨hspots, made, owed, hmade, hrest⟩ := advances_of_run Storage.swapping_memory hb
    (guardsWalks_processor greetingBlueprint deadLine) hfresh
    (fun r _ graph _ => preserves_any r.inbound graph) Template.Registry.closed_empty
    ⟨⟨.empty, rfl⟩, rfl⟩ hnamed rfl hrun apart_greetings (by decide +kernel)
  exact ⟨_, _, hrun, by decide +kernel, by decide +kernel, by decide +kernel, hspots, made, owed,
    hmade, hrest⟩

/-- **A stage visit that is stored and never passed on**: the message is over, but the lead has too
many digits. -/
theorem owed_of_failed :
    let (log, c) := (Crew.mk towerSite [Request.serve greeter (.message climb)]).drive Places.whole
      (fun i w w' => entries Storage.inMemory "acme:ann:1" i w.store w'.store) (List.replicate 110 0)
    (persisted (graphFor towerSite.registry.serves [.message climb]) log).map
        (fun v => v.advance.stageId) = ["met"] ∧
      c.tasks.map Action.fault? = [some (.tooLong none)] ∧ c.world.advances = [] := by
  decide +kernel

end Greetings

end Parley.Turn
