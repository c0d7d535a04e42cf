import Parley.Proofs.Enhanced.Walks
import Parley.Proofs.Recovery.Replay
import Parley.Proofs.Recovery.Report
import Parley.Proofs.Stages.Claims
import Parley.Proofs.Turn.Story

/-!
# Parley.Proofs.Recovery.Dispatched — a recovery tells which stage visits were passed on before

The stage visits of a walk are in their places in the history, and no two of them are the same
(`stageVisits_inHistory`).  So the verdict on the stage visits of a baseline's reply depends on the
ledger alone: they are kept if none of them is claimed (`stagesKept_iff`).  `reported_of_dispatched`:
if a dispatcher and a manager are given one ledger, with an entry in it, recoveries report what the
dispatcher passed on; `kept_of_empty`: from an empty one they never hear of it.
-/

namespace Parley.Recovery

open Conversation (Interpreter Reply State StageTransition Walk stageVisits)
open Stages (Advance Batch Ledger Ledgers Visit VisitKey visitsOf)
open Template (FlowGraph)
open Time (Clock Clocked)

/-! ### The check of the stage visits -/

section Verdict

variable {claimed : VisitKey → Bool} {state : State} {seen : List (Int × String)}
  {ts : List StageTransition}

/-- A visit in the history of the conversation. -/
def placeOf (t : StageTransition) : Int × String := (t.historyIndex, t.stageId)

/-- Nothing is wrong with stage visits that come once, are in the history and are not claimed. -/
theorem badVisit?_eq_none :
    badVisit? claimed state seen ts = none ↔
      (∀ t ∈ ts, inHistory state.history t = true ∧ claimed (.of state t) = false) ∧
        (∀ t ∈ ts, placeOf t ∉ seen) ∧ (ts.map placeOf).Nodup := by
  induction ts generalizing seen with
  | nil => simp [badVisit?]
  | cons t more ih =>
    have hbad : (seen.contains (t.historyIndex, t.stageId) || !inHistory state.history t ||
        claimed (.of state t)) = true ↔
        placeOf t ∈ seen ∨ inHistory state.history t = false ∨ claimed (.of state t) = true := by
      simp only [Bool.or_eq_true, List.contains_iff_mem, Bool.not_eq_true', placeOf, or_assoc]
    unfold badVisit?
    split_ifs with h
    · refine ⟨fun hnone => (nomatch hnone), fun ⟨hfine, hunseen, _⟩ => ?_⟩
      obtain ⟨hplace, hclaim⟩ := hfine t List.mem_cons_self
      rcases hbad.mp h with hseen | hout | hclaimed
      · exact absurd hseen (hunseen t List.mem_cons_self)
      · exact nomatch hplace.symm.trans hout
      · exact nomatch hclaimed.symm.trans hclaim
    · obtain ⟨hunseen, hplace, hclaim⟩ : placeOf t ∉ seen ∧ inHistory state.history t = true ∧
          claimed (.of state t) = false := by
        simpa only [hbad, not_or, Bool.not_eq_false, Bool.not_eq_true] using h
      have hnew : (∀ u ∈ more, placeOf u ∉ placeOf t :: seen) ↔
          placeOf t ∉ more.map placeOf ∧ ∀ u ∈ more, placeOf u ∉ seen := by
        simp only [List.mem_cons, not_or, List.mem_map, not_exists, not_and, forall_and]
      refine (@ih (placeOf t :: seen)).trans ?_
      rw [hnew, List.forall_mem_cons, List.forall_mem_cons, List.map_cons, List.nodup_cons]
      constructor
      · rintro ⟨hfine, ⟨hnot, hold⟩, hnodup⟩
        exact ⟨⟨⟨hplace, hclaim⟩, hfine⟩, ⟨hunseen, hold⟩, hnot, hnodup⟩
      · rintro ⟨⟨-, hfine⟩, ⟨-, hold⟩, hnot, hnodup⟩
        exact ⟨hfine, ⟨hnot, hold⟩, hnodup⟩

/-- A stage visit stands for a node of the walk. -/
theorem node_of_mem_stageVisits {graph : FlowGraph} {place : Nat} {ids : List String}
    {t : StageTransition} (h : t ∈ stageVisits graph place ids) :
    ∃ k : Nat, t.historyIndex = place + k ∧ ids[k]? = some t.nodeId := by
  induction ids generalizing place with
  | nil => exact absurd h List.not_mem_nil
  | cons id ids ih =>
    rw [Turn.stageVisits_cons] at h
    rcases List.mem_append.mp h with h | h
    · obtain ⟨stage, -, rfl⟩ := Option.map_eq_some_iff.mp (Option.mem_toList.mp h)
      exact ⟨0, (Int.add_zero _).symm, rfl⟩
    · obtain ⟨k, hindex, hid⟩ := ih h
      exact ⟨k + 1, by rw [hindex]; omega, hid⟩

/-- The stage visits of a walk are in the history, each in a place of its own. -/
theorem stageVisits_inHistory {graph : FlowGraph} {before : State} {r : Reply}
    (h : Walk graph before r) :
    (∀ t ∈ r.stages, inHistory r.state.history t = true) ∧ (r.stages.map placeOf).Nodup := by
  rw [h.stages, h.history]
  constructor
  · intro t ht
    obtain ⟨k, hindex, hid⟩ := node_of_mem_stageVisits ht
    have hplace : t.historyIndex.toNat = before.history.length + k := by omega
    have hnode : (before.history ++ r.visited.map Value.text)[before.history.length + k]? =
        some (.text t.nodeId) := by
      rw [List.getElem?_append_right (Nat.le_add_right _ _), Nat.add_sub_cancel_left,
        List.getElem?_map, hid]
      rfl
    simp only [inHistory, hplace, hnode, Bool.and_eq_true, decide_eq_true_eq, and_true]
    omega
  · refine List.Nodup.of_map Prod.fst ?_
    rw [List.map_map]
    exact Turn.nodup_places graph before.history.length r.visited

/-- **The stage visits of a walk are kept if and only if none of them is claimed.** -/
theorem stagesKept_iff {ε : Type} {m : Manager ε} {o : FallbackOptions} {graph : FlowGraph}
    {before : State} {r : Reply} (hledger : m.hasLedger = true) (hverify : o.verifyStages = true)
    (h : Walk graph before r) (l : Ledger) :
    m.stagesKept o l r = true ↔ ∀ t ∈ r.stages, l.isClaimed (.of r.state t) = false := by
  obtain ⟨hplaces, hnodup⟩ := stageVisits_inHistory h
  have hnone : badVisit? (fun k => m.hasLedger && l.isClaimed k) r.state [] r.stages = none ↔
      ∀ t ∈ r.stages, l.isClaimed (.of r.state t) = false := by
    rw [badVisit?_eq_none, hledger]
    simp only [Bool.true_and, List.not_mem_nil, not_false_eq_true, implies_true, hnodup, and_true]
    exact ⟨fun hall t ht => (hall t ht).2, fun hall t ht => ⟨hplaces t ht, hall t ht⟩⟩
  unfold Manager.stagesKept stageCheck
  rw [if_pos hverify, ← hnone]
  split_ifs with hempty
  · rw [List.isEmpty_iff.mp hempty]
    exact iff_of_true rfl rfl
  · cases badVisit? (fun k => m.hasLedger && l.isClaimed k) r.state [] r.stages with
    | none => exact iff_of_true rfl rfl
    | some t => exact iff_of_false Bool.false_ne_true nofun

end Verdict

/-- The interpreter as the baseline: the reply is that to the message, and the world is the same. -/
theorem run_redo {ε : Type} [Clocked ε] {m : Manager ε} {i : Interpreter} {c : FallbackContext}
    {w : World ε} {reply : Reply} (hbaseline : m.baseline = Engine.baseline i)
    (h : i.step c.graph c.before c.text (some c.key) (Clocked.clock w).now = .ok reply) :
    (m.redo c).run w = (.ok reply, w) := by
  have hnow : (Clocked.clock (Holds.part w : ε)).now = (Clocked.clock w).now := rfl
  simp [Manager.redo, hbaseline, Engine.baseline, Engine.interpret, FallbackContext.message,
    Action.mapFault, Action.recover, Action.now, Action.andThen, Action.attempt, Action.result,
    Action.ofExcept, Action.inside, Action.through, Action.run, hnow, h]

/-! ### Dispatcher and recovery -/

section Dispatched

variable {ε : Type} [Clocked ε] {m : Manager ε} {i : Interpreter} {c : FallbackContext}
  {o : FallbackOptions} {w w₁ w₂ : World ε} {stateKept : Bool} {kept : RecoveryAction}
  {reply : Reply}

/-- Where the interpreter replies, the state could be copied. -/
theorem copied_of_redo (hbaseline : m.baseline = Engine.baseline i)
    (hbase : (m.redo c).run w = (.ok reply, w₁)) : c.before.mapM State.copy = .ok c.before := by
  have hmay := Action.mayEnd_run (m.redo c) w
  unfold Manager.redo at hmay hbase
  rw [hbase, hbaseline] at hmay
  obtain ⟨now, -, hstep⟩ := step_of_baseline (Action.mayEnd_of_inside hmay)
  cases hbefore : c.before with
  | none => rfl
  | some state =>
    rw [show (c.message []).state = some state from hbefore] at hstep
    have hcopied : state.copy = .ok state :=
      State.copy_eq_ok.mpr ⟨((i.step_eq_ok c.graph).mp hstep).1, rfl⟩
    exact exceptBind_eq_ok.mpr ⟨state, hcopied, rfl⟩

/-- With a faithful baseline on an accepted template, a recovery reports that the stage visits were
kept if and only if the ledger knows none of them. -/
theorem recover_leadData {document templateId version : Value}
    (hread : Template.readGraph document templateId version = .ok c.graph)
    (hfaithful : Faithful m.baseline) (hledger : m.hasLedger = true)
    (hverify : o.verifyStages = true)
    (hcheck : (m.checkState o c).run w = (.ok (stateKept, kept), w₁))
    (hcopy : c.before.mapM State.copy = .ok c.before)
    (hbase : (m.redo c).run w₁ = (.ok reply, w₂)) (incident : Incident) :
    ∃ r, ((m.recover c incident o).run w).1 = .ok r ∧ r.reply = reply ∧
      r.event.leadDataPreserved = r.leadDataPreserved ∧
      (r.leadDataPreserved = true ↔
        ∀ t ∈ reply.stages, w.ledger.isClaimed (.of reply.state t) = false) := by
  obtain ⟨r, hr, hreply, -, hstages, -, hevent⟩ := run_recover_of_reply incident hcheck hcopy hbase
  have hmay := Action.mayEnd_run (m.redo c) w₁
  rw [hbase] at hmay
  obtain ⟨⟨working, -, hwalk⟩, -⟩ := hfaithful (c.message []) reply
    (Template.closed_of_readGraph hread) (Action.mayEnd_of_inside hmay)
  have hsame : w₂.ledger = w.ledger := by
    have hchecked := unreported_checkState m o c w
    have hredone := unreported_redo m c w₁
    rw [hcheck] at hchecked
    rw [hbase] at hredone
    exact hredone.1.trans hchecked.1
  refine ⟨r, hr, hreply, hevent.trans hstages.symm, ?_⟩
  rw [hstages, stagesKept_iff hledger hverify hwalk, hsame]

/-- **A dispatcher and recoveries that share a ledger.**  A dispatcher is given a ledger with an
entry in it, and dispatches any stage visits, batch by batch.  It claims them in the shared ledger:
a visit that it passed on is claimed there until as many later ones were passed on as the ledger has
room for.  A recovery with this ledger whose baseline reply has such a visit reports that the lead
data were not kept; and if all stage visits of the reply are new, to the ledger at first and to the
dispatcher, it reports that they were. -/
theorem reported_of_dispatched {given : Ledger} (hgiven : given.size ≠ 0) (batches : List Batch)
    {document templateId version : Value}
    (hread : Template.readGraph document templateId version = .ok c.graph)
    (hbaseline : m.baseline = Engine.baseline i) (hledger : m.hasLedger = true)
    (hverify : o.verifyStages = true)
    (hshared : w.ledger = ((Ledgers.start given).dispatchAll batches).2.shared)
    (hcheck : (m.checkState o c).run w = (.ok (stateKept, kept), w₁))
    (hbase : (m.redo c).run w₁ = (.ok reply, w₂)) (incident : Incident) :
    ((Ledgers.start given).dispatchAll batches).1 =
        (given.passedOn (visitsOf batches)).map Visit.advance ∧
      (∀ v ∈ (given.passedOn (visitsOf batches)).rtake given.maxEntries,
        w.ledger.isClaimed v.key = true) ∧
      ∃ r, ((m.recover c incident o).run w).1 = .ok r ∧ r.reply = reply ∧
        r.event.leadDataPreserved = r.leadDataPreserved ∧
        ((∃ t ∈ reply.stages, ∃ v ∈ (given.passedOn (visitsOf batches)).rtake given.maxEntries,
          v.key = .of reply.state t) → r.leadDataPreserved = false) ∧
        ((∀ t ∈ reply.stages, VisitKey.of reply.state t ∉ given.entries ∧
          ∀ v ∈ visitsOf batches, v.key ≠ .of reply.state t) → r.leadDataPreserved = true) := by
  rw [Ledgers.dispatchAll_start hgiven] at hshared ⊢
  have hclaimed (v : Visit) (hv : v ∈ (given.passedOn (visitsOf batches)).rtake given.maxEntries) :
      w.ledger.isClaimed v.key = true := by
    rw [hshared]
    exact Ledger.claimed_of_passedOn hv
  obtain ⟨r, hr, hreply, hevent, hverdict⟩ := recover_leadData hread
    (hbaseline ▸ faithful_baseline i) hledger hverify hcheck (copied_of_redo hbaseline hbase) hbase
    incident
  refine ⟨rfl, hclaimed, r, hr, hreply, hevent, fun ⟨t, ht, v, hv, hkey⟩ => ?_, fun hnew => ?_⟩
  · refine Bool.eq_false_iff.mpr fun hkept => ?_
    have hunclaimed := hverdict.mp hkept t ht
    rw [← hkey, hclaimed v hv] at hunclaimed
    exact nomatch hunclaimed
  · refine hverdict.mpr fun t ht => Bool.eq_false_iff.mpr fun hknown => ?_
    obtain ⟨hentries, hvisits⟩ := hnew t ht
    rw [hshared] at hknown
    rcases Ledger.known_of_claimed hknown with hbefore | ⟨v, hv, hkey⟩
    · exact hentries hbefore
    · exact hvisits v hv hkey

/-- **A dispatcher that was given an empty ledger** tells nobody what it dispatches: all recoveries
with this ledger report that the lead data were kept. -/
theorem kept_of_empty {given : Ledger} (hgiven : given.size = 0) (batches : List Batch)
    {document templateId version : Value}
    (hread : Template.readGraph document templateId version = .ok c.graph)
    (hbaseline : m.baseline = Engine.baseline i) (hledger : m.hasLedger = true)
    (hverify : o.verifyStages = true)
    (hshared : w.ledger = ((Ledgers.start given).dispatchAll batches).2.shared)
    (hcheck : (m.checkState o c).run w = (.ok (stateKept, kept), w₁))
    (hbase : (m.redo c).run w₁ = (.ok reply, w₂)) (incident : Incident) :
    ∃ r, ((m.recover c incident o).run w).1 = .ok r ∧ r.reply = reply ∧
      r.leadDataPreserved = true := by
  obtain ⟨r, hr, hreply, -, hverdict⟩ := recover_leadData hread
    (hbaseline ▸ faithful_baseline i) hledger hverify hcheck (copied_of_redo hbaseline hbase) hbase
    incident
  refine ⟨r, hr, hreply, hverdict.mpr fun t _ => ?_⟩
  rw [hshared, Ledgers.shared_of_empty hgiven]
  unfold Ledger.isClaimed
  rw [List.eq_nil_of_length_eq_zero hgiven]
  rfl

end Dispatched

/-! ### An offer -/

section Offer

/-- A question, an offer and a farewell. -/
def offer : Value :=
  .object [("id", .text "offer"), ("entryNodeId", .text "ask"), ("nodes", .list [
    .object [("id", .text "ask"), ("type", .text "input"), ("content", .text "Interested?"),
      ("next", .text "quote")],
    .object [("id", .text "quote"), ("type", .text "message"), ("content", .text "Five a piece."),
      ("metadata", .object [("salesStageId", .text "quoted")]), ("next", .text "bye")],
    .object [("id", .text "bye"), ("type", .text "terminal"), ("content", .text "Bye!")]])]

/-- The question was asked in a session. -/
def interested (session : String) : State :=
  { waiting with
    flowId := .text "offer"
    sessionId := .text session
    history := [.text "ask"] }

/-- The visit of the offer in the session. -/
def quoted (session : String) : Visit := ⟨interested session, ⟨"quote", "quoted", 1⟩⟩

def offerTurn (graph : FlowGraph) (session : String) : FallbackContext :=
  ⟨graph, (interested session).key, "offer", some (interested session), some "yes"⟩

/-- No store is asked. -/
def offerManager : Manager Clock := ⟨Engine.baseline {}, .default, false, false, true⟩

/-- The visit in session 1 was dispatched. -/
def offerBatches : List Batch := [⟨(quoted "1").state, [(quoted "1").transition]⟩]

def offerWorld (given : Ledger) : World Clock :=
  { freshWorld with ledger := ((Ledgers.start given).dispatchAll offerBatches).2.shared }

theorem now_offerWorld (given : Ledger) : (Clocked.clock (offerWorld given)).now = ⟨0, none⟩ := by
  show (Clocked.clock freshWorld).now = _
  decide +kernel

theorem checkState_offer (given : Ledger) (graph : FlowGraph) (session : String) :
    (offerManager.checkState {} (offerTurn graph session)).run (offerWorld given) =
      (.ok (true, ⟨.preserveSession, .skipped, "no store verification"⟩), offerWorld given) := rfl

/-- In both sessions the answer leads to the offer. -/
theorem steps_offer : ∃ graph, Template.readGraph offer .null .null = .ok graph ∧
    ∀ session ∈ ["1", "2"], ∃ reply,
      (∀ given, (offerManager.redo (offerTurn graph session)).run (offerWorld given) =
        (.ok reply, offerWorld given)) ∧
        reply.stages = [(quoted session).transition] ∧
        VisitKey.of reply.state (quoted session).transition = (quoted session).key := by
  have h : ((Template.readGraph offer .null .null).toOption.any fun graph =>
      ["1", "2"].all fun session =>
        (({} : Interpreter).step graph (offerTurn graph session).before (some "yes")
          (some (offerTurn graph session).key) ⟨0, none⟩).toOption.any fun reply =>
            decide (reply.stages = [(quoted session).transition]) &&
              decide (VisitKey.of reply.state (quoted session).transition =
                (quoted session).key)) = true := by decide +kernel
  obtain ⟨graph, hread, h⟩ := exists_of_any h
  refine ⟨graph, hread, fun session hsession => ?_⟩
  obtain ⟨reply, hreply, h⟩ := exists_of_any (List.all_eq_true.mp h session hsession)
  obtain ⟨hstages, hkey⟩ := Bool.and_eq_true_iff.mp h
  have hredo (given : Ledger) : (offerManager.redo (offerTurn graph session)).run
      (offerWorld given) = (.ok reply, offerWorld given) :=
    run_redo rfl ((now_offerWorld given).symm ▸ hreply)
  exact ⟨reply, hredo, of_decide_eq_true hstages, of_decide_eq_true hkey⟩

/-- A ledger with a visit of another day in it. -/
def usedLedger : Ledger := ⟨5, [(quoted "0").key]⟩

/-- The visit in session 1 was dispatched before, and the one in session 2 is new. -/
theorem reported_of_dispatched_offer : ∃ graph, usedLedger.size ≠ 0 ∧
    Template.readGraph offer .null .null = .ok graph ∧
    (∃ r, ((offerManager.recover (offerTurn graph "1") ⟨.moduleError, none, none⟩ {}).run
      (offerWorld usedLedger)).1 = .ok r ∧ r.leadDataPreserved = false) ∧
    ∃ r, ((offerManager.recover (offerTurn graph "2") ⟨.moduleError, none, none⟩ {}).run
      (offerWorld usedLedger)).1 = .ok r ∧ r.leadDataPreserved = true := by
  obtain ⟨graph, hread, hsteps⟩ := steps_offer
  have hused : usedLedger.size ≠ 0 := by decide
  refine ⟨graph, hused, hread, ?_, ?_⟩
  · obtain ⟨reply, hredo, hstages, hkey⟩ := hsteps "1" (by decide)
    obtain ⟨-, -, r, hr, -, -, hold, -⟩ := reported_of_dispatched hused offerBatches hread
      rfl rfl rfl rfl (checkState_offer usedLedger graph _) (hredo usedLedger)
      ⟨.moduleError, none, none⟩
    refine ⟨r, hr, hold ⟨_, hstages ▸ List.mem_singleton_self _, quoted "1", ?_, hkey.symm⟩⟩
    decide
  · obtain ⟨reply, hredo, hstages, hkey⟩ := hsteps "2" (by decide)
    obtain ⟨-, -, r, hr, -, -, -, hnew⟩ := reported_of_dispatched hused offerBatches hread
      rfl rfl rfl rfl (checkState_offer usedLedger graph _) (hredo usedLedger)
      ⟨.moduleError, none, none⟩
    refine ⟨r, hr, hnew fun t ht => ?_⟩
    rw [hstages, List.mem_singleton] at ht
    rw [ht, hkey]
    decide

/-- **An empty ledger is not shared.**  The visit in session 1 was dispatched; the ledger does not
know it, and the recovery reports that the lead data were kept, though its reply has the visit. -/
theorem unreported_offer : ∃ graph r,
    Template.readGraph offer .null .null = .ok graph ∧
      ((Ledgers.start (.new 5)).dispatchAll offerBatches).1 = [(quoted "1").advance] ∧
      (offerWorld (.new 5)).ledger.isClaimed (quoted "1").key = false ∧
      ((offerManager.recover (offerTurn graph "1") ⟨.moduleError, none, none⟩ {}).run
        (offerWorld (.new 5))).1 = .ok r ∧
      r.reply.stages = [(quoted "1").transition] ∧
      VisitKey.of r.reply.state (quoted "1").transition = (quoted "1").key ∧
      r.leadDataPreserved = true := by
  obtain ⟨graph, hread, hsteps⟩ := steps_offer
  obtain ⟨reply, hredo, hstages, hkey⟩ := hsteps "1" (by decide)
  obtain ⟨r, hr, hreply, hkept⟩ := kept_of_empty rfl offerBatches hread
    rfl rfl rfl rfl (checkState_offer (.new 5) graph _) (hredo (.new 5)) ⟨.moduleError, none, none⟩
  exact ⟨graph, r, hread, by decide, by decide, hr, hreply ▸ hstages, hreply ▸ hkey, hkept⟩

end Offer

end Parley.Recovery
