import Mathlib.Data.List.Flatten
import Mathlib.Data.List.Perm.Basic
import Parley.Proofs.Turn.Stored

/-!
# Parley.Proofs.Turn.Tidy — requests of one service stay out of each other's way

`Tidy`: the notes of all requests, the locks of the service and what was stored go together.  Who
holds a state in hand has the lock of its session, so that nobody else stores another one meanwhile;
what was stored is a story; and each request knows its part of it.  `Tidy.step`: every step of a
request keeps all of this.
-/

namespace Parley.Turn

open Conversation (Interpreter State)
open Recovery (Guarded)
open Session (Orderly Ticket Visitor)
open Storage (Store heldVersion Replaces)
open Template (FlowGraph)
open Time (Clocked)

variable {ε : Type}

/-! ### Visits in the notes -/

/-- The stage visits of what a request stored. -/
def Work.visits : Work → List Visit
  | stored _ guarded => guarded.reply.stages.map (visitOf guarded.reply.state)
  | _ => []

theorem Work.IsFree.visits {work : Work} (h : work.IsFree) : work.visits = [] := by
  cases work with
  | nothing | loaded base => rfl
  | stored base guarded => exact h.elim

namespace Note

/-- The stage visits that the ledger got to know. -/
def claimed (n : Note) : List Visit :=
  match n.dues with
  | .unclaimed => []
  | _ => n.work.visits

/-- The stage visits that were passed on. -/
def passed (n : Note) : List Visit :=
  match n.dues with
  | .passed => n.work.visits
  | _ => []

/-- The stage visits that are still to be passed on. -/
def owed (n : Note) : List Visit :=
  match n.dues with
  | .passed => []
  | _ => n.work.visits

theorem claimed_sublist (n : Note) : n.claimed.Sublist n.work.visits := by
  unfold claimed
  split
  · exact List.nil_sublist _
  · exact List.Sublist.refl _

theorem passed_append_owed (n : Note) : n.passed ++ n.owed = n.work.visits := by
  unfold passed owed
  split
  · exact List.append_nil _
  · rfl

end Note

section Set

variable {α β : Type} {l : List α} {i : Nat} {a b : α}

/-- An entry of a list takes the place of another one. -/
theorem flatMap_set (h : l[i]? = some a) (b : α) (f : α → List β) :
    ((l.set i b).flatMap f ++ f a).Perm (l.flatMap f ++ f b) := by
  induction l generalizing i with
  | nil => exact nomatch h
  | cons c more ih =>
    cases i with
    | zero =>
      obtain rfl : c = a := Option.some.inj h
      rw [List.set_cons_zero, List.flatMap_cons, List.flatMap_cons, List.append_assoc (f c)]
      exact List.perm_append_comm.trans (List.perm_append_comm.append_left (f c))
    | succ i =>
      rw [List.set_cons_succ, List.flatMap_cons, List.flatMap_cons, List.append_assoc,
        List.append_assoc]
      exact (ih h).append_left (f c)

theorem flatMap_set_of_eq (h : l[i]? = some a) {f : α → List β} (hf : f b = f a) :
    ((l.set i b).flatMap f).Perm (l.flatMap f) := by
  have hperm := flatMap_set h b f
  rw [hf] at hperm
  exact (List.perm_append_right_iff _).mp hperm

theorem flatMap_set_of_nil (h : l[i]? = some a) {f : α → List β} (hf : f a = []) :
    ((l.set i b).flatMap f).Perm (l.flatMap f ++ f b) := by
  have hperm := flatMap_set h b f
  rwa [hf, List.append_nil] at hperm

end Set

/-! ### The service -/

section Service

variable (served : String → Except Fault FlowGraph) (requests : List Request)

/-- The name of a request's session. -/
def nameOf (i : Nat) : String := (requests[i]?.map Request.name).getD ""

/-- The graph that a request is for. -/
def graphFor (i : Nat) : Option FlowGraph :=
  requests[i]?.bind fun r => (served r.inbound.templateId).toOption

/-- Who wants a lock, and where they stand. -/
def visitors (notes : List Note) : List Visitor :=
  notes.mapIdx fun i n => ⟨nameOf requests i, n.hold⟩

end Service

section Invariant

variable {sound : Store → Prop} {held : Store → String → Option State}
  {served : String → Except Fault FlowGraph} {p : Processor ε} {requests : List Request}
  {start w w' : World ε} {notes : List Note} {log : List Entry} {i : Nat} {r : Request}
  {m : Inbound} {n n' : Note}

theorem nameOf_eq (h : requests[i]? = some r) : nameOf requests i = r.name := by
  unfold nameOf
  rw [h]
  rfl

theorem graphFor_eq (h : requests[i]? = some r) {graph : FlowGraph}
    (hserved : served r.inbound.templateId = .ok graph) :
    graphFor served requests i = some graph := by
  unfold graphFor
  rw [h, Option.bind_some, hserved]
  rfl

theorem getElem?_visitors (h : notes[i]? = some n) :
    (visitors requests notes)[i]? = some ⟨nameOf requests i, n.hold⟩ := by
  unfold visitors
  rw [List.getElem?_mapIdx, h]
  rfl

theorem visitors_set (notes : List Note) (i : Nat) (n : Note) :
    visitors requests (notes.set i n) =
      (visitors requests notes).set i ⟨nameOf requests i, n.hold⟩ := List.mapIdx_set

theorem visitors_set_of_eq (h : notes[i]? = some n) (hhold : n'.hold = n.hold) :
    visitors requests (notes.set i n') = visitors requests notes := by
  have hentry : (visitors requests notes)[i]? = some ⟨nameOf requests i, n.hold⟩ :=
    getElem?_visitors h
  obtain ⟨hlength, hget⟩ := List.getElem?_eq_some_iff.mp hentry
  rw [visitors_set, hhold, ← hget]
  exact List.set_getElem_self hlength

/-- A request has its lock whenever it holds a state in hand, and nobody else stored another one. -/
def Guards (requests : List Request) (held : String → Option State) (i : Nat) (n : Note) : Prop :=
  ∀ base, n.work = .loaded base →
    n.hold = .left ∨ (∃ t, n.hold = .inside t) ∧ base = held (nameOf requests i)

/-- The notes of all requests, the locks and what was stored go together. -/
structure Tidy (sound : Store → Prop) (held : Store → String → Option State)
    (served : String → Except Fault FlowGraph) (requests : List Request) (start : World ε)
    (notes : List Note) (log : List Entry) (w : World ε) : Prop where
  length : notes.length = requests.length
  sound : sound w.store
  serves : w.registry.serves = served
  orderly : Orderly (visitors requests notes) w.locks
  story : Story (graphFor served requests) (nameOf requests) (held start.store) log (held w.store)
  guards : ∀ i n, notes[i]? = some n → Guards requests (held w.store) i n
  told : ∀ i n, notes[i]? = some n →
    n.work.visits = persisted (graphFor served requests) (log.filter (·.job = i))
  accounts : ∀ i n, notes[i]? = some n → log.filter (·.job = i) = n.work.entries i
  whole : (persisted (graphFor served requests) log).Perm (notes.flatMap (·.work.visits))

theorem tidy_start (hsound : sound start.store) (hserved : start.registry.serves = served) :
    Tidy sound held served requests start (requests.map fun _ => .fresh) [] start where
  length := List.length_map _
  sound := hsound
  serves := hserved
  orderly := by
    refine Session.orderly_outside fun v hv => ?_
    obtain ⟨i, hi, rfl⟩ := List.mem_mapIdx.mp hv
    rw [List.getElem_map]
    rfl
  story := .start
  guards := by
    intro i n hn base hwork
    obtain ⟨r, -, rfl⟩ := List.mem_map.mp (List.mem_of_getElem? hn)
    exact nomatch hwork
  told := by
    intro i n hn
    obtain ⟨r, -, rfl⟩ := List.mem_map.mp (List.mem_of_getElem? hn)
    rfl
  accounts := by
    intro i n hn
    obtain ⟨r, -, rfl⟩ := List.mem_map.mp (List.mem_of_getElem? hn)
    rfl
  whole := by
    have hnone : (requests.map fun _ => Note.fresh).flatMap (·.work.visits) = [] := by
      simp [Note.fresh, Work.visits]
    rw [hnone]
    exact List.Perm.refl _

namespace Tidy

/-- A note belongs to a request. -/
theorem requestOf (h : Tidy sound held served requests start notes log w)
    (hn : notes[i]? = some n) : ∃ r, requests[i]? = some r :=
  Crew.entry_of_note h.length hn

/-- A step that stores nothing. -/
theorem still (h : Tidy sound held served requests start notes log w) (hn : notes[i]? = some n)
    (hsound : sound w'.store) (hheld : held w'.store = held w.store)
    (hserves : w'.registry.serves = w.registry.serves)
    (horderly : Orderly (visitors requests (notes.set i n')) w'.locks)
    (hvisits : n'.work.visits = n.work.visits) (hentries : n'.work.entries i = n.work.entries i)
    (hguards : Guards requests (held w.store) i n') :
    Tidy sound held served requests start (notes.set i n')
      (log ++ entries held (nameOf requests i) i w.store w'.store) w' := by
  rw [entries_of_same hheld, List.append_nil]
  refine ⟨by rw [List.length_set, h.length], hsound, hserves.trans h.serves, horderly, ?_, ?_, ?_,
    ?_, ?_⟩
  · rw [hheld]
    exact h.story
  · intro j g hj
    rw [hheld]
    rcases Session.of_getElem?_set hj with ⟨rfl, rfl⟩ | ⟨-, hj⟩
    · exact hguards
    · exact h.guards j g hj
  · intro j g hj
    rcases Session.of_getElem?_set hj with ⟨rfl, rfl⟩ | ⟨-, hj⟩
    · exact hvisits.trans (h.told i n hn)
    · exact h.told j g hj
  · intro j g hj
    rcases Session.of_getElem?_set hj with ⟨rfl, rfl⟩ | ⟨-, hj⟩
    · exact (h.accounts i n hn).trans hentries.symm
    · exact h.accounts j g hj
  · exact h.whole.trans (flatMap_set_of_eq hn hvisits).symm

/-- A step that stores nothing, after which the request stands with the lock as before. -/
theorem aside (h : Tidy sound held served requests start notes log w) (hn : notes[i]? = some n)
    (hhold : n'.hold = n.hold) (hsound : sound w'.store) (hheld : held w'.store = held w.store)
    (hserves : w'.registry.serves = w.registry.serves)
    (horderly : Orderly (visitors requests notes) w'.locks)
    (hvisits : n'.work.visits = n.work.visits) (hentries : n'.work.entries i = n.work.entries i)
    (hguards : Guards requests (held w.store) i n') :
    Tidy sound held served requests start (notes.set i n')
      (log ++ entries held (nameOf requests i) i w.store w'.store) w' := by
  refine h.still hn hsound hheld hserves ?_ hvisits hentries hguards
  rw [visitors_set_of_eq hn hhold]
  exact horderly

/-- Nobody else is inside under the same name. -/
theorem guards_others (h : Tidy sound held served requests start notes log w)
    (hn : notes[i]? = some n) {t : Ticket} (hhold : n.hold = .inside t)
    {held' : String → Option State} {s : Option State}
    (hreplaces : Replaces (held w.store) held' (nameOf requests i) s) {j : Nat} {g : Note}
    (hj : notes[j]? = some g) (hne : i ≠ j) : Guards requests held' j g := by
  intro base hwork
  rcases h.guards j g hj base hwork with hleft | ⟨⟨t', ht'⟩, hbase⟩
  · exact .inl hleft
  · have hi : (visitors requests notes)[i]? = some ⟨nameOf requests i, .inside t⟩ :=
      hhold ▸ getElem?_visitors hn
    have hj : (visitors requests notes)[j]? = some ⟨nameOf requests j, .inside t'⟩ :=
      ht' ▸ getElem?_visitors hj
    have hother : nameOf requests j ≠ nameOf requests i := by
      intro hname
      rw [hname] at hj
      exact hne (h.orderly.exclusive hi hj)
    exact .inr ⟨⟨t', ht'⟩, hbase.trans (hreplaces.2 _ hother).symm⟩

/-- A session is forgotten. -/
theorem drop (h : Tidy sound held served requests start notes log w) (hn : notes[i]? = some n)
    {t : Ticket} (hhold : n.hold = .inside t) (hwork : n.work = .nothing) {s : Store}
    (hsound : sound s) (hreplaces : Replaces (held w.store) (held s) (nameOf requests i) none) :
    Tidy sound held served requests start (notes.set i n)
      (log ++ entries held (nameOf requests i) i w.store s) { w with store := s } := by
  rw [entries_of_none hreplaces.1, List.append_nil]
  refine ⟨by rw [List.length_set, h.length], hsound, h.serves, ?_, h.story.forget hreplaces, ?_, ?_,
    ?_, ?_⟩
  · rw [visitors_set_of_eq hn rfl]
    exact h.orderly
  · intro j g hj
    rcases Session.of_getElem?_set hj with ⟨-, rfl⟩ | ⟨hne, hj⟩
    · intro base hbase
      exact nomatch hwork.symm.trans hbase
    · exact h.guards_others hn hhold hreplaces hj hne
  · intro j g hj
    rcases Session.of_getElem?_set hj with ⟨rfl, rfl⟩ | ⟨-, hj⟩
    · exact h.told i g hn
    · exact h.told j g hj
  · intro j g hj
    rcases Session.of_getElem?_set hj with ⟨rfl, rfl⟩ | ⟨-, hj⟩
    · exact h.accounts i g hn
    · exact h.accounts j g hj
  · exact h.whole.trans (flatMap_set_of_eq hn rfl).symm

/-- A reply is stored in place of the state that it replies to. -/
theorem store (h : Tidy sound held served requests start notes log w) (hn : notes[i]? = some n)
    {t : Ticket} (hhold : n.hold = .inside t) {base : Option State} (hwork : n.work = .loaded base)
    {graph : FlowGraph} (hgraph : graphFor served requests i = some graph) {guarded : Guarded}
    (hproper : Entry.Proper graph (nameOf requests i) ⟨i, base, guarded.reply.state⟩)
    (hvisits : (Entry.mk i base guarded.reply.state).visits graph =
      guarded.reply.stages.map (visitOf guarded.reply.state))
    (hversion : guarded.reply.state.version = heldVersion base + 1) {s : Store} (hsound : sound s)
    (hreplaces : Replaces (held w.store) (held s) (nameOf requests i) (some guarded.reply.state)) :
    Tidy sound held served requests start (notes.set i { n with work := .stored base guarded })
      (log ++ entries held (nameOf requests i) i w.store s) { w with store := s } := by
  have hbase : base = held w.store (nameOf requests i) := by
    rcases h.guards i n hn base hwork with hleft | ⟨-, hbase⟩
    · exact nomatch hhold.symm.trans hleft
    · exact hbase
  have hentries : entries held (nameOf requests i) i w.store s =
      [⟨i, base, guarded.reply.state⟩] := by
    rw [hbase] at hversion ⊢
    exact entries_of_next hreplaces.1 hversion
  have hnone : n.work.visits = [] := by rw [hwork]; rfl
  rw [hentries]
  have hvisitors : visitors requests (notes.set i { n with work := .stored base guarded }) =
      visitors requests notes := visitors_set_of_eq hn rfl
  have hset : ((notes.set i { n with work := .stored base guarded }).flatMap (·.work.visits)).Perm
      (notes.flatMap (·.work.visits) ++ guarded.reply.stages.map (visitOf guarded.reply.state)) :=
    flatMap_set_of_nil hn hnone
  refine ⟨by rw [List.length_set, h.length], hsound, h.serves, ?_,
    h.story.store hgraph hbase hproper hreplaces, ?_, ?_, ?_, ?_⟩
  · rw [hvisitors]
    exact h.orderly
  · intro j g hj
    rcases Session.of_getElem?_set hj with ⟨-, rfl⟩ | ⟨hne, hj⟩
    · intro base' hbase'
      exact nomatch hbase'
    · exact h.guards_others hn hhold hreplaces hj hne
  · intro j g hj
    rw [List.filter_append]
    rcases Session.of_getElem?_set hj with ⟨rfl, rfl⟩ | ⟨hne, hj⟩
    · rw [List.filter_cons_of_pos (by exact decide_eq_true rfl), List.filter_nil,
        persisted_append hgraph, ← h.told i n hn, hnone, hvisits]
      rfl
    · rw [List.filter_cons_of_neg (by simpa using hne), List.filter_nil, List.append_nil]
      exact h.told j g hj
  · intro j g hj
    rw [List.filter_append]
    rcases Session.of_getElem?_set hj with ⟨rfl, rfl⟩ | ⟨hne, hj⟩
    · rw [h.accounts i n hn, hwork, List.filter_cons_of_pos (by exact decide_eq_true rfl)]
      rfl
    · rw [List.filter_cons_of_neg (by simpa using hne), List.filter_nil, List.append_nil]
      exact h.accounts j g hj
  · rw [persisted_append hgraph, hvisits]
    exact (h.whole.append_right _).trans hset.symm

section Step

variable [Clocked ε] {p : Processor ε} {interpreter : Interpreter}
  (hb : p.guard.manager.baseline = Engine.baseline interpreter) (hwalks : GuardsWalks p.guard)
  (hclosed : ∀ templateId graph, served templateId = .ok graph → graph.Closed)
  (hnamed : Named (held start.store))
include hb hwalks hclosed hnamed

/-- What a message stores, it stores under the name of its session. -/
theorem reply (h : Tidy sound held served requests start notes log w) (hn : notes[i]? = some n)
    (hr : requests[i]? = some (.message m)) {t : Ticket} (hhold : n.hold = .inside t)
    {base state : Option State} (hwork : n.work = .loaded base) {graph : FlowGraph}
    (hserved : served m.templateId = .ok graph) {guarded : Guarded}
    (hanswered : Answered p m graph base state guarded) {name : String}
    (hname : guarded.reply.state.key.join = .ok name) {s : Store} (hsound : sound s)
    (hreplaces : Replaces (held w.store) (held s) name
      (some (storedAt guarded (heldVersion base + 1)).reply.state)) :
    Tidy sound held served requests start
      (notes.set i { n with work := .stored base (storedAt guarded (heldVersion base + 1)) })
      (log ++ entries held (nameOf requests i) i w.store s) { w with store := s } := by
  have hg := hclosed m.templateId graph hserved
  have hlock := nameOf_eq hr
  change nameOf requests i = m.lockName at hlock
  have hkey : ∀ s', base = some s' → s'.key.join = .ok m.lockName := by
    intro s' hs'
    rcases h.guards i n hn base hwork with hleft | ⟨-, hbase⟩
    · exact nomatch hhold.symm.trans hleft
    · rw [hlock, hs'] at hbase
      exact h.story.named hnamed m.lockName s' hbase.symm
  have hproper : Entry.Proper graph m.lockName
      ⟨i, base, (storedAt guarded (heldVersion base + 1)).reply.state⟩ :=
    proper_of_answered hb hg hwalks hkey hanswered
  rw [← key_storedAt guarded (heldVersion base + 1)] at hname
  obtain rfl : m.lockName = name := Except.ok.inj (hproper.named.symm.trans hname)
  rw [← hlock] at hproper hreplaces
  exact h.store hn hhold hwork (graphFor_eq hr hserved) hproper
    (visits_of_answered hb hg hwalks hanswered) rfl hsound hreplaces

/-- **Every step of a request keeps all in order.** -/
theorem step (h : Tidy sound held served requests start notes log w) (hn : notes[i]? = some n)
    (hr : requests[i]? = some r) (hstep : Step sound held served p r n w n' w') :
    Tidy sound held served requests start (notes.set i n')
      (log ++ entries held (nameOf requests i) i w.store w'.store) w' := by
  have hguards := h.guards i n hn
  have hname : nameOf requests i = r.name := nameOf_eq hr
  have hvisitor : (visitors requests notes)[i]? = some ⟨r.name, n.hold⟩ :=
    hname ▸ getElem?_visitors hn
  cases hstep with
  | idle halike =>
    obtain ⟨hsound, hheld⟩ := halike.store h.sound
    exact h.aside hn rfl hsound hheld halike.registry (halike.locks ▸ h.orderly) rfl rfl hguards
  | enter houtside =>
    refine h.still hn h.sound rfl rfl ?_ rfl rfl fun base hwork => ?_
    · rw [visitors_set, hname]
      exact h.orderly.enter (houtside ▸ hvisitor)
    · rcases hguards base hwork with hleft | ⟨⟨t, ht⟩, -⟩
      · exact nomatch houtside.symm.trans hleft
      · exact nomatch houtside.symm.trans ht
  | ask _ => exact h.aside hn rfl h.sound rfl rfl (h.orderly.ask _) rfl rfl hguards
  | grasp hline hholds =>
    refine h.still hn h.sound rfl rfl ?_ rfl rfl fun base hwork => ?_
    · rw [visitors_set, hname]
      exact h.orderly.grasp (hline ▸ hvisitor) hholds
    · rcases hguards base hwork with hleft | ⟨⟨t, ht⟩, -⟩
      · exact nomatch hline.symm.trans hleft
      · exact nomatch hline.symm.trans ht
  | @leave _ _ _ t hentered =>
    refine h.still hn h.sound rfl rfl ?_ rfl rfl fun _ _ => .inl rfl
    have hticket : n.hold.ticket? = some t := by
      rcases hentered with hline | hinside
      · rw [hline]
        rfl
      · rw [hinside]
        rfl
    rw [visitors_set, hname]
    exact h.orderly.leave hvisitor hticket
  | @load m _ _ _ t hinside hfree _ halike =>
    obtain ⟨hsound, hheld⟩ := halike.store h.sound
    refine h.aside hn rfl hsound hheld halike.registry (halike.locks ▸ h.orderly)
      hfree.visits.symm (hfree.entries i).symm fun base hbase => .inr ⟨⟨t, hinside⟩, ?_⟩
    rw [← Work.loaded.inj hbase, hname]
    rfl
  | store hinside hwork _ hserved hanswered _ hkey _ hsound hreplaces =>
    exact h.reply hb hwalks hclosed hnamed hn hr hinside hwork hserved hanswered hkey hsound
      hreplaces
  | drop hinside hwork hsound hreplaces =>
    exact h.drop hn hinside hwork hsound (hname ▸ hreplaces)
  | claim _ _ _ _ _ | pass _ => exact h.aside hn rfl h.sound rfl rfl h.orderly rfl rfl hguards

end Step

/-- The ledger has room for the visits of one more request, and does not know them yet. -/
theorem unclaimed (h : Tidy sound held served requests start notes log w)
    (hnamed : Named (held start.store))
    (hapart : Apart (graphFor served requests) (held start.store) log)
    (hroom : (persisted (graphFor served requests) log).length ≤ start.ledger.maxEntries)
    (hn : notes[i]? = some n) (hdues : n.dues = .unclaimed) :
    ((notes.flatMap Note.claimed ++ n.work.visits).map Visit.key).Nodup ∧
      (notes.flatMap Note.claimed ++ n.work.visits).length ≤ start.ledger.maxEntries := by
  have hnone : n.claimed = [] := by
    unfold Note.claimed
    rw [hdues]
  have hset : ((notes.set i { n with dues := .passed }).flatMap Note.claimed).Perm
      (notes.flatMap Note.claimed ++ n.work.visits) := flatMap_set_of_nil hn hnone
  have hsame : ((notes.set i { n with dues := .passed }).flatMap (·.work.visits)).Perm
      (notes.flatMap (·.work.visits)) := flatMap_set_of_eq hn rfl
  have hsub : ((notes.set i { n with dues := .passed }).flatMap Note.claimed).Sublist
      ((notes.set i { n with dues := .passed }).flatMap (·.work.visits)) :=
    List.Sublist.flatMap_right _ fun n _ => n.claimed_sublist
  have hwhole := hsame.trans h.whole.symm
  constructor
  · refine ((hset.map Visit.key).nodup_iff).mp (List.Nodup.sublist (hsub.map Visit.key) ?_)
    exact ((hwhole.map Visit.key).nodup_iff).mpr (nodup_keys h.story hnamed hapart)
  · calc (notes.flatMap Note.claimed ++ n.work.visits).length
        = ((notes.set i { n with dues := .passed }).flatMap Note.claimed).length :=
          hset.length_eq.symm
      _ ≤ ((notes.set i { n with dues := .passed }).flatMap (·.work.visits)).length :=
          hsub.length_le
      _ = (persisted (graphFor served requests) log).length := hwhole.length_eq
      _ ≤ start.ledger.maxEntries := hroom

/-- The visits of a request are those of the entry that it stored. -/
theorem entry_of_visit (h : Tidy sound held served requests start notes log w)
    (hn : notes[i]? = some n) {v : Visit} (hv : v ∈ n.work.visits) :
    ∃ base guarded, n.work = .stored base guarded ∧ ⟨i, base, guarded.reply.state⟩ ∈ log ∧
      v ∈ guarded.reply.stages.map (visitOf guarded.reply.state) ∧
      ∃ graph, graphFor served requests i = some graph ∧
        v ∈ (Entry.mk i base guarded.reply.state).visits graph := by
  have htold := h.told i n hn
  have haccounts := h.accounts i n hn
  cases hwork : n.work with
  | nothing | loaded base =>
    rw [hwork] at hv
    exact absurd hv List.not_mem_nil
  | stored base guarded =>
    rw [hwork] at hv htold haccounts
    have hmem : ⟨i, base, guarded.reply.state⟩ ∈ log.filter (·.job = i) :=
      haccounts ▸ List.mem_singleton_self _
    refine ⟨base, guarded, rfl, (List.mem_filter.mp hmem).1, hv, ?_⟩
    rw [htold, haccounts] at hv
    obtain ⟨e, he, hve⟩ := List.mem_flatMap.mp hv
    obtain rfl := List.mem_singleton.mp he
    cases hgraph : graphFor served requests i with
    | none =>
      dsimp only at hve
      rw [hgraph] at hve
      exact absurd hve List.not_mem_nil
    | some graph =>
      dsimp only at hve
      rw [hgraph] at hve
      exact ⟨graph, rfl, hve⟩

end Tidy

end Invariant

end Parley.Turn
