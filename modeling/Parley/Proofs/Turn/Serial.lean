import Parley.Proofs.Action.Turns
import Parley.Proofs.Turn.Whole
import Parley.Turn.Together

/-!
# Parley.Proofs.Turn.Serial — messages at several sites are processed as if one after the other

Several services, each with locks of its own, share a store that compares and swaps.  Messages of
one session are processed at all of them at once, and take turns between any two looks at the world.
`Serial`: the states that were stored one after the other are each the reply to one message in
exactly the state before.  `serial_of_run`: so it is in every run, and a message that has a reply
stored one state, or none if the conversation was completed, while one that fails stored none, but
where the state that it stored names a lead that cannot be shown.

`run_of_processTogether`: what a service does with several messages at a time is a run of a crew, so
that all that holds of messages that take turns in any order holds of them.
-/

namespace Parley.Turn

open Conversation (Interpreter State)
open Recovery (Guarded)
open Storage (Store Swapping heldVersion Replaces)
open Template (FlowGraph)
open Time (Clocked)

/-! ### Sites -/

/-- A store that several sites share, and what each of them keeps for itself. -/
structure Cluster (ε : Type) where
  store : Store
  sites : Nat → World ε

/-- A message, where it is processed, and with what. -/
structure Job (ε : Type) where
  site : Nat
  processor : Processor ε
  message : Inbound

namespace Cluster

variable {ε : Type}

/-- The world as a site sees it. -/
def view (c : Cluster ε) (site : Nat) : World ε := { c.sites site with store := c.store }

/-- The cluster after a step at a site. -/
def update (c : Cluster ε) (site : Nat) (w : World ε) : Cluster ε :=
  ⟨w.store, fun other => if other = site then w else c.sites other⟩

/-- The sites of some jobs. -/
def places (jobs : List (Job ε)) : Places (Cluster ε) (World ε) where
  view i c := c.view ((jobs[i]?.map Job.site).getD 0)
  update i c w := c.update ((jobs[i]?.map Job.site).getD 0) w

/-- Jobs that have not begun. -/
def crew [Clocked ε] (c : Cluster ε) (jobs : List (Job ε)) :
    Crew (Cluster ε) (World ε) Outcome :=
  ⟨c, jobs.map fun job => process job.processor job.message⟩

/-- Time passes, and anything else happens that leaves the store and the templates alone. -/
def Passes (c c' : Cluster ε) : Prop :=
  c'.store = c.store ∧
    ∀ site, (c'.sites site).registry.serves = (c.sites site).registry.serves

end Cluster

/-! ### Serial runs -/

variable {ε : Type} [Clocked ε]

/-- The entry is the reply to a job's message in exactly the state before, with the next version. -/
def Replies (jobs : List (Job ε)) (graph : FlowGraph) (e : Entry) : Prop :=
  e.before.any (·.completed) = false ∧ ∃ job decision guarded, jobs[e.job]? = some job ∧
    (execute job.processor job.message graph e.before decision).MayEnd (.ok guarded) ∧
    e.after = { guarded.reply.state with version := heldVersion e.before + 1 }

/-- The entries follow on one another, from a state to the last one stored. -/
inductive Serial (jobs : List (Job ε)) (graph : FlowGraph) (first : Option State) :
    List Entry → Option State → Prop
  | start : Serial jobs graph first [] first
  | store {log : List Entry} {e : Entry} : Serial jobs graph first log e.before →
    Replies jobs graph e → Serial jobs graph first (log ++ [e]) (some e.after)

/-- All states of a serial run. -/
def chain (first : Option State) (log : List Entry) : List (Option State) :=
  first :: log.map fun e => some e.after

section Serial

variable {jobs : List (Job ε)} {graph : FlowGraph} {first last base : Option State}
  {log : List Entry}

theorem chain_append (first : Option State) (log : List Entry) (e : Entry) :
    chain first (log ++ [e]) = chain first log ++ [some e.after] := by
  unfold chain
  rw [List.map_append]
  rfl

theorem Serial.last_mem (h : Serial jobs graph first log last) : last ∈ chain first log := by
  cases h with
  | start => exact List.mem_cons_self
  | store => exact chain_append .. ▸ List.mem_append_right _ (List.mem_singleton_self _)

theorem Replies.version {e : Entry} (h : Replies jobs graph e) :
    heldVersion (some e.after) = heldVersion e.before + 1 := by
  obtain ⟨-, job, decision, guarded, -, -, hafter⟩ := h
  rw [hafter]
  rfl

/-- Versions grow along a serial run. -/
theorem Serial.version_le (h : Serial jobs graph first log last) (hb : base ∈ chain first log) :
    heldVersion base ≤ heldVersion last := by
  induction h with
  | start => exact Int.le_of_eq (congrArg heldVersion (List.mem_singleton.mp hb))
  | @store log e hlog he ih =>
    have hnext := he.version
    rw [chain_append] at hb
    rcases List.mem_append.mp hb with hb | hb
    · have := ih hb
      omega
    · exact Int.le_of_eq (congrArg heldVersion (List.mem_singleton.mp hb))

/-- The last state is known by its version. -/
theorem Serial.eq_last (h : Serial jobs graph first log last) (hb : base ∈ chain first log)
    (hv : heldVersion base = heldVersion last) : base = last := by
  cases h with
  | start => exact List.mem_singleton.mp hb
  | @store log e hlog he =>
    have hnext := he.version
    rw [chain_append] at hb
    rcases List.mem_append.mp hb with hb | hb
    · have := hlog.version_le hb
      omega
    · exact List.mem_singleton.mp hb

end Serial

/-! ### The invariant -/

/-- A job fits with others: it is for one session and one template, its guard keeps it there, and what
it makes of a fair state is fair. -/
structure Fits (fair : State → Prop) (graph : FlowGraph) (name : String) (start : Cluster ε)
    (job : Job ε) : Prop where
  session : job.message.lockName = name
  fresh : job.message.prior = none
  served : (start.sites job.site).registry.serves job.message.templateId = .ok graph
  baseline : ∃ i : Interpreter, job.processor.guard.manager.baseline = Engine.baseline i
  keeps : Keeps job.processor.guard graph name
  preserves : Preserves fair job.processor job.message graph

section Invariant

variable {fair : State → Prop} {sound : Store → Prop} {held : Store → String → Option State}
  {graph : FlowGraph}
  {name : String} {jobs : List (Job ε)} {start c : Cluster ε} {notes : List Note}
  {log : List Entry} {i : Nat} {job : Job ε} {n n' : Note} {w : World ε}

/-- The store, the entries and the notes of all jobs go together. -/
structure Consistent (sound : Store → Prop) (held : Store → String → Option State)
    (graph : FlowGraph) (name : String) (jobs : List (Job ε)) (start : Cluster ε)
    (notes : List Note) (log : List Entry) (c : Cluster ε) : Prop where
  length : notes.length = jobs.length
  sound : sound c.store
  served : ∀ site, (c.sites site).registry.serves = (start.sites site).registry.serves
  serial : Serial jobs graph (held start.store name) log (held c.store name)
  home : ∀ s, some s ∈ chain (held start.store name) log → AtHome graph name s
  loaded : ∀ (i : Nat) (n : Note) (base : Option State), notes[i]? = some n →
    n.work = .loaded base → base ∈ chain (held start.store name) log
  accounts : ∀ (i : Nat) (n : Note), notes[i]? = some n → log.filter (·.job = i) = n.work.entries i

theorem Consistent.served_update (h : Consistent sound held graph name jobs start notes log c)
    {site : Nat} (hw : w.registry.serves = (c.view site).registry.serves) (other : Nat) :
    ((c.update site w).sites other).registry.serves = (start.sites other).registry.serves := by
  unfold Cluster.update
  dsimp only
  split_ifs with ho
  · rw [hw, ho]
    exact h.served site
  · exact h.served other

/-- A step that stores nothing. -/
theorem Consistent.still (h : Consistent sound held graph name jobs start notes log c)
    (hn : notes[i]? = some n) {site : Nat} (hsound : sound w.store)
    (hheld : held w.store = held c.store)
    (hserved : w.registry.serves = (c.view site).registry.serves)
    (hentries : n'.work.entries i = n.work.entries i)
    (hloaded : ∀ base, n'.work = .loaded base → base ∈ chain (held start.store name) log) :
    Consistent sound held graph name jobs start (notes.set i n')
      (log ++ entries held name i c.store w.store) (c.update site w) := by
  rw [entries_of_same hheld, List.append_nil]
  refine ⟨by rw [List.length_set, h.length], hsound, h.served_update hserved, ?_, h.home, ?_, ?_⟩
  · rw [show held (c.update site w).store = held c.store from hheld]
    exact h.serial
  · intro j g base hj hwork
    rcases Session.of_getElem?_set hj with ⟨-, rfl⟩ | ⟨-, hj⟩
    · exact hloaded base hwork
    · exact h.loaded j g base hj hwork
  · intro j g hj
    rcases Session.of_getElem?_set hj with ⟨rfl, rfl⟩ | ⟨-, hj⟩
    · exact (h.accounts i n hn).trans hentries.symm
    · exact h.accounts j g hj

/-- What a job answers when `base` is stored, and it is stored in its place. -/
theorem replies_of_answered (hg : graph.Closed) (hfits : Fits fair graph name start job)
    {base state : Option State} {guarded : Guarded}
    (hbase : ∀ s, base = some s → AtHome graph name s)
    (hanswered : Answered job.processor job.message graph base state guarded) :
    state = base ∧ AtHome graph name guarded.reply.state ∧ ∃ decision,
      (execute job.processor job.message graph base decision).MayEnd (.ok guarded) := by
  obtain ⟨⟨now, -, hresumed⟩, decision, hexecute⟩ := hanswered
  have hstate := eq_of_mapM (fun s hs => (hbase s hs).resumes) hresumed
  rw [hstate] at hexecute
  obtain ⟨interpreter, hb⟩ := hfits.baseline
  have hname := hfits.session
  subst hname
  exact ⟨hstate, atHome_of_execute hb hg hfits.keeps hbase hexecute, decision, hexecute⟩

/-- A step that stores the reply to what was loaded: nobody stored anything in between. -/
theorem Consistent.store (h : Consistent sound held graph name jobs start notes log c)
    (hg : graph.Closed) (hjob : jobs[i]? = some job) (hfits : Fits fair graph name start job)
    (hn : notes[i]? = some n) {base state : Option State} {guarded : Guarded} {name' : String}
    (hwork : n.work = .loaded base)
    (hanswered : Answered job.processor job.message graph base state guarded)
    (hopen : state.any (·.completed) = false)
    (hname : guarded.reply.state.key.join = .ok name')
    (hversion : heldVersion (held c.store name') = heldVersion base) (hsound : sound w.store)
    (hreplaces : Replaces (held c.store) (held w.store) name'
      (some (storedAt guarded (heldVersion base + 1)).reply.state))
    (hserved : w.registry.serves = (c.view job.site).registry.serves) :
    Consistent sound held graph name jobs start
      (notes.set i { n with work := .stored base (storedAt guarded (heldVersion base + 1)) })
      (log ++ entries held name i c.store w.store) (c.update job.site w) := by
  have hmem := h.loaded i n base hn hwork
  obtain ⟨rfl, hhome, decision, hexecute⟩ := replies_of_answered hg hfits
    (fun s hs => h.home s (hs ▸ hmem)) hanswered
  obtain rfl : name = name' := Except.ok.inj (hhome.named.symm.trans hname)
  have hlast : state = held c.store name := h.serial.eq_last hmem hversion.symm
  have hserial : Serial jobs graph (held start.store name) log state := hlast ▸ h.serial
  have hreplies : Replies jobs graph
      ⟨i, state, (storedAt guarded (heldVersion state + 1)).reply.state⟩ :=
    ⟨hopen, job, decision, guarded, hjob, hexecute, rfl⟩
  have hentries : entries held name i c.store w.store =
      [⟨i, state, (storedAt guarded (heldVersion state + 1)).reply.state⟩] := by
    rw [entries_of_next hreplaces.1 (by rw [hversion]; rfl), ← hlast]
  rw [hentries]
  refine ⟨by rw [List.length_set, h.length], hsound, h.served_update hserved, ?_, ?_, ?_, ?_⟩
  · rw [show held (c.update job.site w).store name = some _ from hreplaces.1]
    exact .store hserial hreplies
  · intro s hs
    rw [chain_append] at hs
    rcases List.mem_append.mp hs with hs | hs
    · exact h.home s hs
    · rw [Option.some.inj (List.mem_singleton.mp hs)]
      exact ⟨hhome.named, hhome.resumes⟩
  · intro j g base' hj hg'
    rw [chain_append]
    rcases Session.of_getElem?_set hj with ⟨-, rfl⟩ | ⟨-, hj⟩
    · exact nomatch hg'
    · exact List.mem_append_left _ (h.loaded j g base' hj hg')
  · intro j g hj
    rw [List.filter_append]
    rcases Session.of_getElem?_set hj with ⟨rfl, rfl⟩ | ⟨hij, hj⟩
    · rw [h.accounts i n hn, hwork, List.filter_cons_of_pos (by exact decide_eq_true rfl)]
      rfl
    · rw [h.accounts j g hj, List.filter_cons_of_neg (by simpa using hij), List.filter_nil,
        List.append_nil]

/-- **Every step of a job keeps the run serial.** -/
theorem Consistent.step (h : Consistent sound held graph name jobs start notes log c)
    (hg : graph.Closed) (hjob : jobs[i]? = some job) (hfits : Fits fair graph name start job)
    (hn : notes[i]? = some n)
    (hstep : Step sound held (start.sites job.site).registry.serves job.processor
      (.message job.message) n (c.view job.site) n' w) :
    Consistent sound held graph name jobs start (notes.set i n')
      (log ++ entries held name i c.store w.store) (c.update job.site w) := by
  have hloaded (base : Option State) (hwork : n.work = .loaded base) :=
    h.loaded i n base hn hwork
  cases hstep with
  | idle halike =>
    obtain ⟨hsound, hheld⟩ := halike.store h.sound
    exact h.still hn hsound hheld halike.registry rfl hloaded
  | enter _ | ask _ | grasp _ _ | leave _ | claim _ _ _ _ _ | pass _ =>
    exact h.still hn h.sound rfl rfl rfl hloaded
  | load _ hfree _ halike =>
    obtain ⟨hsound, hheld⟩ := halike.store h.sound
    refine h.still hn hsound hheld halike.registry (hfree.entries i).symm fun base hbase => ?_
    rw [← Work.loaded.inj hbase, hfits.session]
    exact h.serial.last_mem
  | store _ hwork _ hserved hanswered hopen hname hversion hsound hreplaces =>
    rw [hfits.served] at hserved
    obtain rfl := Except.ok.inj hserved
    exact h.store hg hjob hfits hn hwork hanswered hopen hname hversion hsound hreplaces rfl

end Invariant

/-! ### Runs -/

/-- What a job that is over accounts for: one entry if it has an outcome, unless the conversation
was completed before; and none if it failed, unless this is for the lead that its entry names. -/
def Accounts (jobs : List (Job ε)) (graph : FlowGraph) (first : Option State) (log : List Entry)
    (i : Nat) : Except Fault Outcome → Prop
  | .ok outcome =>
    (∃ before, log.filter (·.job = i) = [⟨i, before, outcome.state⟩]) ∨
      log.filter (·.job = i) = [] ∧ ∃ s job decision guarded, jobs[i]? = some job ∧
        some s ∈ chain first log ∧ s.completed = true ∧
        (execute job.processor job.message graph (some s) decision).MayEnd (.ok guarded) ∧
        outcome.state = guarded.reply.state
  | .error f =>
    log.filter (·.job = i) = [] ∨
      ∃ e, log.filter (·.job = i) = [e] ∧ Stages.findLead e.after = .error f

section Run

variable {fair : State → Prop} {sound : Store → Prop} {held : Store → String → Option State}
  {graph : FlowGraph}
  {name : String} {jobs : List (Job ε)} {start : Cluster ε} {c : Crew (Cluster ε) (World ε) Outcome}
  {notes : List Note} {log : List Entry} {i : Nat} {job : Job ε} {n : Note}

/-- The pact of a job. -/
def pactOf (sound : Store → Prop) (held : Store → String → Option State) (start : Cluster ε)
    (job : Job ε) : Pact (World ε) Note :=
  conduct sound held (start.sites job.site).registry.serves job.processor (.message job.message)

/-- How the note of a job is when the job is over. -/
def JobEnded (start : Cluster ε) (job : Job ε) : Note → Except Fault Outcome → Prop :=
  Ended (start.sites job.site).registry.serves job.processor job.message

/-- A note belongs to a job. -/
theorem Consistent.jobOf {c : Cluster ε}
    (h : Consistent sound held graph name jobs start notes log c)
    (hfits : ∀ job ∈ jobs, Fits fair graph name start job) (hn : notes[i]? = some n) :
    ∃ job, jobs[i]? = some job ∧ Fits fair graph name start job := by
  obtain ⟨job, hjob⟩ := Crew.entry_of_note h.length hn
  exact ⟨job, hjob, hfits job (List.mem_of_getElem? hjob)⟩

theorem Consistent.accounts_of_ended {c : Cluster ε}
    (h : Consistent sound held graph name jobs start notes log c) (hg : graph.Closed)
    (hjob : jobs[i]? = some job) (hfits : Fits fair graph name start job) (hn : notes[i]? = some n)
    {o : Except Fault Outcome} (ho : JobEnded start job n o) :
    Accounts jobs graph (held start.store name) log i o := by
  have haccounts := h.accounts i n hn
  cases o with
  | error f =>
    rcases ho with hspared | hunsent
    · exact .inl (haccounts.trans (hspared.work.entries i))
    · obtain ⟨_, guarded, -, hfinished, hlead⟩ := hunsent.work
      generalize n.work = work at hfinished haccounts
      cases hfinished with
      | @stored base => exact .inr ⟨⟨i, base, guarded.reply.state⟩, haccounts, hlead⟩
      | idle _ _ => exact .inl haccounts
  | ok outcome =>
    obtain ⟨graph', guarded, hserved, hfinished, hstate⟩ := ho.work
    rw [hfits.served] at hserved
    obtain rfl := Except.ok.inj hserved
    generalize hwork : n.work = work at hfinished haccounts
    cases hfinished with
    | @stored base =>
      refine .inl ⟨base, ?_⟩
      rw [haccounts, hstate]
      rfl
    | @idle base state _ hanswered hcompleted =>
      have hmem := h.loaded i n base hn hwork
      obtain ⟨rfl, -, decision, hexecute⟩ := replies_of_answered hg hfits
        (fun s hs => h.home s (hs ▸ hmem)) hanswered
      cases state with
      | none => exact nomatch hcompleted
      | some s =>
        exact .inr ⟨haccounts, s, job, decision, guarded, hjob, hmem, hcompleted, hexecute, hstate⟩

/-- **Messages of one session are processed as if one after the other**, at any number of sites that
share a store, whatever turns they take.  The states stored are a serial run: each is the guarded
reply to one message in exactly the state stored before, with the next version.  A message that has
an outcome stored exactly one of them, the one in its outcome, unless it found the conversation
completed and stored none.  A message that failed stored none, or it stored one whose lead cannot be
shown, and failed for that.  The store may be that of a process, or a server if the template is whole
(`swapping_whole`, `preserves_whole`). -/
theorem serial_of_run (hstore : Swapping fair sound held) {document templateId version : Value}
    (hread : Template.readGraph document templateId version = .ok graph)
    (hfits : ∀ job ∈ jobs, Fits fair graph name start job) (hsound : sound start.store)
    (hhome : ∀ s, held start.store name = some s → AtHome graph name s)
    (hrun : Crew.Run (Cluster.places jobs) Cluster.Passes
      (fun i c c' => entries held name i c.store c'.store) (start.crew jobs) log c) :
    Serial jobs graph (held start.store name) log (held c.world.store name) ∧
      ∀ i o, c.tasks[i]? = some (.finished o) →
        Accounts jobs graph (held start.store name) log i o := by
  have hg := Template.closed_of_readGraph hread
  have hfirst : Consistent sound held graph name jobs start (jobs.map fun _ => Note.fresh) []
      start := by
    refine ⟨List.length_map _, hsound, fun _ => rfl, .start, fun s hs => ?_, ?_, ?_⟩
    · exact hhome s (List.mem_singleton.mp hs).symm
    · intro i n base hn hwork
      obtain ⟨job, -, rfl⟩ := List.mem_map.mp (List.mem_of_getElem? hn)
      exact nomatch hwork
    · intro i n hn
      obtain ⟨job, -, rfl⟩ := List.mem_map.mp (List.mem_of_getElem? hn)
      rfl
  have hready : Crew.Aligned (Crew.pactsOf jobs (pactOf sound held start))
      (Crew.endsOf jobs (JobEnded start)) (jobs.map fun _ => Note.fresh) (start.crew jobs).tasks := by
    refine Crew.aligned_map fun job hjob => ?_
    have hfit := hfits job hjob
    refine leads_process hstore hfit.fresh (fun graph' hserved => ?_) .fresh ⟨rfl, rfl, trivial⟩
    rw [hfit.served] at hserved
    obtain rfl := Except.ok.inj hserved
    exact hfit.preserves
  have hkept : ∃ notes, Consistent sound held graph name jobs start notes log c.world ∧
      Crew.Aligned (Crew.pactsOf jobs (pactOf sound held start)) (Crew.endsOf jobs (JobEnded start))
        notes c.tasks := by
    refine Crew.keeps hfirst hready (fun h hn => ?_) (fun h hn hm => ?_) (fun h hpass => ?_) hrun
    · obtain ⟨job, hjob, -⟩ := h.jobOf hfits hn
      rw [Crew.pactsOf_eq hjob]
      refine ⟨h.sound, ?_⟩
      simp only [Cluster.places, hjob, Option.map_some, Option.getD_some]
      exact h.served job.site
    · obtain ⟨job, hjob, hfit⟩ := h.jobOf hfits hn
      rw [Crew.pactsOf_eq hjob] at hm
      simp only [Cluster.places, hjob, Option.map_some, Option.getD_some] at hm ⊢
      exact h.step hg hjob hfit hn hm
    · obtain ⟨hsame, hserves⟩ := hpass
      refine ⟨h.length, hsame ▸ h.sound, fun site => (hserves site).trans (h.served site), ?_,
        h.home, h.loaded, h.accounts⟩
      rw [hsame]
      exact h.serial
  obtain ⟨notes, hinv, haligned⟩ := hkept
  refine ⟨hinv.serial, fun i o ho => ?_⟩
  obtain ⟨n, hn, hended⟩ := haligned i _ ho
  obtain ⟨job, hjob, hfit⟩ := hinv.jobOf hfits hn
  exact hinv.accounts_of_ended hg hjob hfit hn (hended job hjob)

end Run

/-! ### Side by side -/

section Together

variable {τ : Type} {sound : Store → Prop} {held : Store → String → Option State}

/-- Processing begins with a look at the clock. -/
theorem looks_process (p : Processor ε) (m : Inbound) : (process p m).Looks := fun _ => rfl

theorem alike_setClock (w : World ε) (clock : Time.Clock) :
    Alike sound held w (Clocked.setClock w clock) := .of_parts rfl rfl rfl rfl rfl

/-- **A service that processes messages side by side gives them turns in some order**, and time
passes in between. -/
theorem run_of_processTogether (seen : Nat → World ε → World ε → List τ) (p : Processor ε)
    (messages : List Inbound) (w : World ε) :
    ∃ trace c, Crew.Run Places.whole (Alike sound held) seen ⟨w, messages.map (process p)⟩ trace c ∧
      c.world = (processTogether p messages w).2 ∧
      ∀ o ∈ (processTogether p messages w).1, ∃ i : Nat, c.tasks[i]? = some (.finished o) := by
  obtain ⟨trace, c, hrun, hworld, houtcomes⟩ := Schedule.run_of_await seen
    (fun w _ => alike_setClock w _) (looks_process p) w messages (List.range messages.length)
    turnLimit
  refine ⟨trace, c, hrun, hworld, fun o ho => ?_⟩
  obtain ⟨i, -, hi⟩ := List.mem_filterMap.mp ho
  exact ⟨i, houtcomes i o hi⟩

end Together

/-! ### A greeting -/

section Greeting

/-- Sites that share a server. -/
def greetingCluster : Cluster Time.Clock := ⟨emptyServer, fun _ => greetingSite⟩

/-- The same message comes three times, at two sites. -/
def greetingJobs : List (Job Time.Clock) :=
  [⟨0, greeter, hello⟩, ⟨1, greeter, hello⟩, ⟨1, greeter, hello⟩]

/-- Two messages take turns, and the third one comes after them. -/
def greetingRun : List Entry × Crew (Cluster Time.Clock) (World Time.Clock) Outcome :=
  (greetingCluster.crew greetingJobs).drive (Cluster.places greetingJobs)
    (fun i c c' => entries Storage.onRemote "acme:ann:1" i c.store c'.store)
    ((List.replicate 110 [0, 1]).flatten ++ List.replicate 90 2)

theorem fits_greeting {graph : FlowGraph} (hread : Template.readGraph greetingTemplate
    (.text "greeting") (.text "1") = .ok graph) (hg : graph.Whole Value.noReals)
    (job : Job Time.Clock) (h : job ∈ greetingJobs) :
    Fits (State.Whole Value.noReals) graph "acme:ann:1" greetingCluster job := by
  have hequipped : Equipped greeter.guard := equipped_processor greetingBlueprint deadLine
  have hserved := serves_greeting hread
  have hkeeps : Keeps greeter.guard graph "acme:ann:1" :=
    hequipped.walks.keeps (Template.closed_of_readGraph hread) _
  simp only [greetingJobs, List.mem_cons, List.not_mem_nil, or_false] at h
  have hpreserves (m : Inbound) : Preserves (State.Whole Value.noReals) greeter m graph :=
    preserves_whole (i := {}) Value.holdable_none rfl hequipped hg
  rcases h with rfl | rfl | rfl <;>
    exact ⟨rfl, rfl, hserved, ⟨{}, rfl⟩, hkeeps, hpreserves hello⟩

theorem greeting_run :
    (greetingRun.1.map fun e => (e.job, e.after.version)) = [(0, 1), (1, 2)] ∧
      greetingRun.2.tasks.map (·.isOver) = [true, true, true] := by
  decide +kernel

/-- The first message is asked a question, the second one finds that out too late and answers, and
the third one finds the conversation completed. -/
theorem serial_of_run_greeting : ∃ graph log c,
    Template.readGraph greetingTemplate (.text "greeting") (.text "1") = .ok graph ∧
    Crew.Run (Cluster.places greetingJobs) Cluster.Passes
      (fun i c c' => entries Storage.onRemote "acme:ann:1" i c.store c'.store)
      (greetingCluster.crew greetingJobs) log c ∧
    (log.map fun e => (e.job, e.after.version)) = [(0, 1), (1, 2)] ∧
    (c.tasks.map (·.isOver)) = [true, true, true] ∧
    Serial greetingJobs graph none log (Storage.onRemote c.world.store "acme:ann:1") ∧
    ∀ i o, c.tasks[i]? = some (.finished o) → Accounts greetingJobs graph none log i o := by
  have hwhole : (Template.readGraph greetingTemplate (.text "greeting")
      (.text "1")).toOption.any (fun graph => graph.Whole Value.noReals) = true := by decide +kernel
  cases hread : Template.readGraph greetingTemplate (.text "greeting") (.text "1") with
  | error f =>
    rw [hread] at hwhole
    exact nomatch hwhole
  | ok graph =>
    have hrun : Crew.Run (Cluster.places greetingJobs) Cluster.Passes
        (fun i c c' => entries Storage.onRemote "acme:ann:1" i c.store c'.store)
        (greetingCluster.crew greetingJobs) greetingRun.1 greetingRun.2 := Crew.run_drive _
    rw [hread] at hwhole
    obtain ⟨hserial, haccounts⟩ := serial_of_run (swapping_whole Value.holdable_none) hread
      (fits_greeting hread (of_decide_eq_true hwhole)) (onServer_empty _)
      (fun s hs => nomatch hs) hrun
    obtain ⟨hlog, hover⟩ := greeting_run
    exact ⟨graph, greetingRun.1, greetingRun.2, rfl, hrun, hlog, hover, hserial, haccounts⟩

def towerCluster : Cluster Time.Clock := ⟨.ofMemory .empty, fun _ => towerSite⟩

/-- **A message that fails and has stored a state**: the lead that the state names has too many
digits. -/
theorem logged_of_failed :
    let (log, c) := (towerCluster.crew [⟨0, greeter, climb⟩]).drive
      (Cluster.places [⟨0, greeter, climb⟩])
      (fun i c c' => entries Storage.inMemory "acme:ann:1" i c.store c'.store) (List.replicate 110 0)
    log.map (fun e => (e.job, e.after.version)) = [(0, 1)] ∧
      c.tasks.map Action.fault? = [some (.tooLong none)] := by
  decide +kernel

end Greeting

end Parley.Turn
