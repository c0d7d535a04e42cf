import Parley.Proofs.Template.Activation
import Parley.Proofs.Turn.Home
import Parley.Proofs.Turn.Lineage

/-!
# Parley.Proofs.Turn.Silent — a completed conversation stays closed

The engines of a service do nothing with a completed conversation.  But a message that finds no
place for the stored state in its template starts a new conversation, and does not ask whether the
old one was completed (`reopened_of_lost_place`).  `Over`: the state is stored, and the template has
its place.  `silent_of_run`: as long as the template keeps the place of a completed state, no message
of the session says anything, stores anything, or schedules an advance.
-/

namespace Parley.Turn

open Conversation (Interpreter State)
open Pact (Ending)
open Recovery (Guarded)
open Storage (Holding Store)
open Template (FlowGraph Registry readGraph)
open Time (Clocked Moment Seconds)

variable {ε : Type}

/-! ### The pact -/

/-- Whatever graph the template has, the state is at a node of it. -/
def Stands (templateId : String) (s : State) (r : Registry) : Prop :=
  ∀ graph, r.serves templateId = .ok graph → Resumes graph s

section Hush

variable (sound : Store → Prop) (held : Store → String → Option State) (templateId name : String)
  (s : State)

/-- The conversation is over: the state is stored under the name, and the template has its place. -/
structure Over (w : World ε) : Prop where
  sound : sound w.store
  kept : held w.store name = some s
  stands : Stands templateId s w.registry

/-- The same is stored, nothing is scheduled, and the template keeps the place. -/
structure Hushed (w w' : World ε) : Prop where
  store : sound w.store → sound w'.store ∧ held w'.store = held w.store
  stands : Stands templateId s w.registry → Stands templateId s w'.registry
  ledger : w'.ledger = w.ledger
  advances : w'.advances = w.advances

/-- While the conversation is over, nothing happens. -/
def hush : Pact (World ε) Unit where
  sees _ := Over sound held templateId name s
  moves _ w _ w' := Hushed sound held templateId s w w'

end Hush

variable {fair : State → Prop} {sound : Store → Prop} {held : Store → String → Option State}
  {templateId name : String} {s : State}

namespace Hushed

variable {u v w w' : World ε}

theorem of_same (hstore : w'.store = w.store) (hregistry : w'.registry = w.registry)
    (hledger : w'.ledger = w.ledger) (hadvances : w'.advances = w.advances) :
    Hushed sound held templateId s w w' :=
  ⟨fun h => by rw [hstore]; exact ⟨h, rfl⟩, fun h => by rwa [hregistry], hledger, hadvances⟩

theorem refl (w : World ε) : Hushed sound held templateId s w w := of_same rfl rfl rfl rfl

theorem trans (h : Hushed sound held templateId s u v) (h' : Hushed sound held templateId s v w) :
    Hushed sound held templateId s u w := by
  refine ⟨fun hu => ?_, fun hu => h'.stands (h.stands hu), h'.ledger.trans h.ledger,
    h'.advances.trans h.advances⟩
  obtain ⟨hv, heq⟩ := h.store hu
  obtain ⟨hw, heq'⟩ := h'.store hv
  exact ⟨hw, heq'.trans heq⟩

theorem load (hstore : Holding fair sound held) (now : Moment) (key : Conversation.SessionKey)
    (w : World ε) :
    Hushed sound held templateId s w { w with store := (w.store.load now key).2 } := by
  refine ⟨fun hs => ?_, fun h => h, rfl, rfl⟩
  obtain ⟨hsound, hheld, -⟩ := hstore.load now key hs
  exact ⟨hsound, hheld⟩

theorem registry {registry : Registry} (h : Stands templateId s registry) (w : World ε) :
    Hushed sound held templateId s w { w with registry := registry } :=
  ⟨fun hs => ⟨hs, rfl⟩, fun _ => h, rfl, rfl⟩

instance : Lockless (ε := ε) (Hushed sound held templateId s) where
  of_parts hs hr hl _ ha := of_same hs hr hl ha
  of_locks _ _ := of_same rfl rfl rfl rfl

/-- A reply without stage visits schedules nothing. -/
theorem idle_schedule {guarded : Guarded} (h : guarded.reply.stages = []) :
    (schedule guarded : Action (World ε) Unit).Idle (Hushed sound held templateId s) := by
  unfold schedule Stages.passOn
  rw [h]
  cases Stages.findLead guarded.reply.state with
  | ok lead =>
    -- two looks: at the ledger, and at what was scheduled before
    exact Action.idle_look fun v => ⟨.of_same rfl rfl rfl rfl, fun v =>
      ⟨.of_same rfl rfl rfl (List.append_nil v.advances), trivial⟩⟩
  | error f => exact Action.idle_look fun v => ⟨.of_same rfl rfl rfl rfl, trivial⟩

end Hushed

theorem ignores_hush :
    (hush (ε := ε) sound held templateId name s).Ignores (Hushed sound held templateId s) :=
  ⟨Hushed.refl, Hushed.trans, fun _ h => h⟩

theorem Over.hushed {w w' : World ε} (h : Over sound held templateId name s w)
    (hmove : Hushed sound held templateId s w w') : Over sound held templateId name s w' := by
  obtain ⟨hsound, hheld⟩ := hmove.store h.sound
  exact ⟨hsound, by rw [hheld]; exact h.kept, hmove.stands h.stands⟩

/-! ### Messages -/

theorem leads_place :
    (hush (ε := ε) sound held templateId name s).Leads (fun _ => True) (graphOf templateId)
      (Ending (fun _ => True) fun _ graph => Resumes graph s) := by
  refine leads_graphOf_of ignores_hush fun n w _ hw => ⟨n, .refl w, fun graph registry hfetch => ?_⟩
  refine ⟨hw.stands graph (Registry.serves_of_fetch hfetch), Hushed.registry fun g hg => ?_⟩
  rw [Registry.serves_fetch hfetch] at hg
  exact hw.stands g hg

variable [Clocked ε]

section Answered

variable {p : Processor ε} {i : Interpreter} {m : Inbound} {graph : FlowGraph} {s : State}
  {base state : Option State} {guarded : Guarded}

/-- A guard at rest, on any path, does nothing with a completed conversation. -/
theorem idle_of_execute (hb : p.guard.manager.baseline = Engine.baseline i)
    (hequipped : Equipped p.guard) {decision : Routing.Decision} (hs : s.completed = true)
    (h : (execute p m graph (some s) decision).MayEnd (.ok guarded)) :
    guarded.reply = .idle s := by
  rcases reply_of_execute hb h with ⟨now, -, hstep⟩ | ⟨-, modules, object, hleave⟩
  · exact idle_of_step hs hstep
  · obtain ⟨setup, limit, hnew, hmodules⟩ := hequipped
    have hrests : Rests setup.engine := by
      refine Enhanced.rests_engine fun module hmodule => ?_
      rcases hmodules module hmodule with ⟨config, rfl⟩ | ⟨config, normalizer, rfl⟩
      · exact Enhanced.rests_navigationModule config
      · exact Enhanced.rests_captureModule config normalizer
    rw [hnew] at hleave
    exact hrests _ s _ rfl hs (Action.mayLeave_inside hleave).2

/-- A completed conversation that is still at a place of the graph is where the turn starts, and
where it ends. -/
theorem idle_of_answered (hb : p.guard.manager.baseline = Engine.baseline i)
    (hequipped : Equipped p.guard) (hs : s.completed = true) (hresumes : Resumes graph s)
    (h : Answered p m graph (some s) state guarded) :
    state = some s ∧ guarded.reply = .idle s := by
  obtain ⟨now, -, hresumed⟩ := h.resumed
  obtain ⟨decision, hreplied⟩ := h.replied
  have hstate : state = some s := eq_of_mapM (fun s' hs' => Option.some.inj hs' ▸ hresumes) hresumed
  rw [hstate] at hreplied
  exact ⟨hstate, idle_of_execute hb hequipped hs hreplied⟩

end Answered

section Message

variable {p : Processor ε} {i : Interpreter} {m : Inbound} {graph : FlowGraph}

variable (hstore : Holding fair sound held) (hname : m.lockName = name) (hprior : m.prior = none)
include hstore hname hprior

theorem leads_finding (attempt : Nat) :
    (hush (ε := ε) sound held templateId name s).Leads (fun _ => True)
      (load m attempt : Action (World ε) (Option State))
      (Ending (fun _ => True) fun _ base => base = some s) := by
  refine leads_load_of (J := fun base _ => base = some s) ignores_hush
    (fun _ hsome => nomatch hprior.symm.trans hsome)
    (fun now => Pact.leads_tryPart fun n w _ hw => ⟨n, .load hstore now m.key w, ?_⟩) attempt
  cases hanswer : (w.store.load now m.key).1 with
  | error f => trivial
  | ok base =>
    obtain ⟨-, -, hbase⟩ := hstore.load now m.key hw.sound
    have hfound := hbase base m.lockName m.key_join hanswer
    rw [hname] at hfound
    exact hfound.trans hw.kept

variable (hb : p.guard.manager.baseline = Engine.baseline i) (hequipped : Equipped p.guard)
  (hs : s.completed = true) (htemplate : m.templateId = templateId)
include hb hequipped hs

theorem leads_resting (hresumes : Resumes graph s) (start : Seconds) (left attempt : Nat) :
    (hush sound held templateId name s).Leads (fun _ => True)
      (tryRepeatedly p m graph start left attempt)
      (Ending (fun _ => True) fun _ settled => settled.guarded.reply = .idle s) := by
  refine leads_tryRepeatedly (J := fun base _ => base = some s)
    (K := fun guarded _ => guarded.reply = .idle s) ignores_hush (Hushed.load hstore)
    (leads_finding hstore hname hprior) (fun _ _ _ => trivial)
    (fun {base state guarded} n hanswered _ hbase => ?_)
    (fun {base state guarded} hanswered hopen n hbase => ?_) start left attempt
  · rw [hbase] at hanswered
    exact (idle_of_answered hb hequipped hs hresumes hanswered).2
  -- a turn that starts with the completed state does not come to store anything
  · rw [hbase] at hanswered
    rw [(idle_of_answered hb hequipped hs hresumes hanswered).1, Option.any_some, hs] at hopen
    exact nomatch hopen

include htemplate

/-- **A message for a conversation that is over does nothing.** -/
theorem leads_nothing :
    (hush sound held templateId name s).Leads (fun _ => True) (process p m)
      (Ending (fun _ => True) fun _ outcome => outcome.outputs = [] ∧ outcome.state = s) := by
  subst htemplate
  refine (leads_process_of (p := p) (E := fun _ _ => True)
    (K := fun guarded _ => guarded.reply = .idle s) ignores_hush leads_place
    (fun graph start n hresumes => ?_) fun guarded _ hidle => Hushed.idle_schedule ?_).mono
    fun n o hn => ?_
  · exact leads_resting hstore hname hprior hb hequipped hs hresumes start _ 0 n trivial
  · rw [hidle]
    rfl
  · cases o with
    | error f => trivial
    | ok outcome =>
      obtain ⟨guarded, hidle, hstate, houtputs⟩ := hn
      rw [hidle] at hstate houtputs
      exact ⟨houtputs, hstate⟩

end Message

/-! ### Registrations -/

section Register

variable {t : Service.TemplateRequest} {id : String}

/-- The state is at a node of the graph of the template that is handed in, if it is the one. -/
def KeepsPlace (templateId : String) (s : State) (id : String) (t : Service.TemplateRequest) :
    Prop :=
  id = templateId → ∀ version graph, Registry.versionFor t.document t.version = .ok version →
    readGraph t.document (.text id) (.text version) = .ok graph → Resumes graph s

theorem stands_register {r r' : Registry} {graph : FlowGraph} (hstands : Stands templateId s r)
    (hkeeps : KeepsPlace templateId s id t)
    (h : r.register id t.document t.version = .ok (graph, r')) : Stands templateId s r' := by
  by_cases hid : templateId = id
  · subst hid
    intro g hg
    rw [Registry.serves_register h fun _ => Template.versionFor_ne_empty] at hg
    obtain ⟨version, -, hversion, hread, -⟩ := Registry.register_eq_ok h
    exact Except.ok.inj hg ▸ hkeeps rfl version graph hversion hread
  · intro g hg
    rw [Registry.serves_register_of_ne h hid] at hg
    exact hstands g hg

omit [Clocked ε] in
theorem leads_placing (hkeeps : KeepsPlace templateId s id t) :
    (hush (ε := ε) sound held templateId name s).Leads (fun _ => True) (Service.putTemplate id t)
      (Ending (fun _ => True) fun _ _ => True) :=
  leads_putTemplate_of ignores_hush fun _ _ _ hw _ _ hregister =>
    Hushed.registry (stands_register hw.stands hkeeps hregister)

end Register

/-! ### Runs -/

section Run

variable {p : Processor ε} {i : Interpreter} {errands : List Errand} {start : World ε}
  {trace : List (Crew.Move (World ε))} {c : Crew (World ε) (World ε) (Option Outcome)}

/-- What may come after a conversation is over: messages of its session that bring no state along,
and templates that keep its place. -/
def Later (templateId name : String) (s : State) : Errand → Prop
  | .request (.message m) => m.lockName = name ∧ m.templateId = templateId ∧ m.prior = none
  | .request (.reset _) => False
  | .register id t => KeepsPlace templateId s id t

/-- The step stores nothing, and schedules nothing. -/
structure Idles (held : Store → String → Option State) (v : Crew.Move (World ε)) : Prop where
  records : held v.after.store = held v.before.store
  ledger : v.after.ledger = v.before.ledger
  advances : v.after.advances = v.before.advances

/-- How an errand may end: the outcome of a message has no outputs, and the state as it was. -/
def Quits (s : State) : Unit → Except Fault (Option Outcome) → Prop :=
  Ending (fun _ => True) fun _ outcome? =>
    ∀ outcome, outcome? = some outcome → outcome.outputs = [] ∧ outcome.state = s

/-- The conversation is over, and every step so far was idle. -/
structure Shut (sound : Store → Prop) (held : Store → String → Option State)
    (templateId name : String) (s : State) (errands : List Errand) (notes : List Unit)
    (trace : List (Crew.Move (World ε))) (w : World ε) : Prop where
  length : notes.length = errands.length
  ended : Over sound held templateId name s w
  idle : ∀ v ∈ trace, held v.before.store name = some s ∧ Idles held v

variable {notes : List Unit} {w w' : World ε} {job : Nat}

omit [Clocked ε] in
theorem shut_start (h : Over sound held templateId name s w) :
    Shut sound held templateId name s errands (errands.map fun _ => ()) [] w :=
  ⟨List.length_map _, h, fun _ hv => absurd hv List.not_mem_nil⟩

omit [Clocked ε] in
theorem Shut.step (h : Shut sound held templateId name s errands notes trace w)
    (hmove : Hushed sound held templateId s w w') (n : Unit) :
    Shut sound held templateId name s errands (notes.set job n) (trace ++ Crew.record job w w')
      w' := by
  refine ⟨(List.length_set ..).trans h.length, h.ended.hushed hmove, fun v hv => ?_⟩
  rcases List.mem_append.mp hv with hv | hv
  · exact h.idle v hv
  · rw [List.mem_singleton.mp hv]
    exact ⟨h.ended.kept, (hmove.store h.ended.sound).2, hmove.ledger, hmove.advances⟩

variable (hstore : Holding fair sound held) (hb : p.guard.manager.baseline = Engine.baseline i)
  (hequipped : Equipped p.guard) (hs : s.completed = true)
include hstore hb hequipped hs

theorem leads_later {e : Errand} (he : Later templateId name s e) :
    (hush sound held templateId name s).Leads (fun _ => True) (e.serve p) (Quits s) := by
  cases e with
  | register id t =>
    refine (leads_placing he).bind (fun _ => ?_) fun _ h => h
    exact Pact.leads_finished fun _ _ _ h => nomatch h
  | request r =>
    cases r with
    | message m =>
      obtain ⟨hname, htemplate, hprior⟩ := he
      refine (leads_nothing hstore hname hprior hb hequipped hs htemplate).bind (fun outcome => ?_)
        fun _ h => h
      exact Pact.leads_finished fun _ h outcome' ho => Option.some.inj ho ▸ h
    | reset m => exact he.elim

/-- **A completed conversation stays closed**, whatever messages come to its session, in any order
of turns, and whatever else happens that keeps its record and its place in the template: no step
stores or schedules anything, and no message that is answered says anything. -/
theorem silent_of_run (hlater : ∀ e ∈ errands, Later templateId name s e)
    (hstart : Over sound held templateId name s start)
    (hrun : Crew.Run Places.whole
      (fun w w' => Over sound held templateId name s w → Over sound held templateId name s w')
      Crew.record ⟨start, errands.map (·.serve p)⟩ trace c) :
    held c.world.store name = some s ∧
      (∀ v ∈ trace, held v.before.store name = some s ∧ Idles held v) ∧
      ∀ (job : Nat) (m : Inbound) (outcome : Outcome), errands[job]? = some (.request (.message m)) →
        c.tasks[job]? = some (.finished (.ok (some outcome))) →
        outcome.outputs = [] ∧ outcome.state = s := by
  have hready : Crew.Aligned (Crew.pactsOf errands fun _ => hush sound held templateId name s)
      (Crew.endsOf errands fun _ => Quits s) (errands.map fun _ => ()) (errands.map (·.serve p)) :=
    Crew.aligned_map fun e he => leads_later hstore hb hequipped hs (hlater e he) () trivial
  have hkeeps : ∃ notes, Shut sound held templateId name s errands notes trace c.world ∧
      Crew.Aligned (Crew.pactsOf errands fun _ => hush sound held templateId name s)
        (Crew.endsOf errands fun _ => Quits s) notes c.tasks := by
    refine Crew.keeps (shut_start hstart) hready (fun h hn => ?_) (fun h hn hmove => ?_)
      (fun h hothers => ⟨h.length, hothers h.ended, h.idle⟩) hrun
    · obtain ⟨e, he⟩ := Crew.entry_of_note h.length hn
      rw [Crew.pactsOf_eq he]
      exact h.ended
    · obtain ⟨e, he⟩ := Crew.entry_of_note h.length hn
      rw [Crew.pactsOf_eq he] at hmove
      exact h.step hmove _
  obtain ⟨notes, hshut, haligned⟩ := hkeeps
  refine ⟨hshut.ended.kept, hshut.idle, fun job m outcome he hx => ?_⟩
  obtain ⟨n, -, hended⟩ := haligned job _ hx
  exact hended _ he outcome rfl

end Run

/-! ### A farewell -/

section Farewell

/-- Ann was greeted and gave her name: the conversation is completed. -/
def farewellSite : World Time.Clock :=
  ((process greeter hello).run ((process greeter hello).run greetingSite).2).2

/-- Ann comes back. -/
def comeback : Inbound := { hello with text := some "Anyone there?" }

/-- **A completed conversation opens again** when a later version of the template lacks its last
node: the message of Ann, who comes back, is taken for her first one. -/
theorem reopened_of_lost_place :
    let registered := (Service.putTemplate "greeting" laterGreeting).run farewellSite
    let answered := (process greeter comeback).run registered.2
    (Storage.inMemory farewellSite.store hello.lockName).map (fun s => (s.version, s.completed)) =
        some (2, true) ∧
      registered.1.toOption.isSome = true ∧
      Storage.inMemory registered.2.store hello.lockName =
        Storage.inMemory farewellSite.store hello.lockName ∧
      answered.1.toOption.map (fun o => o.outputs.map (·.text)) = some [.text "Your name?"] ∧
      (Storage.inMemory answered.2.store hello.lockName).map (fun s => (s.version, s.completed)) =
        some (3, false) := by
  decide +kernel

/-- The greeting with another question; the farewell is the same. -/
def milderGreeting : Service.TemplateRequest :=
  { laterGreeting with
    nodes := [
      [("id", .text "ask"), ("type", .text "input"), ("content", .text "And who are you?"),
        ("next", .text "bye")],
      [("id", .text "bye"), ("type", .text "terminal"), ("content", .text "Bye!")]] }

def comebackErrands : List Errand :=
  [.register "greeting" milderGreeting, .request (.message comeback)]

def comebackRun : List (Crew.Move (World Time.Clock)) ×
    Crew (World Time.Clock) (World Time.Clock) (Option Outcome) :=
  (Crew.mk farewellSite (comebackErrands.map (·.serve greeter))).drive Places.whole Crew.record
    (List.replicate 8 0 ++ List.replicate 80 1)

/-- The template changes, but keeps the node at which the conversation ended. -/
theorem silent_of_run_comeback : ∃ s trace c outcome,
    s.completed = true ∧ Storage.inMemory farewellSite.store hello.lockName = some s ∧
    Crew.Run Places.whole
      (fun w w' => Over Storage.IsMemory Storage.inMemory "greeting" hello.lockName s w →
        Over Storage.IsMemory Storage.inMemory "greeting" hello.lockName s w')
      Crew.record ⟨farewellSite, comebackErrands.map (·.serve greeter)⟩ trace c ∧
    (c.world.registry.serves "greeting").toOption.map (·.version) = some "2" ∧
    c.tasks[1]? = some (.finished (.ok (some outcome))) ∧
    outcome.outputs = [] ∧ outcome.state = s ∧
    Storage.inMemory c.world.store hello.lockName = some s ∧
    ∀ v ∈ trace, Idles Storage.inMemory v := by
  obtain ⟨s, hs⟩ : ∃ s, Storage.inMemory farewellSite.store hello.lockName = some s :=
    Option.isSome_iff_exists.mp (by decide +kernel)
  have hcompleted : (Storage.inMemory farewellSite.store hello.lockName).any (·.completed) = true :=
    by decide +kernel
  have hserves : (farewellSite.registry.serves "greeting").toOption.all (fun graph =>
      (Storage.inMemory farewellSite.store hello.lockName).all fun s => Resumes graph s) = true := by
    decide +kernel
  have hreads : (readGraph milderGreeting.document (.text "greeting") (.text "2")).toOption.all
      (fun graph => (Storage.inMemory farewellSite.store hello.lockName).all fun s =>
        Resumes graph s) = true := by decide +kernel
  have hends : ((comebackRun.2.tasks[1]?.bind Action.answer?).bind id).isSome = true := by
    decide +kernel
  have hversion : (comebackRun.2.world.registry.serves "greeting").toOption.map (·.version) =
      some "2" := by decide +kernel
  rw [hs] at hcompleted hserves hreads
  have hlater (e : Errand) (he : e ∈ comebackErrands) : Later "greeting" hello.lockName s e := by
    rcases List.mem_pair.mp he with rfl | rfl
    · intro _ version graph hversion hread
      rw [← Except.ok.inj hversion] at hread
      rw [hread] at hreads
      simpa [Except.toOption] using hreads
    · exact ⟨rfl, rfl, rfl⟩
  have hstart : Over Storage.IsMemory Storage.inMemory "greeting" hello.lockName s
      farewellSite := by
    refine ⟨?_, hs, fun graph hgraph => ?_⟩
    · cases hbacking : farewellSite.store.backing with
      | memory m => exact ⟨m, hbacking⟩
      | remote r =>
        unfold Storage.inMemory at hs
        rw [hbacking] at hs
        cases hs
    · rw [hgraph] at hserves
      simpa [Except.toOption] using hserves
  have hrun : Crew.Run Places.whole
      (fun w w' => Over Storage.IsMemory Storage.inMemory "greeting" hello.lockName s w →
        Over Storage.IsMemory Storage.inMemory "greeting" hello.lockName s w')
      Crew.record ⟨farewellSite, comebackErrands.map (·.serve greeter)⟩ comebackRun.1
      comebackRun.2 := Crew.run_drive _
  obtain ⟨outcome, houtcome⟩ := Option.isSome_iff_exists.mp hends
  obtain ⟨answer, hanswer, rfl⟩ := Option.bind_eq_some_iff.mp houtcome
  obtain ⟨x, hx, hanswer⟩ := Option.bind_eq_some_iff.mp hanswer
  rw [Action.eq_of_answer? hanswer] at hx
  have hb : greeter.guard.manager.baseline = Engine.baseline {} := rfl
  obtain ⟨hkept, hidle, hsilent⟩ := silent_of_run Storage.replacing_memory.toHolding hb
    (equipped_processor greetingBlueprint deadLine) hcompleted hlater hstart hrun
  obtain ⟨houtputs, hstate⟩ := hsilent 1 comeback outcome rfl hx
  exact ⟨s, _, _, outcome, hcompleted, hs, hrun, hversion, hx, houtputs, hstate, hkept,
    fun v hv => (hidle v hv).2⟩

end Farewell

end Parley.Turn
