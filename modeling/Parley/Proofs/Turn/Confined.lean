import Parley.Proofs.Conversation.Documents
import Parley.Proofs.Turn.Errands
import Parley.Proofs.Turn.Stored

/-!
# Parley.Proofs.Turn.Confined — whose records a message changes

A message goes on with the conversation of its own session, or with the state that its sender brought
along.  `confined_of_run`: whatever else a service does meanwhile, a message changes no records but
those of the two, and returns a state of one of them.  Nothing checks that a state brought along is
one of the message's session: `not_confined_of_prior` is a message that stores and returns the state
of somebody else.
-/

namespace Parley.Turn

open Conversation (Interpreter SessionKey State)
open Recovery (Guarded)
open Storage (Replacing Store)
open Template (FlowGraph)
open Time (Clocked)

/-- Whose conversation a message may go on with: that of its own session, or that of the state that
was brought along, if this one is at a node of the graph. -/
inductive Concerns (graph : FlowGraph) (m : Inbound) : SessionKey → Prop
  | own : Concerns graph m m.key
  | brought {s : State} : m.prior = some s → Resumes graph s → Concerns graph m s.key

/-- What is stored for the session of the message is a state of this session. -/
def Owned (m : Inbound) (name : String) (s : State) : Prop := name = m.lockName → s.key = m.key

variable {ε : Type} [Clocked ε] {p : Processor ε} {i : Interpreter} {m : Inbound}
  {graph : FlowGraph}

section Answered

variable {base state : Option State} {guarded : Guarded}

/-- The reply to a message is about a conversation that concerns it. -/
theorem concerns_of_answered (hb : p.guard.manager.baseline = Engine.baseline i)
    (hwalks : GuardsWalks p.guard) (hg : graph.Closed)
    (hbase : ∀ s, base = some s → Owned m m.lockName s ∨ m.prior = some s)
    (h : Answered p m graph base state guarded) : Concerns graph m guarded.reply.state.key := by
  obtain ⟨⟨working, hstarts, hwalk⟩, -⟩ := walk_of_answered hb hg hwalks h
  have hkey : guarded.reply.state.key = working.key := (conversation_of_walk hwalk).2
  rw [hkey]
  cases hresumed : resumed graph base with
  | none =>
    obtain ⟨now, rfl⟩ := hstarts.anew hresumed
    exact .own
  | some s =>
    rw [hstarts.goesOn s hresumed]
    obtain ⟨hs, hresumes⟩ := eq_of_resumed hresumed
    rcases hbase s hs with hown | hprior
    · rw [hown rfl]
      exact .own
    · exact .brought hprior hresumes

end Answered

section Run

variable {fair : State → Prop} {sound : Store → Prop} {held : Store → String → Option State}
  {errands : List Errand}
  {trace : List (Nat × World ε)} {start : World ε}
  {c : Crew (World ε) (World ε) (Option Outcome)} {job : Nat}

/-- Nobody stores the state of another session under a name without further colons. -/
theorem upholds_owned (hplain : m.key.Plain) : Upholds (Owned m) p errands := by
  intro _ graph base after name _ _ _ _ hjoin hname
  refine hplain.eq_of_join ?_
  rw [hjoin, hname, m.key_join]

/-- **A message changes only the records of the sessions that it concerns**, whatever messages,
resets and registrations there are beside it, and in whatever order they take their turns: its own
session, whose ids have no colon, and that of the state that was brought along, if this one is at a
node of the graph.  And the state that it returns belongs to one of them. -/
theorem confined_of_run (hstore : Replacing fair sound held)
    (hb : p.guard.manager.baseline = Engine.baseline i) (hequipped : Equipped p.guard)
    (hclosed : start.registry.Closed) (hsound : sound start.store) (hplain : m.key.Plain)
    (hown : ∀ s, held start.store m.lockName = some s → s.key = m.key)
    (hrun : Crew.Run Places.whole (Decent sound held (Owned m)) glimpse
      ⟨start, errands.map (·.serve p)⟩ trace c)
    (hfair : Fairly fair held (Owned m) p errands trace)
    (he : errands[job]? = some (.request (.message m)))
    {x : Action (World ε) (Option Outcome)} (hx : c.tasks[job]? = some x) :
    (∀ name, held (c.turn Places.whole job x).world.store name ≠ held c.world.store name →
      ∃ graph key, Glimpsed trace job (fun w => w.registry.serves m.templateId = .ok graph) ∧
        Concerns graph m key ∧ key.join = .ok name) ∧
    ∀ outcome, x = .finished (.ok (some outcome)) →
      ∃ graph, Glimpsed trace job (fun w => w.registry.serves m.templateId = .ok graph) ∧
        Concerns graph m outcome.state.key := by
  have hwalks := hequipped.walks
  have hupholds : Upholds (Owned m) p errands := upholds_owned hplain
  have hsane : Sane sound held (Owned m) start := by
    refine ⟨hsound, hclosed, fun name s hs hname => hown s ?_⟩
    rwa [← hname]
  refine ⟨fun name hchange => ?_, fun outcome ho => ?_⟩
  · have hchanged := changes_of_turn hstore hfair hupholds hsane hrun he hx hchange
    generalize held (c.turn Places.whole job x).world.store name = after at hchanged
    cases hchanged with
    | @saved _ graph base after hbegun hstores hname _ =>
      obtain ⟨state, guarded, hanswered, rfl⟩ := hstores
      have hconcerns := concerns_of_answered hb hwalks hbegun.closed hbegun.fine hanswered
      exact ⟨graph, _, hbegun.served, hconcerns, hname⟩
  · rw [ho] at hx
    obtain ⟨graph, base, state, guarded, hbegun, hanswered, hkey⟩ :=
      replied_of_run hstore hfair hupholds hsane hrun he hx
    refine ⟨graph, hbegun.served, ?_⟩
    rw [hkey]
    exact concerns_of_answered hb hwalks hbegun.closed hbegun.fine hanswered

end Run

/-! ### Greetings -/

section Greetings

/-- Ann's greeting, and Bob's. -/
def greetingErrands : List Errand :=
  [.request (.message hello), .request (.message { hello with userId := "bob" })]

/-- The run up to the step that stores the state of the first greeting, while the second one is on
its way. -/
def greetingCrew : List (Nat × World Time.Clock) ×
    Crew (World Time.Clock) (World Time.Clock) (Option Outcome) :=
  (Crew.mk greetingSite (greetingErrands.map (·.serve greeter))).drive Places.whole glimpse
    (List.replicate 9 1 ++ List.replicate 53 0)

theorem plain_hello : hello.key.Plain := by
  refine ⟨"acme", "ann", "1", rfl, ?_, ?_, ?_⟩ <;> decide

/-- The greeting is about to be stored, and nothing but its own record will change. -/
theorem confined_of_run_hello : ∃ trace c x,
    Crew.Run Places.whole (Decent Storage.IsMemory Storage.inMemory (Owned hello)) glimpse
      ⟨greetingSite, greetingErrands.map (·.serve greeter)⟩ trace c ∧
    c.tasks[0]? = some x ∧
    Storage.inMemory c.world.store hello.lockName = none ∧
    (Storage.inMemory (c.turn Places.whole 0 x).world.store hello.lockName).isSome = true ∧
    ∀ name, name ≠ hello.lockName →
      Storage.inMemory (c.turn Places.whole 0 x).world.store name =
        Storage.inMemory c.world.store name := by
  have hrun : Crew.Run Places.whole
      (Decent Storage.IsMemory Storage.inMemory (Owned hello)) glimpse
      ⟨greetingSite, greetingErrands.map (·.serve greeter)⟩ greetingCrew.1 greetingCrew.2 :=
    Crew.run_drive _
  have hstored : greetingCrew.2.tasks[0]?.map (fun x =>
      (Storage.inMemory (greetingCrew.2.turn Places.whole 0 x).world.store hello.lockName).isSome) =
        some true := by decide +kernel
  obtain ⟨x, hx, hstored⟩ := Option.map_eq_some_iff.mp hstored
  have hb : greeter.guard.manager.baseline = Engine.baseline {} := rfl
  have hnone : Storage.inMemory greetingSite.store hello.lockName = none := rfl
  obtain ⟨hchanges, -⟩ := confined_of_run Storage.replacing_memory hb
    (equipped_processor greetingBlueprint deadLine) Template.Registry.closed_empty ⟨.empty, rfl⟩
    plain_hello (fun _ hs => nomatch hnone.symm.trans hs) hrun fairly_any rfl hx
  refine ⟨_, _, x, hrun, hx, by decide +kernel, hstored, fun name hname => ?_⟩
  -- no state was brought along, so that the greeting concerns its own session alone
  refine Decidable.byContradiction fun hchange => ?_
  obtain ⟨graph, key, -, hconcerns, hjoin⟩ := hchanges name hchange
  cases hconcerns with
  | own => exact hname (Except.ok.inj hjoin).symm
  | brought hprior _ => exact nomatch hprior

/-- **A state brought along takes a message into another session**: the record of that one is
written, none of the message's own, and the state returned is not the sender's. -/
theorem not_confined_of_prior :
    let (answer, w) := (process greeter { hello with prior := some strayState }).run greetingSite
    Storage.inMemory greetingSite.store "globex:bob:9" = none ∧
      (Storage.inMemory w.store "globex:bob:9").isSome = true ∧
      Storage.inMemory w.store hello.lockName = none ∧
      answer.toOption.map (·.state.key) = some ⟨.text "globex", .text "bob", .text "9"⟩ := by
  decide +kernel

end Greetings

end Parley.Turn
