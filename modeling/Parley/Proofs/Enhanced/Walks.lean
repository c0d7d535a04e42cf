import Parley.Enhanced.Capture
import Parley.Enhanced.Engine
import Parley.Enhanced.Navigation
import Parley.Proofs.Action.Endings
import Parley.Proofs.Conversation.Trail

/-!
# Parley.Proofs.Enhanced.Walks — all engines walk along the graph

`Walks m r`: the reply `r` to the message `m` tells of a walk from where the conversation is, and of
none if the conversation is completed.  `Faithful` engines give no other replies; the interpreter is
one, and so is the interpreter with faithful modules around it (`faithful_engine`), such as those for
navigation and for answers.  An engine `Rests` if it does nothing at all with a completed
conversation, and they all do.
-/

namespace Parley

open Conversation (Interpreter Walk Reply SameConversation State)
open Template (FlowGraph FlowNode)
open Time (Clocked Moment)

/-- The state that a reply to a message starts from: that of the message, or the start for a
session. -/
inductive Message.StartsFrom (m : Message) : State → Prop
  | state {s : State} : m.state = some s → m.StartsFrom s
  | contact {key : Conversation.SessionKey} (now : Moment) : m.state = none →
    m.session = some key → m.StartsFrom (State.initial m.graph key now)

/-- The reply tells of a walk from the state of the message, or from the start, and a completed
conversation stays where it is. -/
structure Walks (m : Message) (r : Reply) : Prop where
  walk : ∃ working, m.StartsFrom working ∧ Walk m.graph working r
  rests : m.state.any (·.completed) = true → r.visited = []

/-- All replies tell of walks, if the graph was read from a template. -/
def Faithful {σ : Type} (e : Engine σ) : Prop :=
  ∀ m reply, m.graph.Closed → (e m).MayEnd (.ok reply) → Walks m reply

/-! ### The interpreter -/

section Interpreter

variable {graph : FlowGraph} {r : Reply}

theorem walk_of_settle (hg : graph.Closed) (i : Interpreter) {state : State}
    {text : Option String} {now : Moment} (h : i.settle graph text now state = .ok r) :
    Walk graph state r := by
  cases hopen : state.completed with
  | true =>
    rw [i.settle_completed graph hopen] at h
    rw [← Except.ok.inj h]
    exact Conversation.walk_idle graph state state.completed
  | false =>
    obtain ⟨node, hnode, -⟩ := exceptBind_eq_ok.mp (i.settle_open graph hopen text now ▸ h)
    exact ((Conversation.settle_trail hg i state (Conversation.lookup_of_nodeAt hnode) text
      now).holds h).trail.toWalk

theorem walk_of_advance (hg : graph.Closed) (i : Interpreter) {state : State} {target : Value}
    {now : Moment} (h : i.advance graph state target now = .ok r) : Walk graph state r := by
  obtain ⟨node, hnode, -⟩ := exceptBind_eq_ok.mp h
  exact ((Conversation.advance_trail hg i state (Conversation.lookup_of_nodeAt hnode) now).holds
    h).1.toWalk

theorem walks_of_step (i : Interpreter) {m : Message} (hg : m.graph.Closed) {now : Moment}
    (h : i.step m.graph m.state m.text m.session now = .ok r) : Walks m r := by
  obtain ⟨graph, state, text, session, modules⟩ := m
  cases state with
  | some state =>
    obtain ⟨-, h⟩ := (i.step_eq_ok graph).mp h
    refine ⟨⟨state, .state rfl, walk_of_settle hg i h⟩, fun hcompleted => ?_⟩
    rw [i.settle_completed graph hcompleted] at h
    rw [← Except.ok.inj h]
    rfl
  | none =>
    cases session with
    | none => exact nomatch h
    | some key =>
      exact ⟨⟨_, .contact now rfl rfl, walk_of_settle hg i h⟩, fun h => nomatch h⟩

theorem Walks.of_open {m : Message} {state : State} (hs : m.state = some state)
    (hopen : state.completed = false) (h : Walk m.graph state r) : Walks m r := by
  refine ⟨⟨state, .state hs, h⟩, fun hcompleted => ?_⟩
  rw [hs, Option.any_some, hopen] at hcompleted
  exact nomatch hcompleted

theorem mayEnd_interpret {σ : Type} [Clocked σ] {i : Interpreter} {m : Message}
    {o : Except Fault Reply} (h : (Engine.interpret i m : Action σ Reply).MayEnd o) :
    ∃ now : Moment, now.Proper ∧ i.step m.graph m.state m.text m.session now = o := by
  rcases Action.mayEnd_andThen.mp h with ⟨now, hnow, h⟩ | ⟨f, h, -⟩
  · exact ⟨now, Action.proper_of_now hnow, (Action.mayEnd_ofExcept.mp h).symm⟩
  · obtain ⟨w, h⟩ := Action.mayEnd_look.mp h
    exact nomatch Action.mayEnd_result.mp h

theorem faithful_baseline {σ : Type} [Clocked σ] (i : Interpreter) :
    Faithful (Engine.baseline i : Engine σ) := by
  intro m reply hg h
  obtain ⟨now, -, h⟩ := mayEnd_interpret (Action.mayEnd_mapFault_ok.mp h)
  exact walks_of_step i hg h

end Interpreter

namespace Enhanced

variable {σ : Type} [Clocked σ]

/-! ### Modules -/

/-- All replies that the module gives in place of the interpreter's tell of walks. -/
def Module.Faithful (module : Module σ) : Prop :=
  ∀ i m reply, m.graph.Closed → (module.before i m).MayEnd (.ok (some reply)) → Walks m reply

theorem state_of_navigationTarget {config : NavigationConfig} {m : Message} {state : State}
    {target : Value} (h : navigationTarget config m = .ok (some (state, target))) :
    m.state = some state ∧ state.completed = false := by
  unfold navigationTarget at h
  split at h
  · rename_i state' text hstate _
    split_ifs at h with hskip
    · cases h
    · obtain ⟨keywords, -, h⟩ := exceptBind_eq_ok.mp h
      split at h
      · cases h
      · cases h
      · obtain ⟨found, -, h⟩ := exceptBind_eq_ok.mp h
        split at h
        · cases h
        · split_ifs at h
          · cases h
          · rw [hstate, ← (Prod.mk.inj (Option.some.inj (Except.ok.inj h))).1]
            exact ⟨rfl, (Bool.or_eq_false_iff.mp (Bool.eq_false_iff.mpr hskip)).1⟩
  · cases h

theorem faithful_navigationModule (config : NavigationConfig) :
    (navigationModule config : Module σ).Faithful := by
  intro i m reply hg h
  obtain ⟨asked, hasked, h⟩ := Action.mayEnd_andThen_ok.mp h
  cases asked with
  | none => exact nomatch Action.mayEnd_result.mp h
  | some asked =>
    obtain ⟨state, target⟩ := asked
    obtain ⟨now, -, h⟩ := Action.mayEnd_andThen_ok.mp h
    obtain ⟨r, hr, h⟩ := Action.mayEnd_andThen_ok.mp h
    have hreply := Option.some.inj (Except.ok.inj (Action.mayEnd_result.mp h))
    obtain ⟨hstate, hopen⟩ := state_of_navigationTarget (Action.mayEnd_ofExcept.mp hasked).symm
    rw [hreply]
    exact .of_open hstate hopen (walk_of_advance hg i (Action.mayEnd_ofExcept.mp hr).symm)

theorem state_of_questionAt {m : Message} {node : FlowNode} {state : State} {text : String}
    (h : questionAt m = .ok (some (node, state, text))) :
    m.state = some state ∧ state.completed = false := by
  unfold questionAt at h
  split at h
  · rename_i state' text' hstate _
    split_ifs at h with hskip
    · exact nomatch h
    · obtain ⟨found, -, h⟩ := exceptBind_eq_ok.mp h
      split at h
      · split_ifs at h
        · rw [hstate, ← (Prod.mk.inj (Prod.mk.inj (Option.some.inj (Except.ok.inj h))).2).1]
          exact ⟨rfl, Bool.eq_false_iff.mpr hskip⟩
        · exact nomatch h
      · exact nomatch h
  · exact nomatch h

/-- The variables of the state may be others. -/
theorem walk_of_context {graph : FlowGraph} {state : State} {context : Fields Value} {r : Reply}
    (h : Walk graph { state with context := context } r) : Walk graph state r :=
  ⟨h.kept, h.history, h.position, h.nodes, h.linked, h.passing, h.stages⟩

theorem walk_of_reprompt {config : CaptureConfig} {graph : FlowGraph} {node : FlowNode}
    {state : State} {reason message count : Value} {attempts : Fields Value} {r : Reply}
    (h : reprompt config node state reason message attempts count = .ok r) :
    Walk graph state r := by
  obtain ⟨working, hworking, hsaid⟩ := exceptBind_eq_ok.mp h
  obtain ⟨-, rfl⟩ := State.copy_eq_ok.mp hworking
  obtain ⟨text, -, hreply⟩ := exceptBind_eq_ok.mp hsaid
  rw [← Except.ok.inj hreply]
  have hidle := Conversation.walk_idle graph working working.completed
  exact ⟨rfl, hidle.history, hidle.position, hidle.nodes, hidle.linked, hidle.passing,
    hidle.stages⟩

theorem faithful_captureModule (config : CaptureConfig) (normalizer : Option (Normalizer σ)) :
    (captureModule config normalizer : Module σ).Faithful := by
  intro i m reply hg h
  obtain ⟨asked, hasked, h⟩ := Action.mayEnd_andThen_ok.mp h
  cases asked with
  | none => exact nomatch Action.mayEnd_result.mp h
  | some asked =>
    obtain ⟨node, state, text⟩ := asked
    obtain ⟨hstate, hopen⟩ := state_of_questionAt (Action.mayEnd_ofExcept.mp hasked).symm
    obtain ⟨checked, -, h⟩ := Action.mayEnd_andThen_ok.mp h
    obtain ⟨attempts, -, h⟩ := Action.mayEnd_andThen_ok.mp h
    have haccept {value : String} {r : Reply}
        (h : ((do
            let working ← Action.ofExcept state.copy
            let context := forgetAttempts config node attempts working.context
            return some (← takeAnswer i m { working with context := context } value)) :
          Action σ (Option Reply)).MayEnd (.ok (some r))) : Walks m r := by
      obtain ⟨working, hworking, hrest⟩ := Action.mayEnd_andThen_ok.mp h
      obtain ⟨-, rfl⟩ := State.copy_eq_ok.mp (Action.mayEnd_ofExcept.mp hworking).symm
      obtain ⟨r', hr, hreply⟩ := Action.mayEnd_andThen_ok.mp hrest
      rw [Option.some.inj (Except.ok.inj (Action.mayEnd_result.mp hreply))]
      obtain ⟨now, -, hstep⟩ := mayEnd_interpret hr
      obtain ⟨-, hstep⟩ := (i.step_eq_ok m.graph).mp hstep
      exact .of_open hstate hopen (walk_of_context (walk_of_settle hg i hstep))
    cases hv : checked.verdict with
    | none =>
      rw [hv] at h
      exact haccept h
    | some reason =>
      rw [hv] at h
      obtain ⟨count, -, h⟩ := Action.mayEnd_andThen_ok.mp h
      obtain ⟨granted, -, h⟩ := Action.mayEnd_andThen_ok.mp h
      cases granted with
      | true =>
        obtain ⟨r, hr, h⟩ := Action.mayEnd_andThen_ok.mp h
        rw [Option.some.inj (Except.ok.inj (Action.mayEnd_result.mp h))]
        exact .of_open hstate hopen (walk_of_reprompt (Action.mayEnd_ofExcept.mp hr).symm)
      | false => exact haccept h

/-! ### The engine -/

theorem mayEnd_callModule {α : Type} {limit : Number} {tag : Capability} {call : Action σ α} {a : α}
    (h : (callModule limit tag call).MayEnd (.ok a)) : call.MayEnd (.ok a) := by
  obtain ⟨t, ht, h⟩ := Action.mayEnd_andThen_ok.mp h
  cases t with
  | done b =>
    rw [Except.ok.inj (Action.mayEnd_result.mp h)]
    exact Action.mayEnd_of_within (o := .ok b) ht
  | failed f => exact nomatch Action.mayEnd_fail.mp h
  | late elapsed => exact nomatch Action.mayEnd_fail.mp h

/-- A reply in place of the interpreter's comes from one of the modules. -/
theorem module_of_before {s : Setup σ} {m : Message} {modules : List (Module σ)} {reply : Reply}
    (h : (s.before m modules).MayEnd (.ok (some reply))) :
    ∃ module ∈ modules, (module.before s.interpreter m).MayEnd (.ok (some reply)) := by
  induction modules with
  | nil => exact nomatch Action.mayEnd_result.mp h
  | cons module more ih =>
    obtain ⟨given, hgiven, h⟩ := Action.mayEnd_andThen_ok.mp h
    cases given with
    | some r =>
      rw [Except.ok.inj (Action.mayEnd_result.mp h)]
      exact ⟨module, List.mem_cons_self, mayEnd_callModule hgiven⟩
    | none =>
      obtain ⟨module', hmem, h⟩ := ih h
      exact ⟨module', List.mem_cons_of_mem _ hmem, h⟩

omit [Clocked σ] in
theorem mem_of_mem_select {s : Setup σ} {tags : List Capability} {module : Module σ}
    (h : module ∈ s.select tags) : module ∈ s.modules := by
  obtain ⟨tag, -, hfind⟩ := List.mem_filterMap.mp h
  exact List.mem_of_find?_eq_some hfind

/-- **With faithful modules the enhanced engine is faithful.** -/
theorem faithful_engine {s : Setup σ} (hs : ∀ module ∈ s.modules, module.Faithful) :
    Parley.Faithful s.engine := by
  intro m reply hg h
  obtain ⟨given, hgiven, h⟩ := Action.mayEnd_andThen_ok.mp h
  cases given with
  | some own =>
    obtain ⟨r, hr, h⟩ := Action.mayEnd_andThen_ok.mp h
    obtain ⟨-, -, h⟩ := Action.mayEnd_andThen_ok.mp h
    obtain ⟨module, hmem, hbefore⟩ := module_of_before hgiven
    rw [Except.ok.inj (Action.mayEnd_result.mp h), Except.ok.inj (Action.mayEnd_result.mp hr)]
    exact hs module (mem_of_mem_select hmem) s.interpreter m own hg hbefore
  | none =>
    obtain ⟨r, hr, h⟩ := Action.mayEnd_andThen_ok.mp h
    obtain ⟨-, -, h⟩ := Action.mayEnd_andThen_ok.mp h
    rw [Except.ok.inj (Action.mayEnd_result.mp h)]
    obtain ⟨now, -, hstep⟩ := mayEnd_interpret (Action.mayEnd_mapFault_ok.mp hr)
    exact walks_of_step s.interpreter hg hstep

end Enhanced

/-! ### Engines at rest -/

section Rests

variable {σ : Type}

/-- The engine does nothing with a completed conversation. -/
def Rests (e : Engine σ) : Prop :=
  ∀ m s reply, m.state = some s → s.completed = true → (e m).MayEnd (.ok reply) → reply = .idle s

theorem idle_of_step {i : Interpreter} {graph : Template.FlowGraph} {s : State} {r : Reply}
    {text : Option String} {session : Option Conversation.SessionKey} {now : Time.Moment}
    (hs : s.completed = true) (h : i.step graph (some s) text session now = .ok r) :
    r = .idle s := by
  obtain ⟨-, h⟩ := (i.step_eq_ok graph).mp h
  rw [i.settle_completed graph hs] at h
  exact (Except.ok.inj h).symm

variable [Clocked σ]

/-- The module leaves completed conversations to the interpreter. -/
def Enhanced.Module.Rests (module : Enhanced.Module σ) : Prop :=
  ∀ i m s reply, m.state = some s → s.completed = true →
    ¬(module.before i m).MayEnd (.ok (some reply))

namespace Enhanced

theorem rests_navigationModule (config : NavigationConfig) :
    (navigationModule config : Module σ).Rests := by
  intro i m s reply hstate hs h
  obtain ⟨asked, hasked, h⟩ := Action.mayEnd_andThen_ok.mp h
  cases asked with
  | none => exact nomatch Action.mayEnd_result.mp h
  | some asked =>
    obtain ⟨hfound, hopen⟩ := state_of_navigationTarget (Action.mayEnd_ofExcept.mp hasked).symm
    rw [← Option.some.inj (hstate.symm.trans hfound), hs] at hopen
    exact nomatch hopen

theorem rests_captureModule (config : CaptureConfig) (normalizer : Option (Normalizer σ)) :
    (captureModule config normalizer : Module σ).Rests := by
  intro i m s reply hstate hs h
  obtain ⟨asked, hasked, h⟩ := Action.mayEnd_andThen_ok.mp h
  cases asked with
  | none => exact nomatch Action.mayEnd_result.mp h
  | some asked =>
    obtain ⟨hfound, hopen⟩ := state_of_questionAt (Action.mayEnd_ofExcept.mp hasked).symm
    rw [← Option.some.inj (hstate.symm.trans hfound), hs] at hopen
    exact nomatch hopen

/-- With modules at rest the enhanced engine rests. -/
theorem rests_engine {s : Setup σ} (hmodules : ∀ module ∈ s.modules, module.Rests) :
    Parley.Rests s.engine := by
  intro m state reply hstate hcompleted h
  obtain ⟨given, hgiven, h⟩ := Action.mayEnd_andThen_ok.mp h
  cases given with
  | some own =>
    obtain ⟨module, hmem, hbefore⟩ := module_of_before hgiven
    exact absurd hbefore
      (hmodules module (mem_of_mem_select hmem) s.interpreter m state own hstate hcompleted)
  | none =>
    obtain ⟨r, hr, h⟩ := Action.mayEnd_andThen_ok.mp h
    obtain ⟨-, -, h⟩ := Action.mayEnd_andThen_ok.mp h
    rw [Except.ok.inj (Action.mayEnd_result.mp h)]
    obtain ⟨now, -, hstep⟩ := mayEnd_interpret (Action.mayEnd_mapFault_ok.mp hr)
    rw [hstate] at hstep
    exact idle_of_step hcompleted hstep

end Enhanced

end Rests

end Parley
