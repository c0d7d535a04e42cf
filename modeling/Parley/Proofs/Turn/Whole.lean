import Parley.Proofs.Conversation.Whole
import Parley.Proofs.Enhanced.Speakers
import Parley.Proofs.Storage.Texts
import Parley.Proofs.Turn.Errands
import Parley.Proofs.Turn.Home

/-!
# Parley.Proofs.Turn.Whole — what a server holds of whole conversations

An engine `KeepsWhole` if it replies to whole messages with whole states, and so do all equipped
guards with whole templates (`whole_of_execute`).  `losing_whole`: a store on a server holds whole
states as they are, if its texts are whole documents (`holdsWhole_of_documents`).  So what is said of
a store that compares and swaps is true of a server as well, as long as the templates and the states
that are brought along are whole (`preserves_whole`, `fairly_whole`).
-/

namespace Parley

open Conversation (Interpreter Reply SessionKey State)
open Template (FlowGraph FlowNode)
open Time (Clocked)
open Value (Holdable)

variable {reals : Float → Bool}

/-- All that an engine gets to know of a session is whole. -/
structure Message.Whole (reals : Float → Bool) (m : Message) : Prop where
  graph : m.graph.Whole reals
  state : ∀ s, m.state = some s → s.Whole reals
  session : ∀ key, m.session = some key → key.Whole reals

/-- The engine's replies to whole messages are whole. -/
def KeepsWhole {σ : Type} (reals : Float → Bool) (e : Engine σ) : Prop :=
  ∀ m reply, m.Whole reals → (e m).MayEnd (.ok reply) → reply.state.Whole reals

section Interpreter

variable {σ : Type} [Clocked σ]

theorem whole_of_interpret (hreals : Holdable reals) {i : Interpreter} {m : Message}
    (hm : m.Whole reals) {reply : Reply}
    (h : (Engine.interpret i m : Action σ Reply).MayEnd (.ok reply)) :
    reply.state.Whole reals := by
  obtain ⟨now, hnow, hstep⟩ := mayEnd_interpret h
  exact Interpreter.whole_step hreals hm.graph hnow hm.state hm.session hstep

end Interpreter

namespace Enhanced

variable {σ : Type} [Clocked σ]

/-! ### Modules -/

/-- The module's replies to whole messages are whole. -/
def Module.KeepsWhole (reals : Float → Bool) (module : Module σ) : Prop :=
  ∀ i m reply, m.Whole reals → (module.before i m).MayEnd (.ok (some reply)) →
    reply.state.Whole reals

theorem keepsWhole_navigationModule (hreals : Holdable reals) (config : NavigationConfig) :
    (navigationModule config : Module σ).KeepsWhole reals := by
  intro i m reply hm h
  obtain ⟨asked, hasked, h⟩ := Action.mayEnd_andThen_ok.mp h
  cases asked with
  | none => exact nomatch Action.mayEnd_result.mp h
  | some asked =>
    obtain ⟨state, target⟩ := asked
    obtain ⟨now, hnow, h⟩ := Action.mayEnd_andThen_ok.mp h
    obtain ⟨r, hr, h⟩ := Action.mayEnd_andThen_ok.mp h
    obtain ⟨hstate, -⟩ := state_of_navigationTarget (Action.mayEnd_ofExcept.mp hasked).symm
    rw [Option.some.inj (Except.ok.inj (Action.mayEnd_result.mp h))]
    exact Interpreter.whole_advance hreals hm.graph (Action.proper_of_now hnow)
      (hm.state state hstate) (Action.mayEnd_ofExcept.mp hr).symm

section Capture

variable {config : CaptureConfig} {node : FlowNode} {state : State} {attempts : Fields Value}

theorem whole_attemptsOf (hs : state.Whole reals) (h : attemptsOf config state = .ok attempts) :
    (Value.object attempts).whole reals = true :=
  Value.whole_table h (Value.whole_orElse (Value.whole_field hs.context) rfl)

theorem whole_forgetAttempts {context : Fields Value}
    (hattempts : (Value.object attempts).whole reals = true)
    (hcontext : (Value.object context).whole reals = true) :
    (Value.object (forgetAttempts config node attempts context)).whole reals = true := by
  unfold forgetAttempts
  dsimp only
  split_ifs
  · exact Value.whole_erase hcontext
  · exact Value.whole_put hcontext (Value.whole_erase hattempts)

theorem whole_reprompt {reason message count : Value} {reply : Reply} (hs : state.Whole reals)
    (hattempts : (Value.object attempts).whole reals = true) (hcount : count.whole reals = true)
    (h : reprompt config node state reason message attempts count = .ok reply) :
    reply.state.Whole reals := by
  obtain ⟨working, hworking, hsaid⟩ := exceptBind_eq_ok.mp h
  obtain ⟨-, rfl⟩ := State.copy_eq_ok.mp hworking
  obtain ⟨text, -, hreply⟩ := exceptBind_eq_ok.mp hsaid
  rw [← Except.ok.inj hreply]
  exact hs.with_context (Value.whole_put hs.context (Value.whole_put hattempts hcount))

/-- The next number of attempts at a node. -/
theorem whole_count (hreals : Holdable reals) {count : Value}
    (hattempts : (Value.object attempts).whole reals = true)
    (h : ((attempts.get? node.id).getD (.int 0)).plus (.int 1) = .ok count) :
    count.whole reals = true := by
  refine Value.whole_plus hreals h ?_ rfl
  cases hfound : attempts.get? node.id with
  | none => rfl
  | some v => exact Value.whole_of_get? hattempts hfound

end Capture

theorem keepsWhole_captureModule (hreals : Holdable reals) (config : CaptureConfig)
    (normalizer : Option (Normalizer σ)) :
    (captureModule config normalizer : Module σ).KeepsWhole reals := by
  intro i m reply hm h
  obtain ⟨node, state, text, checked, hquestion, -, h⟩ := settle_of_capture h
  obtain ⟨attempts, hattempts, hsettled⟩ := settled_of_settle h
  have hs := hm.state state (state_of_questionAt hquestion).1
  have hattempts := whole_attemptsOf hs hattempts
  have hnone (key : SessionKey) (hkey : none = some key) : key.Whole reals := nomatch hkey
  have htaken {now : Time.Moment} (hnow : now.Proper) {value : String}
      (hstep : i.step m.graph (some (withoutAttempts config node state attempts)) (some value) none
        now = .ok reply) : reply.state.Whole reals :=
    Interpreter.whole_step hreals hm.graph hnow
      (fun s hs' => Option.some.inj hs' ▸
        hs.with_context (whole_forgetAttempts hattempts hs.context))
      hnone hstep
  cases hsettled with
  | accepted _ hnow hstep => exact htaken hnow hstep
  | again _ hcount _ hreprompt =>
    exact whole_reprompt hs hattempts (whole_count hreals hattempts hcount) hreprompt
  | last _ _ _ hnow hstep => exact htaken hnow hstep

/-- **With modules that keep states whole, the enhanced engine keeps them whole.** -/
theorem keepsWhole_engine (hreals : Holdable reals) {s : Setup σ}
    (hmodules : ∀ module ∈ s.modules, module.KeepsWhole reals) :
    Parley.KeepsWhole reals s.engine := by
  intro m reply hm h
  obtain ⟨given, hgiven, h⟩ := Action.mayEnd_andThen_ok.mp h
  cases given with
  | some own =>
    obtain ⟨r, hr, h⟩ := Action.mayEnd_andThen_ok.mp h
    obtain ⟨-, -, h⟩ := Action.mayEnd_andThen_ok.mp h
    obtain ⟨module, hmem, hbefore⟩ := module_of_before hgiven
    rw [Except.ok.inj (Action.mayEnd_result.mp h), Except.ok.inj (Action.mayEnd_result.mp hr)]
    exact hmodules module (mem_of_mem_select hmem) s.interpreter m own hm hbefore
  | none =>
    obtain ⟨r, hr, h⟩ := Action.mayEnd_andThen_ok.mp h
    obtain ⟨-, -, h⟩ := Action.mayEnd_andThen_ok.mp h
    rw [Except.ok.inj (Action.mayEnd_result.mp h)]
    exact whole_of_interpret hreals hm (Action.mayEnd_mapFault_ok.mp hr)

end Enhanced

namespace Turn

open Recovery (Guarded)
open Storage (IsRemote HoldsOnly Losing Replacing Swapping lostAnswer onRemote)

/-! ### Turns -/

section Turns

variable {ε : Type} [Clocked ε] {p : Processor ε} {i : Interpreter} {m : Inbound}
  {graph : FlowGraph} {base state : Option State} {guarded : Guarded}

theorem whole_key (reals : Float → Bool) (m : Inbound) : m.key.Whole reals := ⟨rfl, rfl, rfl⟩

theorem whole_of_execute (hreals : Holdable reals)
    (hb : p.guard.manager.baseline = Engine.baseline i) (hequipped : Equipped p.guard)
    (hg : graph.Whole reals) (hstate : ∀ s, state = some s → s.Whole reals)
    {decision : Routing.Decision} (h : (execute p m graph state decision).MayEnd (.ok guarded)) :
    guarded.reply.state.Whole reals := by
  have hkey (key : SessionKey) (hkey : some m.key = some key) : key.Whole reals :=
    Option.some.inj hkey ▸ whole_key reals m
  rcases reply_of_execute hb h with ⟨now, hnow, hstep⟩ | ⟨-, modules, object, hleave⟩
  · exact Interpreter.whole_step hreals hg hnow hstate hkey hstep
  · obtain ⟨setup, limit, hnew, hmodules⟩ := hequipped
    have hengine : KeepsWhole reals setup.engine := by
      refine Enhanced.keepsWhole_engine hreals fun module hmodule => ?_
      rcases hmodules module hmodule with ⟨config, rfl⟩ | ⟨config, normalizer, rfl⟩
      · exact Enhanced.keepsWhole_navigationModule hreals config
      · exact Enhanced.keepsWhole_captureModule hreals config normalizer
    rw [hnew] at hleave
    exact hengine _ _ ⟨hg, hstate, hkey⟩ (Action.mayLeave_inside hleave).2

/-- A turn starts with a whole state. -/
theorem whole_of_resumed {now : Time.Moment} (hnow : now.Proper)
    (hbase : ∀ s, base = some s → s.Whole reals)
    (h : base.mapM (reconcile graph m.key now) = .ok state) :
    ∀ s, state = some s → s.Whole reals := by
  intro s hs
  cases base with
  | none => exact nomatch (Except.ok.inj h).trans hs
  | some before =>
    obtain ⟨s', hs', hend⟩ := exceptBind_eq_ok.mp h
    obtain rfl : s' = s := Option.some.inj ((Except.ok.inj hend).trans hs)
    by_cases hresumes : Resumes graph before
    · rw [reconcile_of_resumes hresumes] at hs'
      exact Except.ok.inj hs' ▸ hbase before rfl
    · rw [reconcile_of_not_resumes hresumes hs']
      exact (State.whole_initial graph (whole_key reals m) hnow).at_version _

/-- **Whatever a message makes of a whole state in a whole template is whole.** -/
theorem whole_of_answered (hreals : Holdable reals)
    (hb : p.guard.manager.baseline = Engine.baseline i) (hequipped : Equipped p.guard)
    (hg : graph.Whole reals) (hbase : ∀ s, base = some s → s.Whole reals)
    (h : Answered p m graph base state guarded) : guarded.reply.state.Whole reals := by
  obtain ⟨now, hnow, hresumed⟩ := h.resumed
  obtain ⟨decision, hreplied⟩ := h.replied
  exact whole_of_execute hreals hb hequipped hg (whole_of_resumed hnow hbase hresumed) hreplied

theorem preserves_whole (hreals : Holdable reals)
    (hb : p.guard.manager.baseline = Engine.baseline i) (hequipped : Equipped p.guard)
    (hg : graph.Whole reals) : Preserves (State.Whole reals) p m graph :=
  fun hbase hanswered => whole_of_answered hreals hb hequipped hg hbase hanswered

/-- So it is in a run, if the templates that messages are served are whole, and the states that they
bring along. -/
theorem fairly_whole (hreals : Holdable reals) {held : Storage.Store → String → Option State}
    {fine : String → State → Prop}
    {errands : List Errand} {trace : List (Nat × World ε)}
    (hb : p.guard.manager.baseline = Engine.baseline i) (hequipped : Equipped p.guard)
    (hserved : ∀ (job : Nat) (m : Inbound) (graph : FlowGraph),
      errands[job]? = some (.request (.message m)) →
      Glimpsed trace job (fun w => w.registry.serves m.templateId = .ok graph) → graph.Whole reals)
    (hprior : ∀ m s, .request (.message m) ∈ errands → m.prior = some s → s.Whole reals) :
    Fairly (State.Whole reals) held fine p errands trace := by
  intro job m graph base state guarded he hbegun hbase hanswered
  refine whole_of_answered hreals hb hequipped (hserved job m graph he hbegun.served)
    (fun s hs => ?_) hanswered
  rcases hbase s hs with hwhole | hbrought
  · exact hwhole
  · exact hprior m s (List.mem_of_getElem? he) hbrought

end Turns

/-! ### The server -/

/-- A whole state is read back from its document. -/
theorem faithful_of_whole (hreals : Holdable reals) {s : State} (h : s.Whole reals) :
    Storage.Faithful s :=
  ⟨h.timely, h.named, Value.legible_of_whole hreals h.whole_document⟩

/-- A store on a server that holds whole states only. -/
def HoldsWhole (reals : Float → Bool) (s : Storage.Store) : Prop :=
  IsRemote s ∧ HoldsOnly (State.Whole reals) onRemote s

/-- And it answers all saves. -/
def OnServer (reals : Float → Bool) (s : Storage.Store) : Prop :=
  HoldsWhole reals s ∧ s.outage.lostAnswer = 0

/-- **A server whose texts are whole documents is such a store.** -/
theorem holdsWhole_of_documents {s : Storage.Store} {r : Storage.Remote} (hs : IsRemote s)
    (hr : s.backing = .remote r) (h : ∀ name text v, r.found name = some text →
      Document.read text = .ok v → v.whole reals = true) : HoldsWhole reals s := by
  refine ⟨hs, fun name state hstate => ?_⟩
  rw [Storage.onRemote_eq hr] at hstate
  obtain ⟨text, hfound, hdecode⟩ := Option.bind_eq_some_iff.mp hstate
  have hread : (do State.ofDocument ⟨0, none⟩ (← Document.read text) : Except Fault State) =
      .ok state := by
    unfold Storage.Remote.decode at hdecode
    split at hdecode
    · rename_i hread
      exact hread.trans (congrArg Except.ok (Option.some.inj hdecode))
    · exact nomatch hdecode
  obtain ⟨v, hv, hstate⟩ := exceptBind_eq_ok.mp hread
  cases v with
  | object fields =>
    exact State.whole_of_ofFields hstate (by decide) (h name text _ hfound hv)
  | _ => exact nomatch hstate

/-- **A store on a server holds whole states as they are**, as long as it is given no others. -/
theorem losing_whole (hreals : Holdable reals) :
    Losing (State.Whole reals) (HoldsWhole reals) onRemote lostAnswer :=
  Storage.losing_remote.within (fun _ h => faithful_of_whole hreals h) fun _ version h =>
    h.at_version version

theorem replacing_whole (hreals : Holdable reals) :
    Replacing (State.Whole reals) (HoldsWhole reals) onRemote :=
  (losing_whole hreals).replacing

/-- If it answers all saves, it compares and swaps. -/
theorem swapping_whole (hreals : Holdable reals) :
    Swapping (State.Whole reals) (OnServer reals) onRemote :=
  (losing_whole hreals).answering

/-! ### A greeting -/

section Greeting

/-- A server without any keys. -/
def emptyServer : Storage.Store := .ofRemote (.new Storage.Remote.defaultKeyStart none)

theorem onServer_empty (reals : Float → Bool) : OnServer reals emptyServer :=
  ⟨holdsWhole_of_documents ⟨_, rfl, fun _ _ h => nomatch h⟩ rfl fun _ _ _ h => (nomatch h), rfl⟩

end Greeting

end Turn

end Parley
