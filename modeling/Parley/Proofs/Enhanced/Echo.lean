import Parley.Proofs.Action.Prompt
import Parley.Proofs.Conversation.Frame
import Parley.Proofs.Enhanced.Walks

/-!
# Parley.Proofs.Enhanced.Echo — when the modules make no difference

An engine `Echoes` an interpreter on a message if it replies as the interpreter does.  The enhanced
engine does so if each of its modules leaves the message to the interpreter or gives the very reply
of the interpreter.
-/

namespace Parley.Enhanced

open Parley.Action (Prompt Returns Tells)
open Conversation (Interpreter Reply State)
open Template (FlowGraph FlowNode)
open Time (Clocked Moment Seconds)

variable {σ : Type} [Clocked σ]

/-- What an interpreter makes of a message at a moment. -/
def plainly (i : Interpreter) (m : Message) (now : Moment) : Except Fault Reply :=
  i.step m.graph m.state m.text m.session now

/-- The interpreter has a reply to the message, and the engine gives it, whatever others do
meanwhile.  Alone, the engine gives the interpreter's reply of the moment, and leaves the world as it
is. -/
structure Echoes (e : Engine σ) (i : Interpreter) (m : Message) : Prop where
  returns : Returns (plainly i m)
  tells : (e m).Tells (plainly i m)

/-! ### The calls of an engine -/

theorem prompt_interpret (i : Interpreter) (m : Message) :
    (Engine.interpret i m : Action σ Reply).Prompt :=
  Action.prompt_now.andThen fun _ => .finished _

theorem tells_interpret (i : Interpreter) (m : Message) :
    (Engine.interpret i m : Action σ Reply).Tells (plainly i m) :=
  Action.tells_now.andThen (fun _ _ h => Except.ok.inj h ▸ Action.tells_finished _) fun _ _ h => nomatch h

/-- A prompt call within a limit that leaves some time: only its faults are told in another way. -/
theorem tells_callModule {α : Type} {limit : Number} {call : Action σ α}
    {value : Moment → Except Fault α} (hlimit : 0 < Seconds.ofNumber limit) (hprompt : call.Prompt)
    (hcall : call.Tells value) (tag : Capability) :
    (callModule limit tag call).Tells fun now => (value now).mapError (moduleFault tag.name) := by
  refine (hcall.within hprompt hlimit).andThen (fun now t ht => ?_) fun _ _ h => nomatch h
  rw [← Except.ok.inj ht]
  cases value now with
  | ok a => exact Action.tells_finished _
  | error f => exact Action.tells_finished _

/-! ### Modules -/

/-- The module gives the answer in place of the interpreter's reply. -/
structure Module.Gives (module : Module σ) (i : Interpreter) (m : Message)
    (answer : Moment → Except Fault Reply) : Prop where
  prompt : (module.before i m).Prompt
  tells : (module.before i m).Tells fun now => (answer now).map some

/-- The module leaves the message to the interpreter. -/
structure Module.Passes (module : Module σ) (i : Interpreter) (m : Message) : Prop where
  prompt : (module.before i m).Prompt
  tells : (module.before i m).Tells fun _ => .ok none

/-- The module does nothing with replies. -/
def Module.Silent (module : Module σ) : Prop :=
  ∀ m reply, module.after m reply = Action.result ()

theorem silent_navigationModule (config : NavigationConfig) :
    (navigationModule config : Module σ).Silent := fun _ _ => rfl

theorem silent_captureModule (config : CaptureConfig) (normalizer : Option (Normalizer σ)) :
    (captureModule config normalizer : Module σ).Silent := fun _ _ => rfl

section Engine

variable {s : Setup σ} {m : Message} {module : Module σ} {more : List (Module σ)}
  {answer : Moment → Except Fault Reply}

/-- No module is asked after the first one that gives an answer. -/
theorem before_of_gives (hlimit : 0 < Seconds.ofNumber s.moduleTimeout)
    (h : module.Gives s.interpreter m answer) (more : List (Module σ)) :
    (s.before m (module :: more)).Tells fun now =>
      ((answer now).mapError (moduleFault module.tag.name)).map some := by
  refine (tells_callModule hlimit h.prompt h.tells module.tag).andThen (fun now given hgiven => ?_)
    fun now e he => ?_
  · cases hanswer : answer now with
    | ok reply =>
      rw [hanswer] at hgiven
      rw [← Except.ok.inj hgiven]
      exact Action.tells_finished _
    | error f =>
      rw [hanswer] at hgiven
      exact nomatch hgiven
  · cases hanswer : answer now with
    | ok reply =>
      rw [hanswer] at he
      exact nomatch he
    | error f =>
      rw [hanswer] at he
      exact he

/-- After a module that passes the others are asked. -/
theorem before_of_passes (hlimit : 0 < Seconds.ofNumber s.moduleTimeout)
    (h : module.Passes s.interpreter m) {given : Moment → Except Fault (Option Reply)}
    (hmore : (s.before m more).Tells given) : (s.before m (module :: more)).Tells given :=
  (tells_callModule hlimit h.prompt h.tells module.tag).next hmore

theorem tells_after (hlimit : 0 < Seconds.ofNumber s.moduleTimeout) (reply : Reply)
    {modules : List (Module σ)} (h : ∀ module ∈ modules, module.Silent) :
    (s.after m reply modules).Tells fun _ => .ok () := by
  induction modules with
  | nil => exact Action.tells_finished _
  | cons module more ih =>
    have hsilent := h module List.mem_cons_self m reply
    have hcall : (callModule s.moduleTimeout module.tag (module.after m reply)).Tells fun _ =>
        .ok () := by
      rw [hsilent]
      exact tells_callModule hlimit (.finished _) (Action.tells_finished _) _
    exact hcall.next (ih fun module hmem => h module (List.mem_cons_of_mem _ hmem))

/-- The engine gives the answer that a module gave. -/
theorem engine_of_given
    (hafter : ∀ reply, (s.after m reply (s.select m.modules)).Tells fun _ => .ok ())
    (h : (s.before m (s.select m.modules)).Tells fun now => (answer now).map some) :
    (s.engine m).Tells answer := by
  refine h.andThen (fun now given hgiven => ?_) fun now e he => exceptMap_eq_error.mp he
  obtain ⟨reply, hreply, rfl⟩ := exceptMap_eq_ok.mp hgiven
  rw [hreply]
  exact (hafter reply).next (Action.tells_finished _)

/-- The engine gives the interpreter's reply if no module gave one. -/
theorem engine_of_none (hreturns : Returns (plainly s.interpreter m))
    (hafter : ∀ reply, (s.after m reply (s.select m.modules)).Tells fun _ => .ok ())
    (h : (s.before m (s.select m.modules)).Tells fun _ => .ok none) :
    (s.engine m).Tells (plainly s.interpreter m) := by
  refine h.next ?_
  have hplain := (tells_interpret s.interpreter m).mapFault (σ := σ) Setup.interpreterFault
  rw [hreturns.mapError] at hplain
  refine hplain.andThen (fun now reply hreply => ?_) fun now e he => he
  rw [hreply]
  exact (hafter reply).next (Action.tells_finished _)

/-- The modules leave the message to the interpreter, or one of them gives its reply. -/
theorem before_of_modules (hlimit : 0 < Seconds.ofNumber s.moduleTimeout) (hreturns : Returns answer)
    {modules : List (Module σ)} (hmodules : ∀ module ∈ modules,
      module.Passes s.interpreter m ∨ module.Gives s.interpreter m answer) :
    (s.before m modules).Tells (fun _ => .ok none) ∨
      (s.before m modules).Tells fun now => (answer now).map some := by
  induction modules with
  | nil => exact .inl (Action.tells_finished _)
  | cons module more ih =>
    rcases hmodules module List.mem_cons_self with hpasses | hgives
    · have hmore := ih fun module hmem => hmodules module (List.mem_cons_of_mem _ hmem)
      exact hmore.imp (before_of_passes hlimit hpasses) (before_of_passes hlimit hpasses)
    · have hgiven := before_of_gives hlimit hgives more
      rw [show (fun now => ((answer now).mapError (moduleFault module.tag.name)).map some) =
        fun now => (answer now).map some from
          congrArg (fun value now => (value now).map some) (hreturns.mapError _)] at hgiven
      exact .inr hgiven

/-- **Modules that make no difference.**  If each selected module passes or gives the interpreter's
reply, and the modules do nothing with replies, the engine echoes the interpreter. -/
theorem echoes_of_modules (hlimit : 0 < Seconds.ofNumber s.moduleTimeout)
    (hreturns : Returns (plainly s.interpreter m)) (hsilent : ∀ module ∈ s.modules, module.Silent)
    (hmodules : ∀ module ∈ s.select m.modules, module.Passes s.interpreter m ∨
      module.Gives s.interpreter m (plainly s.interpreter m)) : Echoes s.engine s.interpreter m := by
  have hquiet : ∀ module ∈ s.select m.modules, module.Silent := fun module hmem =>
    hsilent module (mem_of_mem_select hmem)
  have hafter (reply : Reply) := tells_after (m := m) hlimit reply hquiet
  rcases before_of_modules hlimit hreturns hmodules with hnone | hgiven
  · exact ⟨hreturns, engine_of_none hreturns hafter hnone⟩
  · exact ⟨hreturns, engine_of_given hafter hgiven⟩

/-- Without modules, nothing comes before the interpreter or after it. -/
theorem echoes_of_none (hreturns : Returns (plainly s.interpreter m)) (h : m.modules = []) :
    Echoes s.engine s.interpreter m := by
  have hselect : s.select m.modules = [] := by rw [h]; rfl
  refine ⟨hreturns, engine_of_none hreturns (fun reply => ?_) ?_⟩
  · rw [hselect]
    exact Action.tells_finished _
  · rw [hselect]
    exact Action.tells_finished _

end Engine

theorem returns_plainly {i : Interpreter} {m : Message} {now : Moment} {r : Reply}
    (h : plainly i m now = .ok r) : Returns (plainly i m) := by
  intro now'
  obtain ⟨r', hr', -⟩ := Conversation.Interpreter.step_agrees i m.graph h now'
  exact ⟨r', hr'⟩

/-! ### What the modules make of a message -/

section Standard

variable {nav : NavigationConfig} {cap : CaptureConfig} {i : Interpreter} {m : Message}
  {state : State} {text : String}

omit [Clocked σ] in
theorem tag_of_mem_select {s : Setup σ} {tags : List Capability} {module : Module σ}
    (h : module ∈ s.select tags) : module.tag ∈ tags := by
  obtain ⟨tag, htag, hfind⟩ := List.mem_filterMap.mp h
  have hsame : module.tag = tag := by
    have hfound := List.find?_some hfind
    exact of_decide_eq_true hfound
  rw [hsame]
  exact List.contains_iff_mem.mp (List.mem_filter.mp htag).2

/-- The modules of the setup are those for navigation and for answers. -/
def Setup.Standard (s : Setup σ) (nav : NavigationConfig) (cap : CaptureConfig)
    (normalizer : Option (Normalizer σ)) : Prop :=
  ∀ module ∈ s.modules, module = navigationModule nav ∨ module = captureModule cap normalizer

theorem Setup.Standard.silent {s : Setup σ} {normalizer : Option (Normalizer σ)}
    (h : s.Standard nav cap normalizer) : ∀ module ∈ s.modules, module.Silent := by
  intro module hmem
  rcases h module hmem with rfl | rfl
  · exact silent_navigationModule nav
  · exact silent_captureModule cap normalizer

theorem navigation_passes (h : navigationTarget nav m = .ok none) :
    (navigationModule nav : Module σ).Passes i m := by
  have hbefore : (navigationModule nav : Module σ).before i m = Action.result none := by
    show (Action.ofExcept (navigationTarget nav m)).andThen _ = _
    rw [h]
    rfl
  exact ⟨hbefore ▸ .finished _, hbefore ▸ Action.tells_finished _⟩

theorem navigation_gives {target : Value} (h : navigationTarget nav m = .ok (some (state, target))) :
    (navigationModule nav : Module σ).Gives i m (i.advance m.graph state target) := by
  have hbefore : (navigationModule nav : Module σ).before i m = Action.now.andThen fun now =>
      (Action.ofExcept (i.advance m.graph state target now)).andThen fun r =>
        Action.result (some r) := by
    show (Action.ofExcept (navigationTarget nav m)).andThen _ = _
    rw [h]
    rfl
  constructor
  · rw [hbefore]
    exact Action.prompt_now.andThen fun _ => (Action.Prompt.finished _).andThen fun _ => .finished _
  · rw [hbefore]
    refine Action.tells_now.andThen (fun now t ht => ?_) fun _ _ he => nomatch he
    rw [← Except.ok.inj ht]
    exact (Action.tells_finished _).map some

theorem capture_passes (normalizer : Option (Normalizer σ)) (h : questionAt m = .ok none) :
    (captureModule cap normalizer : Module σ).Passes i m := by
  have hbefore : (captureModule cap normalizer : Module σ).before i m = Action.result none := by
    show (Action.ofExcept (questionAt m)).andThen _ = _
    rw [h]
    rfl
  exact ⟨hbefore ▸ .finished _, hbefore ▸ Action.tells_finished _⟩

/-- The rules that an answer at a node is checked for. -/
def rulesOf (node : FlowNode) : Value :=
  match node.validation with
  | some fields => .object fields
  | none => .null

/-- No attempt is noted in the variables. -/
def Unattempted (cap : CaptureConfig) (state : State) : Prop :=
  state.context.get? cap.attemptsKey = none

theorem attemptsOf_eq_nil (h : Unattempted cap state) : attemptsOf cap state = .ok [] := by
  unfold attemptsOf Value.field
  rw [h]
  rfl

/-- There is nothing to forget. -/
theorem forgetAttempts_eq (h : Unattempted cap state) (node : FlowNode) :
    forgetAttempts cap node [] state.context = state.context := by
  have hname : cap.attemptsKey ∉ state.context.names :=
    Table.has_eq_false_iff.mp (by unfold Table.has; rw [h]; rfl)
  refine List.filter_eq_self.mpr fun entry hmem => ?_
  have hne : entry.1 ≠ cap.attemptsKey := fun heq => hname (heq ▸ List.mem_map_of_mem hmem)
  exact decide_eq_true hne

/-- What the first attempt at a question is taken for: an answer that passes the checks for its
normal form, any other one for itself without blanks around it, if there are no more attempts. -/
inductive TakenFor (cap : CaptureConfig) (node : FlowNode) (text : String) : String → Prop
  | sound :
    checkAnswer node.inputType (normalizeAnswer node.inputType text) (rulesOf node) = .ok none →
    TakenFor cap node text (normalizeAnswer node.inputType text)
  | last {reason : Value} :
    checkAnswer node.inputType (normalizeAnswer node.inputType text) (rulesOf node) =
      .ok (some reason) →
    grantsAttempt cap (.int 1) = .ok false → TakenFor cap node text (Unicode.strip text)

/-- An answer that is taken goes to the interpreter. -/
theorem capture_gives {node : FlowNode} {value : String}
    (hq : questionAt m = .ok (some (node, state, text))) (hcopy : state.copy = .ok state)
    (hattempts : Unattempted cap state) (htaken : TakenFor cap node text value) :
    (captureModule cap none : Module σ).Gives i m
      (plainly i { m with state := some state, text := some value, session := none }) := by
  have hbefore : (captureModule cap none : Module σ).before i m =
      (takeAnswer i m state value).andThen fun r => Action.result (some r) := by
    have hforget := forgetAttempts_eq hattempts node
    show (Action.ofExcept (questionAt m)).andThen _ = _
    rw [hq]
    cases htaken with
    | sound hverdict =>
      show ((Action.ofExcept (checkAnswer _ _ (rulesOf node))).andThen _).andThen _ = _
      rw [hverdict]
      show (Action.ofExcept (attemptsOf cap state)).andThen _ = _
      rw [attemptsOf_eq_nil hattempts]
      show (Action.ofExcept state.copy).andThen _ = _
      rw [hcopy]
      show (takeAnswer i m { state with context := forgetAttempts cap node [] state.context }
        _).andThen _ = _
      rw [hforget]
      rfl
    | last hverdict hgrants =>
      show ((Action.ofExcept (checkAnswer _ _ (rulesOf node))).andThen _).andThen _ = _
      rw [hverdict]
      show (Action.ofExcept (attemptsOf cap state)).andThen _ = _
      rw [attemptsOf_eq_nil hattempts]
      have hcount : (((Table.get? ([] : Fields Value) node.id).getD (.int 0)).plus (.int 1)) =
          .ok (.int 1) := rfl
      dsimp only [Action.ofExcept, Action.andThen]
      rw [hcount]
      dsimp only [Action.bind_eq, Action.andThen]
      rw [hgrants]
      dsimp only [Action.bind_eq, Action.andThen]
      rw [hcopy]
      show (takeAnswer i m { state with context := forgetAttempts cap node [] state.context }
        _).andThen _ = _
      rw [hforget]
      rfl
  have htake := tells_interpret (σ := σ) i
    { m with state := some state, text := some value, session := none }
  constructor
  · rw [hbefore]
    exact (prompt_interpret i _).andThen fun _ => .finished _
  · rw [hbefore]
    exact htake.map some

end Standard

end Parley.Enhanced
