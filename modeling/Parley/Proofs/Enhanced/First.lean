import Parley.Proofs.Conversation.Unspoken
import Parley.Proofs.Enhanced.Plain

/-!
# Parley.Proofs.Enhanced.First — the first message of a conversation

The first message only starts a conversation, and for the modules it is mostly no matter either:
`echoes_of_first`.  But they know a first message by the lack of a state, where the interpreter looks
at the history, and a conversation that starts anew has a state without a history
(`not_started_email`).
-/

namespace Parley.Enhanced

open Parley.Action (Returns)
open Conversation (Interpreter Reply SessionKey State)
open Template (FlowGraph FlowNode)
open Time (Clock Clocked Moment Seconds)

section First

variable {σ : Type} [Clocked σ] {nav : NavigationConfig} {cap : CaptureConfig}
  {normalizer : Option (Normalizer σ)} {i : Interpreter} {graph : FlowGraph} {m : Message}
  {state : State}

/-- The conversation is at its start, and nothing has happened in it. -/
structure Fresh (graph : FlowGraph) (state : State) : Prop where
  place : state.currentNodeId = .text graph.entry
  unvisited : state.history = []
  unknown : state.context = []
  going : state.completed = false

theorem fresh_initial (graph : FlowGraph) (key : SessionKey) (now : Moment) :
    Fresh graph (State.initial graph key now) := ⟨rfl, rfl, rfl, rfl⟩

/-- What the first message says is nothing to the interpreter. -/
theorem settle_fresh (hf : Fresh graph state) (i : Interpreter) (text : Option String)
    (now : Moment) :
    i.settle graph text now state = (Interpreter.nodeAt graph (.text graph.entry)).bind fun node =>
      (i.enterAndRun graph node (Reply.idle state)).map (·.touch now) := by
  rw [i.settle_open graph hf.going, hf.place]
  unfold Interpreter.goOn
  rw [hf.unvisited]
  rfl

theorem step_fresh (hf : Fresh graph state) (i : Interpreter) (text text' : Option String)
    (session session' : Option SessionKey) (now : Moment) :
    i.step graph (some state) text session now = i.step graph (some state) text' session' now := by
  rw [i.step_some, i.step_some]
  cases hcopied : state.copy with
  | error f => rfl
  | ok copied =>
    obtain ⟨-, rfl⟩ := State.copy_eq_ok.mp hcopied
    exact (settle_fresh hf i text now).trans (settle_fresh hf i text' now).symm

/-- To go to the start of a conversation that is there already is to begin it. -/
theorem advance_fresh (hg : graph.Closed) (hf : Fresh graph state) (i : Interpreter)
    (text : Option String) (session : Option SessionKey) (now : Moment) :
    i.advance graph state (.text graph.entry) now = i.step graph (some state) text session now := by
  obtain ⟨node, hnode⟩ := Option.isSome_iff_exists.mp hg.entered
  have hlookup : graph.lookup (.text graph.entry) = .ok (some node) := congrArg Except.ok hnode
  have hsame : { state with completed := false } = state := by
    have hgoing := hf.going
    cases state
    dsimp only at hgoing
    rw [hgoing]
  rw [Conversation.advance_at i state hlookup, i.step_some]
  cases hcopied : state.copy with
  | error f => rfl
  | ok copied =>
    obtain ⟨-, rfl⟩ := State.copy_eq_ok.mp hcopied
    show (i.enterAndRun graph node (Reply.idle { copied with completed := false })).map _ =
      i.settle graph text now copied
    rw [settle_fresh hf, Interpreter.nodeAt_eq graph hlookup, hsame]
    rfl

/-- The text is no phrase that leads anywhere but to the start. -/
def Homeward (nav : NavigationConfig) (graph : FlowGraph) (text : String) : Prop :=
  ∃ keywords, keywordsFor nav graph = .ok keywords ∧
    ∀ action, keywords.get? (messagePhrase text) = some action →
      action = .null ∨ action = .text backAction ∨ action = .text restartAction ∨
        action = .text graph.entry

/-- What the selected modules hear of the first message makes no difference: it asks to be taken
nowhere else, and would be taken for an answer at once. -/
structure Unheard (nav : NavigationConfig) (cap : CaptureConfig)
    (normalizer : Option (Normalizer σ)) (m : Message) : Prop where
  homeward : .dynamicNavigation ∈ m.modules → ∀ text, m.text = some text → Homeward nav m.graph text
  taken : .enhancedCapture ∈ m.modules → ∀ text node, m.text = some text →
    m.graph.node? m.graph.entry = some node →
    Unchecked node ∨ normalizer = none ∧ ∃ value, TakenFor cap node text value

/-- Where a fresh conversation may be led. -/
theorem resolveTarget_fresh (hg : graph.Closed) (hf : Fresh graph state) {action : Value}
    (haction : action = .text backAction ∨ action = .text restartAction ∨
      action = .text graph.entry) :
    resolveTarget graph state action = .ok none ∨
      resolveTarget graph state action = .ok (some (.text graph.entry)) := by
  have hentry : ∃ node, graph.lookup (.text graph.entry) = .ok (some node) := by
    obtain ⟨node, hnode⟩ := Option.isSome_iff_exists.mp hg.entered
    exact ⟨node, congrArg Except.ok hnode⟩
  unfold resolveTarget
  split_ifs with hrestart hback
  · exact .inr rfl
  · rw [hf.unvisited]
    exact .inl rfl
  · obtain rfl := (haction.resolve_left hback).resolve_left hrestart
    obtain ⟨node, hnode⟩ := hentry
    rw [hnode]
    exact .inr rfl

theorem navigationTarget_fresh (hg : m.graph.Closed) (hstate : m.state = some state)
    (hf : Fresh m.graph state)
    (hhome : ∀ text, m.text = some text → Homeward nav m.graph text) :
    navigationTarget nav m = .ok none ∨
      navigationTarget nav m = .ok (some (state, .text m.graph.entry)) := by
  cases htext : m.text with
  | none => exact .inl (navigationTarget_of_none (.inr htext))
  | some text =>
    cases hsaid : text.isEmpty with
    | true =>
      have hskip : (state.completed || text.isEmpty) = true := by rw [hsaid]; exact Bool.or_true _
      exact .inl (navigationTarget_of_skipped hstate htext hskip)
    | false =>
      obtain ⟨keywords, hkeywords, hactions⟩ := hhome text htext
      rw [navigationTarget_eq hstate htext hf.going hsaid hkeywords]
      split
      · exact .inl rfl
      · exact .inl rfl
      · rename_i action hnotNull haction
        have hleads := (hactions action haction).resolve_left hnotNull
        rcases resolveTarget_fresh hg hf hleads with hnone | hstart
        · rw [hnone]
          exact .inl rfl
        · rw [hstart]
          dsimp only [Except.bind]
          split_ifs
          · exact .inl rfl
          · exact .inr rfl

theorem navigation_fresh (hg : m.graph.Closed) (hstate : m.state = some state)
    (hf : Fresh m.graph state)
    (hhome : ∀ text, m.text = some text → Homeward nav m.graph text) :
    (navigationModule nav : Module σ).Passes i m ∨
      (navigationModule nav : Module σ).Gives i m (plainly i m) := by
  rcases navigationTarget_fresh hg hstate hf hhome with hnone | hstart
  · exact .inl (navigation_passes hnone)
  · have hsame : i.advance m.graph state (.text m.graph.entry) = plainly i m := by
      funext now
      unfold plainly
      rw [hstate]
      exact advance_fresh hg hf i m.text m.session now
    have hgives := navigation_gives (σ := σ) (i := i) hstart
    rw [hsame] at hgives
    exact .inr hgives

theorem capture_fresh (hg : m.graph.Closed) (hstate : m.state = some state)
    (hf : Fresh m.graph state) (hcopy : state.copy = .ok state)
    (htaken : ∀ text node, m.text = some text → m.graph.node? m.graph.entry = some node →
      Unchecked node ∨ normalizer = none ∧ ∃ value, TakenFor cap node text value) :
    (captureModule cap normalizer : Module σ).Passes i m ∨
      (captureModule cap normalizer : Module σ).Gives i m (plainly i m) := by
  cases htext : m.text with
  | none => exact .inl (capture_passes normalizer (questionAt_of_none (.inr htext)))
  | some text =>
    obtain ⟨node, hnode⟩ := Option.isSome_iff_exists.mp hg.entered
    have hlookup : m.graph.lookup state.currentNodeId = .ok (some node) := by
      rw [hf.place]
      exact congrArg Except.ok hnode
    by_cases hunchecked : Unchecked node
    · exact .inl (capture_passes normalizer
        (questionAt_of_unchecked hstate htext hf.going hlookup hunchecked))
    · have hquestion := questionAt_of_checked hstate htext hf.going hlookup hunchecked
      obtain ⟨hservice, value, hvalue⟩ := (htaken text node htext hnode).resolve_left hunchecked
      have hattempts : Unattempted cap state := by
        unfold Unattempted
        rw [hf.unknown]
        rfl
      have hsame : plainly i { m with state := some state, text := some value, session := none } =
          plainly i m := by
        funext now
        unfold plainly
        rw [hstate]
        exact step_fresh hf i (some value) m.text none m.session now
      have hgives := capture_gives (σ := σ) (i := i) hquestion hcopy hattempts hvalue
      rw [hsame] at hgives
      rw [hservice]
      exact .inr hgives

/-- The reply to a first message: the conversation is entered at its start, no answer is taken, and
the text is read by nobody. -/
structure Starts (i : Interpreter) (m : Message) (now : Moment) (r : Reply) : Prop where
  entered : r.visited.head? = some m.graph.entry
  uncaptured : r.captured = none
  unread : ∀ text, plainly i { m with text := text } now = .ok r

theorem starts_fresh (hg : m.graph.Closed) (hf : Fresh m.graph state) (i : Interpreter)
    (now : Moment) :
    UnlessLimited (fun r => r.visited.head? = some m.graph.entry ∧ r.captured = none)
      (i.settle m.graph m.text now state) := by
  obtain ⟨node, hnode⟩ := Option.isSome_iff_exists.mp hg.entered
  have hlookup : m.graph.lookup state.currentNodeId = .ok (some node) := by
    rw [hf.place]
    exact congrArg Except.ok hnode
  have hanswers := Conversation.settle_trail hg i state hlookup m.text now
  refine .of_cases (fun r hr => ⟨?_, ?_⟩) fun f => hanswers.isLimit
  · rw [(hanswers.holds hr).first hf.going hf.unvisited, hg.named hnode]
  · exact (Conversation.unspoken_of_settle hf.unvisited hr).captured

/-- A first message comes to the same whatever it says. -/
theorem plainly_first (hfirst : m.state = none ∧ m.session.isSome = true ∨
      ∃ state, m.state = some state ∧ Fresh m.graph state) (i : Interpreter)
    (text : Option String) (now : Moment) :
    plainly i { m with text := text } now = plainly i m now := by
  unfold plainly
  rcases hfirst with ⟨hnone, hsession⟩ | ⟨state, hstate, hf⟩
  · obtain ⟨key, hkey⟩ := Option.isSome_iff_exists.mp hsession
    have hfresh := fresh_initial m.graph key now
    dsimp only
    rw [hnone, hkey, i.step_initial, i.step_initial, settle_fresh hfresh, settle_fresh hfresh]
  · dsimp only
    rw [hstate]
    exact step_fresh hf i text m.text m.session m.session now

/-- **The first message only starts a conversation.**  On a graph of an accepted template, with no
state, or with the fresh state of a conversation that starts anew, the interpreter enters the graph
at its entry, takes no answer and reads no text, unless it meets a limit; and where it replies, the
enhanced engine echoes it, with any of its modules selected.  With a fresh state that is so if the
modules do not hear the message: it is no phrase that leads elsewhere, and the entry does not check
answers, or would take the message for one at the first attempt. -/
theorem echoes_of_first {s : Setup σ} (hs : s.Standard nav cap normalizer)
    (hlimit : m.modules = [] ∨ 0 < Seconds.ofNumber s.moduleTimeout) (hg : m.graph.Closed)
    (hfirst : m.state = none ∧ m.session.isSome = true ∨
      ∃ state, m.state = some state ∧ Fresh m.graph state ∧ Unheard nav cap normalizer m) :
    (∀ now r, plainly s.interpreter m now = .ok r → Echoes s.engine s.interpreter m) ∧
      ∀ now, UnlessLimited (Starts s.interpreter m now) (plainly s.interpreter m now) := by
  have hunread := plainly_first (hfirst.imp_right fun ⟨state, hstate, hf, _⟩ => ⟨state, hstate, hf⟩)
    s.interpreter
  refine ⟨fun now r hr => ?_, fun now => ?_⟩
  · have hreturns : Returns (plainly s.interpreter m) := returns_plainly hr
    rcases hlimit with hnone | hlimit
    · exact echoes_of_none hreturns hnone
    · refine echoes_of_modules hlimit hreturns hs.silent fun module hmem => ?_
      have htag := tag_of_mem_select hmem
      rcases hfirst with ⟨hnone, -⟩ | ⟨state, hstate, hf, hunheard⟩
      · rcases hs module (mem_of_mem_select hmem) with rfl | rfl
        · exact .inl (navigation_passes (navigationTarget_of_none (.inl hnone)))
        · exact .inl (capture_passes normalizer (questionAt_of_none (.inl hnone)))
      · rcases hs module (mem_of_mem_select hmem) with rfl | rfl
        · exact navigation_fresh hg hstate hf (hunheard.homeward htag)
        · unfold plainly at hr
          rw [hstate] at hr
          have hcopy := State.copy_eq_ok.mpr ⟨((s.interpreter.step_eq_ok m.graph).mp hr).1, rfl⟩
          exact capture_fresh hg hstate hf hcopy (hunheard.taken htag)
  · have hstarts : UnlessLimited
        (fun r => r.visited.head? = some m.graph.entry ∧ r.captured = none)
        (plainly s.interpreter m now) := by
      unfold plainly
      rcases hfirst with ⟨hnone, hsession⟩ | ⟨state, hstate, hf, -⟩
      · obtain ⟨key, hkey⟩ := Option.isSome_iff_exists.mp hsession
        rw [hnone, hkey, Interpreter.step_initial]
        exact starts_fresh hg (fresh_initial m.graph key now) s.interpreter now
      · rw [hstate, Interpreter.step_some]
        exact state.unlessLimited_copy.bind fun _ h =>
          h ▸ starts_fresh hg hf s.interpreter now
    refine .of_cases (fun r hr => ?_) fun f => hstarts.isLimit
    obtain ⟨hentered, huncaptured⟩ := hstarts.holds hr
    exact ⟨hentered, huncaptured, fun text => (hunread text now).trans hr⟩

end First

section Signup

/-- A first message that happens to be an address is not heard. -/
theorem echoes_of_first_signup : ∃ graph,
    Template.readGraph signup .null .null = .ok graph ∧ Fresh graph restarted ∧
      Unheard .default .default (none : Option (Normalizer Clock))
        (saying "Ann@Example.org" restarted graph) ∧
      Echoes standard.engine standard.interpreter (saying "Ann@Example.org" restarted graph) := by
  obtain ⟨graph, node, hread, hentry, hmetadata, hnode, htype, hrules⟩ := readGraph_signup
  have hfresh : Fresh graph restarted := by
    refine ⟨?_, rfl, rfl, rfl⟩
    rw [hentry]
    rfl
  have hunheard : Unheard .default .default (none : Option (Normalizer Clock))
      (saying "Ann@Example.org" restarted graph) := by
    constructor
    · intro _ text htext
      refine ⟨defaultKeywords, keywordsFor_default hmetadata, fun action haction => ?_⟩
      rw [← Option.some.inj htext] at haction
      have hnone : defaultKeywords.get? (messagePhrase "Ann@Example.org") = none := by
        decide +kernel
      rw [hnone] at haction
      exact nomatch haction
    · intro _ text found htext hfound
      have hplace : graph.node? graph.entry = some node := by rw [hentry]; exact hnode
      have hsame : node = found := Option.some.inj (hplace.symm.trans hfound)
      rw [← Option.some.inj htext, ← hsame]
      refine .inr ⟨rfl, _, .sound ?_⟩
      have hnormal : normalizeAnswer (.text "email") "Ann@Example.org" = "ann@example.org" := by
        decide +kernel
      unfold rulesOf
      rw [htype, hrules, hnormal]
      rfl
  have hreplies : ((Template.readGraph signup .null .null).toOption.any fun graph =>
      (plainly standard.interpreter (saying "Ann@Example.org" restarted graph) ⟨0, none⟩).isOk) =
      true := by decide +kernel
  have hok := test_of_any hread hreplies
  obtain ⟨r, hr⟩ := exists_of_isOk hok
  exact ⟨graph, hread, hfresh, hunheard,
    (echoes_of_first standard_standard (.inr someTime_standard)
      (Template.closed_of_readGraph hread) (.inr ⟨restarted, rfl, hfresh, hunheard⟩)).1 _ r hr⟩

/-- **A first message that is taken for an answer.**  A conversation starts anew at a question for an
address.  The interpreter asks it; the enhanced engine finds that the message is no address, and asks
for another one, so that the conversation has still not been entered. -/
theorem not_started_email : ∃ graph plain own,
    Template.readGraph signup .null .null = .ok graph ∧ Fresh graph restarted ∧
      plainly standard.interpreter (saying "hello" restarted graph) ⟨0, none⟩ = .ok plain ∧
      ((standard.engine (saying "hello" restarted graph)).run ⟨0, 0, ⟨0, none⟩⟩).1 = .ok own ∧
      plain.visited = ["ask"] ∧ plain.texts = [.text "Your email?"] ∧ own.visited = [] ∧
      own.state.history = [] ∧ own.captured = some false ∧
      own.texts = [.text "Please enter a valid email address."] := by
  have h : (Template.readGraph signup .null .null).toOption.any (fun graph =>
      graph.entry = "ask" &&
      (plainly standard.interpreter (saying "hello" restarted graph) ⟨0, none⟩).toOption.any
        (fun plain => plain.visited = ["ask"] && plain.texts = [.text "Your email?"]) &&
      ((standard.engine (saying "hello" restarted graph)).run ⟨0, 0, ⟨0, none⟩⟩).1.toOption.any
        (fun own => own.visited = [] && own.state.history = [] && own.captured = some false &&
          own.texts = [.text "Please enter a valid email address."])) = true := by
    decide +kernel
  obtain ⟨graph, hread, h⟩ := exists_of_any h
  simp only [Bool.and_eq_true, decide_eq_true_eq] at h
  obtain ⟨⟨hentry, hplain⟩, hown⟩ := h
  obtain ⟨plain, hstep, hplain⟩ := exists_of_any hplain
  obtain ⟨own, hrun, hown⟩ := exists_of_any hown
  simp only [Bool.and_eq_true, decide_eq_true_eq] at hplain hown
  obtain ⟨hvisited, htexts⟩ := hplain
  obtain ⟨⟨⟨hunvisited, hhistory⟩, hcaptured⟩, hasked⟩ := hown
  have hfresh : Fresh graph restarted := by
    refine ⟨?_, rfl, rfl, rfl⟩
    rw [hentry]
    rfl
  exact ⟨graph, plain, own, hread, hfresh, hstep, hrun, hvisited, htexts, hunvisited, hhistory,
    hcaptured, hasked⟩

end Signup

end Parley.Enhanced
