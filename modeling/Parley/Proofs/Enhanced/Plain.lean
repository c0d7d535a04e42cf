import Parley.Proofs.Enhanced.Echo

/-!
# Parley.Proofs.Enhanced.Plain — messages that are no matter for the modules

A message is `Plain` if it says no phrase for navigation and, where it answers a question whose
answers are checked, is in good form.  `echoes_of_plain`: on a plain message the enhanced engine
echoes the interpreter, and without modules it does so on any message.
-/

namespace Parley.Enhanced

open Conversation (Interpreter Reply State)
open Template (FlowGraph FlowNode)
open Time (Clock Clocked Moment Seconds)

variable {σ : Type} [Clocked σ]

/-! ### Plain messages -/

/-- The settings for navigation, if there are any, are a table, and so are the phrases in it. -/
def Tabled (graph : FlowGraph) : Prop :=
  Value.field graph.metadata "navigation" = .null ∨
    ∃ settings, Value.field graph.metadata "navigation" = .object settings ∧
      (Value.field settings "keywords" = .null ∨
        ∃ own, Value.field settings "keywords" = .object own)

/-- Answers are not checked at the node: it asks nothing, or takes anything for an answer. -/
def Unchecked (node : FlowNode) : Prop :=
  node.kind ≠ .input ∨ node.inputType.truthy = false ∧ node.validation.getD [] = []

/-- The text is in the normal form of answers at the node, and passes the checks. -/
structure WellFormed (node : FlowNode) (text : String) : Prop where
  normal : normalizeAnswer node.inputType text = text
  passes : checkAnswer node.inputType text (rulesOf node) = .ok none

/-- The message is nothing to the modules: it says no phrase for navigation, and answers no question,
or one whose answers are not checked, or in good form and at the first attempt. -/
structure Plain (nav : NavigationConfig) (cap : CaptureConfig) (m : Message) : Prop where
  settings : Tabled m.graph
  phrase : ∀ text keywords, m.text = some text → keywordsFor nav m.graph = .ok keywords →
    keywords.get? (messagePhrase text) = none
  attempts : ∀ state, m.state = some state → Unattempted cap state
  answer : ∀ state text node, m.state = some state → m.text = some text →
    m.graph.lookup state.currentNodeId = .ok (some node) → Unchecked node ∨ WellFormed node text

theorem settingsTable_object (fields : Fields Value) (member : String) :
    settingsTable (.object fields) member = .ok fields := by
  unfold settingsTable
  split_ifs with h
  · rfl
  · have hempty : fields = [] := by simpa [Value.truthy] using h
    rw [hempty]

/-- Settings that are tables have phrases. -/
theorem keywordsFor_of_tabled {graph : FlowGraph} (h : Tabled graph) (nav : NavigationConfig) :
    ∃ keywords, keywordsFor nav graph = .ok keywords := by
  unfold keywordsFor
  rcases h with hnone | ⟨settings, hsettings, hnone | ⟨own, hown⟩⟩
  · rw [hnone]
    exact ⟨_, rfl⟩
  · rw [hsettings, settingsTable_object]
    show ∃ keywords, (settingsTable (Value.field settings "keywords") "items" >>= _) = _
    rw [hnone]
    exact ⟨_, rfl⟩
  · rw [hsettings, settingsTable_object]
    show ∃ keywords, (settingsTable (Value.field settings "keywords") "items" >>= _) = _
    rw [hown, settingsTable_object]
    exact ⟨_, rfl⟩

section Targets

variable {nav : NavigationConfig} {m : Message} {state : State} {text : String}

/-- What an open conversation asks for by a message that says something. -/
theorem navigationTarget_eq (hstate : m.state = some state) (htext : m.text = some text)
    (hopen : state.completed = false) (hsaid : text.isEmpty = false) {keywords : Fields Value}
    (hkeywords : keywordsFor nav m.graph = .ok keywords) :
    navigationTarget nav m =
      (match keywords.get? (messagePhrase text) with
      | none | some .null => .ok none
      | some action => (resolveTarget m.graph state action).bind fun found =>
        match found with
        | none => .ok none
        | some target =>
          if isCircular nav state target then .ok none else .ok (some (state, target))) := by
  unfold navigationTarget
  rw [hstate, htext]
  dsimp only
  rw [hopen, hsaid, hkeywords]
  rfl

theorem navigationTarget_of_none (h : m.state = none ∨ m.text = none) :
    navigationTarget nav m = .ok none := by
  unfold navigationTarget
  rcases h with h | h
  · rw [h]
  · rw [h]
    split <;> simp_all

theorem navigationTarget_of_skipped (hstate : m.state = some state) (htext : m.text = some text)
    (h : (state.completed || text.isEmpty) = true) : navigationTarget nav m = .ok none := by
  unfold navigationTarget
  rw [hstate, htext]
  exact if_pos h

theorem questionAt_of_none (h : m.state = none ∨ m.text = none) : questionAt m = .ok none := by
  unfold questionAt
  rcases h with h | h
  · rw [h]
  · rw [h]
    split <;> simp_all

theorem questionAt_of_completed (hstate : m.state = some state) (h : state.completed = true) :
    questionAt m = .ok none := by
  unfold questionAt
  rw [hstate]
  split
  · rename_i hsome _
    rw [← Option.some.inj hsome, if_pos h]
  · rfl

section Question

variable {node : FlowNode} (hstate : m.state = some state) (htext : m.text = some text)
  (hopen : state.completed = false) (hnode : m.graph.lookup state.currentNodeId = .ok (some node))
include hstate htext hopen hnode

theorem questionAt_eq : questionAt m =
    if node.kind = .input && (node.inputType.truthy || (node.validation.getD []) ≠ []) then
      .ok (some (node, state, text)) else .ok none := by
  unfold questionAt
  rw [hstate, htext]
  dsimp only
  rw [hopen, hnode]
  rfl

/-- Where answers are not checked, there is no question. -/
theorem questionAt_of_unchecked (h : Unchecked node) : questionAt m = .ok none := by
  rw [questionAt_eq hstate htext hopen hnode]
  refine if_neg fun hasked => ?_
  obtain ⟨hkind, hchecked⟩ := Bool.and_eq_true_iff.mp hasked
  rcases h with hother | ⟨htype, hrules⟩
  · exact hother (of_decide_eq_true hkind)
  · rw [htype, hrules] at hchecked
    exact absurd hchecked (by decide)

/-- Elsewhere the message is an answer. -/
theorem questionAt_of_checked (h : ¬ Unchecked node) :
    questionAt m = .ok (some (node, state, text)) := by
  rw [questionAt_eq hstate htext hopen hnode]
  obtain ⟨hkind, hchecked⟩ := not_or.mp h
  refine if_pos (Bool.and_eq_true_iff.mpr ⟨decide_eq_true (not_not.mp hkind), ?_⟩)
  by_cases htype : node.inputType.truthy = true
  · rw [htype]
    rfl
  · have hrules := not_and.mp hchecked (Bool.eq_false_iff.mpr htype)
    rw [decide_eq_true hrules]
    exact Bool.or_true _

end Question

end Targets

section Plain

variable {nav : NavigationConfig} {cap : CaptureConfig} {i : Interpreter} {m : Message}

theorem navigationTarget_of_plain (h : Plain nav cap m) : navigationTarget nav m = .ok none := by
  cases hstate : m.state with
  | none => exact navigationTarget_of_none (.inl hstate)
  | some state =>
    cases htext : m.text with
    | none => exact navigationTarget_of_none (.inr htext)
    | some text =>
      obtain ⟨keywords, hkeywords⟩ := keywordsFor_of_tabled h.settings nav
      by_cases hskip : (state.completed || text.isEmpty) = true
      · exact navigationTarget_of_skipped hstate htext hskip
      · obtain ⟨hopen, hsaid⟩ := Bool.or_eq_false_iff.mp (Bool.eq_false_iff.mpr hskip)
        rw [navigationTarget_eq hstate htext hopen hsaid hkeywords,
          h.phrase text keywords htext hkeywords]

/-- An answer in good form goes to the interpreter as it is. -/
theorem capture_of_plain (h : Plain nav cap m) {now : Moment} {r : Reply}
    (hreturns : plainly i m now = .ok r) :
    (captureModule cap none : Module σ).Passes i m ∨
      (captureModule cap none : Module σ).Gives i m (plainly i m) := by
  cases hstate : m.state with
  | none => exact .inl (capture_passes none (questionAt_of_none (.inl hstate)))
  | some state =>
    cases htext : m.text with
    | none => exact .inl (capture_passes none (questionAt_of_none (.inr htext)))
    | some text =>
      cases hopen : state.completed with
      | true => exact .inl (capture_passes none (questionAt_of_completed hstate hopen))
      | false =>
        unfold plainly at hreturns
        rw [hstate] at hreturns
        obtain ⟨hcalls, hsettle⟩ := (i.step_eq_ok m.graph).mp hreturns
        have hcopy : state.copy = .ok state := State.copy_eq_ok.mpr ⟨hcalls, rfl⟩
        rw [i.settle_open m.graph hopen] at hsettle
        obtain ⟨node, hnode, -⟩ := exceptBind_eq_ok.mp hsettle
        have hlookup := Conversation.lookup_of_nodeAt hnode
        by_cases hunchecked : Unchecked node
        · exact .inl (capture_passes none
            (questionAt_of_unchecked hstate htext hopen hlookup hunchecked))
        · have hquestion := questionAt_of_checked hstate htext hopen hlookup hunchecked
          have hformed := (h.answer state text node hstate htext hlookup).resolve_left hunchecked
          have htaken : TakenFor cap node text text := by
            have hnormal := hformed.normal
            have hverdict : checkAnswer node.inputType (normalizeAnswer node.inputType text)
                (rulesOf node) = .ok none := by
              rw [hnormal]
              exact hformed.passes
            have hsound : TakenFor cap node text (normalizeAnswer node.inputType text) :=
              .sound hverdict
            rw [hnormal] at hsound
            exact hsound
          have hgives :=
            capture_gives (σ := σ) (i := i) hquestion hcopy (h.attempts state hstate) htaken
          have hsame : plainly i m =
              plainly i { m with state := some state, text := some text, session := none } := by
            unfold plainly
            rw [hstate, htext]
            rfl
          rw [hsame]
          exact .inr hgives

/-- **A conservative extension.**  Where the interpreter has a reply to a message, the enhanced engine
gives this very reply, under all circumstances, if no module is selected, or if the message is plain
and there is some time for the modules.  Any of the modules may be selected; the one for answers has
no service behind it. -/
theorem echoes_of_plain {s : Setup σ} (hs : s.Standard nav cap none) {now : Moment} {r : Reply}
    (hreturns : s.interpreter.step m.graph m.state m.text m.session now = .ok r)
    (h : m.modules = [] ∨ 0 < Seconds.ofNumber s.moduleTimeout ∧ Plain nav cap m) :
    Echoes s.engine s.interpreter m := by
  have halways := returns_plainly (i := s.interpreter) (m := m) hreturns
  rcases h with hnone | ⟨hlimit, hplain⟩
  · exact echoes_of_none halways hnone
  · refine echoes_of_modules hlimit halways hs.silent fun module hmem => ?_
    rcases hs module (mem_of_mem_select hmem) with rfl | rfl
    · exact .inl (navigation_passes (navigationTarget_of_plain hplain))
    · exact capture_of_plain hplain hreturns

end Plain

/-! ### A question for an address -/

section Signup

/-- A question whose answers are checked, and a farewell. -/
def signup : Value :=
  .object [("id", .text "signup"), ("entryNodeId", .text "ask"), ("nodes", .list [
    .object [("id", .text "ask"), ("type", .text "input"), ("content", .text "Your email?"),
      ("inputType", .text "email"), ("variableName", .text "email"), ("next", .text "bye")],
    .object [("id", .text "bye"), ("type", .text "terminal"), ("content", .text "Bye!")]])]

theorem readGraph_signup : ∃ graph node, Template.readGraph signup .null .null = .ok graph ∧
    graph.entry = "ask" ∧ graph.metadata = [] ∧ graph.node? "ask" = some node ∧
      node.inputType = .text "email" ∧ node.validation = none := by
  have h : (Template.readGraph signup .null .null).toOption.any (fun graph =>
      graph.entry = "ask" && graph.metadata = [] && (graph.node? "ask").any fun node =>
        node.inputType = .text "email" && node.validation = none) = true := by decide +kernel
  obtain ⟨graph, hread, h⟩ := exists_of_any h
  simp only [Bool.and_eq_true, decide_eq_true_eq, Option.any_eq_true] at h
  obtain ⟨⟨hentry, hmetadata⟩, node, hnode, htype, hrules⟩ := h
  exact ⟨graph, node, hread, hentry, hmetadata, hnode, htype, hrules⟩

/-- Both modules around an interpreter. -/
def standard : Setup Clock :=
  ⟨[navigationModule .default, captureModule .default none], {}, .real 2⟩

theorem standard_standard : standard.Standard .default .default none := by
  intro module hmem
  rcases List.mem_pair.mp hmem with h | h
  · exact .inl h
  · exact .inr h

theorem someTime_standard : 0 < Seconds.ofNumber standard.moduleTimeout := by decide +kernel

/-- The conversation starts anew; it was stored before. -/
def restarted : State where
  flowId := .text "signup"
  tenantId := .text "acme"
  userId := .text "ann"
  sessionId := .text "1"
  currentNodeId := .text "ask"
  context := []
  history := []
  startedAt := ⟨0, none⟩
  lastUpdatedAt := ⟨0, none⟩
  completed := false
  version := 1

/-- The address was asked for. -/
def asked : State := { restarted with history := [.text "ask"] }

/-- A message that both modules are called for. -/
def saying (text : String) (state : State) (graph : FlowGraph) : Message :=
  ⟨graph, some state, some text, none, Capability.all⟩

theorem keywordsFor_default {graph : FlowGraph} (h : graph.metadata = []) :
    keywordsFor .default graph = .ok defaultKeywords := by
  unfold keywordsFor
  rw [h]
  rfl

/-- An address is not a phrase, and in good form. -/
theorem plain_address {graph : FlowGraph} {node : FlowNode} (hmetadata : graph.metadata = [])
    (hnode : graph.node? "ask" = some node) (htype : node.inputType = .text "email")
    (hrules : node.validation = none) :
    Plain .default .default (saying "ann@example.org" asked graph) := by
  have hkeywords := keywordsFor_default hmetadata
  constructor
  · left
    show Value.field graph.metadata "navigation" = .null
    rw [hmetadata]
    rfl
  · intro text keywords htext h
    rw [← Except.ok.inj (hkeywords.symm.trans h), ← Option.some.inj htext]
    decide +kernel
  · intro state hstate
    rw [← Option.some.inj hstate]
    rfl
  · intro state text found hstate htext hfound
    rw [← Option.some.inj hstate] at hfound
    rw [← Option.some.inj htext]
    have hsame : node = found := Option.some.inj (hnode.symm.trans (Except.ok.inj hfound))
    rw [← hsame]
    refine .inr ⟨?_, ?_⟩
    · rw [htype]
      decide +kernel
    · unfold rulesOf
      rw [htype, hrules]
      rfl

/-- The address is taken as the interpreter takes it. -/
theorem echoes_of_plain_signup : ∃ graph r,
    Template.readGraph signup .null .null = .ok graph ∧
      standard.interpreter.step graph (some asked) (some "ann@example.org") none ⟨0, none⟩ =
        .ok r ∧
      Plain .default .default (saying "ann@example.org" asked graph) ∧
      Echoes standard.engine standard.interpreter (saying "ann@example.org" asked graph) := by
  obtain ⟨graph, node, hread, -, hmetadata, hnode, htype, hrules⟩ := readGraph_signup
  have hplain := plain_address hmetadata hnode htype hrules
  have hreplies : ((Template.readGraph signup .null .null).toOption.any fun graph =>
      (standard.interpreter.step graph (some asked) (some "ann@example.org") none ⟨0, none⟩).isOk) =
      true := by decide +kernel
  have hok := test_of_any hread hreplies
  obtain ⟨r, hr⟩ := exists_of_isOk hok
  exact ⟨graph, r, hread, hr, hplain,
    echoes_of_plain standard_standard (m := saying "ann@example.org" asked graph) hr
      (.inr ⟨someTime_standard, hplain⟩)⟩

end Signup

end Parley.Enhanced
