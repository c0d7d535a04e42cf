import Parley.Proofs.Conversation.Unspoken
import Parley.Proofs.Enhanced.Plain

/-!
# Parley.Proofs.Enhanced.Keywords — what becomes of a phrase for navigation

A phrase that leads somewhere is no answer: the reply is that of a jump, which sees no text
(`unanswered_of_keyword`).  So it is for every state that a conversation can reach, whatever engines
have replied in it, unless navigation `Declines` the jump.  Then the phrase falls through to the
question, and is stored as its answer (`answered_back`).
-/

namespace Parley.Enhanced

open Parley.Action (Returns Tells)
open Conversation (Interpreter Reply SessionKey Spares State Walk)
open Template (FlowGraph FlowNode)
open Time (Clock Clocked Moment Seconds)

variable {σ : Type} [Clocked σ]

/-! ### States of conversations -/

/-- Conversations in a graph, with replies of any faithful engines to any messages.  Whoever stores a
state may give it any version. -/
inductive Reached (σ : Type) (graph : FlowGraph) : State → Prop
  | first {e : Engine σ} {m : Message} {r : Reply} (version : Int) :
    Faithful e → m.graph = graph → m.state = none → (e m).MayEnd (.ok r) →
    Reached σ graph { r.state with version := version }
  | next {e : Engine σ} {m : Message} {r : Reply} {state : State} (version : Int) :
    Reached σ graph state → Faithful e → m.graph = graph → m.state = some state →
    (e m).MayEnd (.ok r) → Reached σ graph { r.state with version := version }

/-- All places of the history are nodes. -/
def Trodden (graph : FlowGraph) (history : List Value) : Prop :=
  ∀ id ∈ history, ∃ node, graph.lookup id = .ok (some node)

variable {graph : FlowGraph} {state : State}

/-- A walk treads on nodes only. -/
theorem trodden_of_walk {before : State} {r : Reply} (h : Walk graph before r)
    (hb : Trodden graph before.history) : Trodden graph r.state.history := by
  intro id hid
  rw [h.history] at hid
  rcases List.mem_append.mp hid with hid | hid
  · exact hb id hid
  · obtain ⟨name, hname, rfl⟩ := List.mem_map.mp hid
    obtain ⟨node, hnode⟩ := Option.isSome_iff_exists.mp (h.nodes name hname)
    exact ⟨node, congrArg Except.ok hnode⟩

/-- One reply leads from one trodden history to another one. -/
theorem trodden_of_walks {m : Message} {r : Reply} (h : Walks m r)
    (hb : ∀ s, m.state = some s → Trodden m.graph s.history) : Trodden m.graph r.state.history := by
  obtain ⟨working, hworking, hwalk⟩ := h.walk
  refine trodden_of_walk hwalk ?_
  cases hworking with
  | state hstate => exact hb _ hstate
  | contact now _ _ => exact fun id hid => nomatch hid

omit [Clocked σ] in
/-- **Conversations tread on nodes only.** -/
theorem trodden_of_reached (hg : graph.Closed) (h : Reached σ graph state) :
    Trodden graph state.history := by
  induction h with
  | first version he hgraph hnone hend =>
    have hwalks := he _ _ (hgraph ▸ hg) hend
    rw [← hgraph]
    exact trodden_of_walks hwalks fun s hs => nomatch hnone.symm.trans hs
  | next version _ he hgraph hstate hend ih =>
    have hwalks := he _ _ (hgraph ▸ hg) hend
    rw [← hgraph]
    refine trodden_of_walks hwalks fun s hs => ?_
    rw [← Option.some.inj (hstate.symm.trans hs), hgraph]
    exact ih

/-! ### Where a phrase leads -/

/-- The node of an earlier question than the current one. -/
structure EarlierQuestion (graph : FlowGraph) (current id : Value) : Prop where
  blocks : ∃ node, graph.lookup id = .ok (some node) ∧ node.isBlocking = true
  other : id.equal current = false

/-- Of the places of a trodden history, the latest earlier question is found, if there is one. -/
theorem lastQuestion_spec (current : Value) {ids : List Value} (h : Trodden graph ids) :
    (∃ id ∈ ids, EarlierQuestion graph current id ∧
      lastQuestion graph current ids = .ok (some id)) ∨
      lastQuestion graph current ids = .ok none ∧
        ∀ id ∈ ids, ¬ EarlierQuestion graph current id := by
  induction ids with
  | nil => exact .inr ⟨rfl, fun id hid => absurd hid List.not_mem_nil⟩
  | cons id earlier ih =>
    obtain ⟨node, hnode⟩ := h id List.mem_cons_self
    have hunfold : lastQuestion graph current (id :: earlier) =
        if node.isBlocking && !id.equal current then .ok (some id)
        else lastQuestion graph current earlier := by
      show graph.lookup id >>= _ = _
      rw [hnode]
      rfl
    rw [hunfold]
    split_ifs with hquestion
    · obtain ⟨hblocks, hother⟩ := Bool.and_eq_true_iff.mp hquestion
      exact .inl ⟨id, List.mem_cons_self, ⟨⟨node, hnode, hblocks⟩, by simpa using hother⟩, rfl⟩
    · rcases ih fun id hid => h id (List.mem_cons_of_mem _ hid) with
        ⟨found, hmem, hfound⟩ | ⟨hnone, hnowhere⟩
      · exact .inl ⟨found, List.mem_cons_of_mem _ hmem, hfound⟩
      · refine .inr ⟨hnone, fun other hmem hearlier => ?_⟩
        rcases List.mem_cons.mp hmem with rfl | hmem
        · obtain ⟨node', hnode', hblocks⟩ := hearlier.blocks
          have hsame : node = node' := Option.some.inj (Except.ok.inj (hnode.symm.trans hnode'))
          rw [hsame, hblocks, hearlier.other] at hquestion
          exact hquestion rfl
        · exact hnowhere other hmem hearlier

/-- The target of an action exists: it is the start, the question before, or a node. -/
def Known (graph : FlowGraph) (action : Value) : Prop :=
  action = .text restartAction ∨ action = .text backAction ∨
    ∃ node, graph.lookup action = .ok (some node)

/-- The ways in which navigation leaves an action to others: the message is empty, there is no earlier
question to go back to, or the target was visited too often of late. -/
inductive Declines (nav : NavigationConfig) (graph : FlowGraph) (state : State) (text : String)
    (action : Value) : Prop
  | unsaid : text.isEmpty = true → Declines nav graph state text action
  | nowhere : action = .text backAction →
    (∀ id ∈ state.history.dropLast, ¬ EarlierQuestion graph state.currentNodeId id) →
    Declines nav graph state text action
  | circular {target : Value} : resolveTarget graph state action = .ok (some target) →
    isCircular nav state target = true → Declines nav graph state text action

/-- An action whose target exists leads to a node, or back to where no earlier question is. -/
theorem resolveTarget_spec (hg : graph.Closed) (htrodden : Trodden graph state.history)
    {action : Value} (hknown : Known graph action) :
    (∃ target node, resolveTarget graph state action = .ok (some target) ∧
      graph.lookup target = .ok (some node)) ∨
    resolveTarget graph state action = .ok none ∧ action = .text backAction ∧
      ∀ id ∈ state.history.dropLast, ¬ EarlierQuestion graph state.currentNodeId id := by
  unfold resolveTarget
  split_ifs with hrestart hback
  · obtain ⟨node, hnode⟩ := Option.isSome_iff_exists.mp hg.entered
    exact .inl ⟨_, node, rfl, congrArg Except.ok hnode⟩
  · have hearlier : Trodden graph state.history.dropLast.reverse := fun id hid =>
      htrodden id (List.dropLast_subset _ (List.mem_reverse.mp hid))
    rcases lastQuestion_spec state.currentNodeId hearlier with
      ⟨id, -, hquestion, hfound⟩ | ⟨hnone, hnowhere⟩
    · obtain ⟨node, hnode, -⟩ := hquestion.blocks
      exact .inl ⟨id, node, hfound, hnode⟩
    · exact .inr ⟨hnone, hback, fun id hid => hnowhere id (List.mem_reverse.mpr hid)⟩
  · obtain ⟨node, hnode⟩ := (hknown.resolve_left hrestart).resolve_left hback
    rw [hnode]
    exact .inl ⟨action, node, rfl, hnode⟩

/-! ### Phrases are not answers -/

section Phrase

variable {nav : NavigationConfig} {cap : CaptureConfig} {normalizer : Option (Normalizer σ)}
  {m : Message} {text : String} {keywords : Fields Value} {action : Value}

/-- The module for navigation comes first. -/
theorem select_of_navigation {s : Setup σ} (hs : s.Standard nav cap normalizer)
    (hmem : navigationModule nav ∈ s.modules) {tags : List Capability}
    (htag : .dynamicNavigation ∈ tags) : ∃ more, s.select tags = navigationModule nav :: more := by
  obtain ⟨found, hfound⟩ : ∃ found, s.modules.find? (·.tag = .dynamicNavigation) = some found :=
    Option.isSome_iff_exists.mp
      (List.find?_isSome.mpr ⟨navigationModule nav, hmem, decide_eq_true rfl⟩)
  have hnavigation : found = navigationModule nav := by
    rcases hs found (List.mem_of_find?_eq_some hfound) with h | h
    · exact h
    · have htag := List.find?_some hfound
      rw [h] at htag
      exact nomatch of_decide_eq_true htag
  have horder : Capability.order.filter (tags.contains ·) =
      .dynamicNavigation :: [Capability.enhancedCapture].filter (tags.contains ·) :=
    List.filter_cons_of_pos (List.contains_iff_mem.mpr htag)
  unfold Setup.select
  rw [horder, List.filterMap_cons, hfound, hnavigation]
  exact ⟨_, rfl⟩

/-- The reply of a jump: no answer was taken, and a variable is what it was, unless a node of the graph
changes it. -/
structure Unanswered (graph : FlowGraph) (state : State) (r : Reply) : Prop where
  uncaptured : r.captured = none
  slots : r.state.slots = state.slots
  spared : ∀ name, Spares graph name → r.state.context.get? name = state.context.get? name

section Target

variable (hstate : m.state = some state) (hopen : state.completed = false)
  (htext : m.text = some text) (hkeywords : keywordsFor nav m.graph = .ok keywords)
  (haction : keywords.get? (messagePhrase text) = some action) (hknown : Known m.graph action)
include hstate hopen htext hkeywords haction hknown

theorem navigationTarget_of_known (hsaid : text.isEmpty = false) :
    navigationTarget nav m = (resolveTarget m.graph state action).bind fun found =>
      match found with
      | none => .ok none
      | some target =>
        if isCircular nav state target then .ok none else .ok (some (state, target)) := by
  rw [navigationTarget_eq hstate htext hopen hsaid hkeywords, haction]
  split
  · rename_i h
    exact nomatch h
  · rename_i h
    rw [Option.some.inj h] at hknown
    rcases hknown with h | h | ⟨node, h⟩
    · exact nomatch h
    · exact nomatch h
    · exact nomatch h
  · rename_i h
    obtain rfl := Option.some.inj h
    rfl

/-- What navigation declines falls through to the other modules and the interpreter. -/
theorem navigationTarget_of_declines (htrodden : Trodden m.graph state.history)
    (h : Declines nav m.graph state text action) :
    navigationTarget nav m = .ok none := by
  cases hsaid : text.isEmpty with
  | true =>
    have hskip : (state.completed || text.isEmpty) = true := by rw [hsaid]; exact Bool.or_true _
    exact navigationTarget_of_skipped hstate htext hskip
  | false =>
    rw [navigationTarget_of_known hstate hopen htext hkeywords haction hknown hsaid]
    cases h with
    | unsaid hempty => exact nomatch hsaid.symm.trans hempty
    | circular hresolved hcircular =>
      rw [hresolved]
      exact if_pos hcircular
    | nowhere hback hnowhere =>
      have hearlier : Trodden m.graph state.history.dropLast.reverse := fun id hid =>
        htrodden id (List.dropLast_subset _ (List.mem_reverse.mp hid))
      have hnone : resolveTarget m.graph state action = .ok none := by
        rw [hback]
        rcases lastQuestion_spec state.currentNodeId hearlier with
          ⟨id, hid, hquestion, -⟩ | ⟨hnone, -⟩
        · exact absurd hquestion (hnowhere id (List.mem_reverse.mp hid))
        · exact hnone
      rw [hnone]
      rfl

/-- Navigation goes to the target of a phrase, unless it declines. -/
theorem navigationTarget_of_keyword (hg : m.graph.Closed)
    (htrodden : Trodden m.graph state.history) :
    Declines nav m.graph state text action ∨ ∃ target node,
      resolveTarget m.graph state action = .ok (some target) ∧
        m.graph.lookup target = .ok (some node) ∧
        navigationTarget nav m = .ok (some (state, target)) := by
  cases hsaid : text.isEmpty with
  | true => exact .inl (.unsaid hsaid)
  | false =>
    rcases resolveTarget_spec hg htrodden hknown with
      ⟨target, node, hresolved, hnode⟩ | ⟨-, hback, hnowhere⟩
    · cases hcircular : isCircular nav state target with
      | true => exact .inl (.circular hresolved hcircular)
      | false =>
        refine .inr ⟨target, node, hresolved, hnode, ?_⟩
        rw [navigationTarget_of_known hstate hopen htext hkeywords haction hknown hsaid, hresolved]
        exact if_neg (by rw [hcircular]; exact Bool.false_ne_true)
    · exact .inl (.nowhere hback hnowhere)

end Target

/-- **Phrases for navigation are not taken for answers.**  An open conversation in a graph of an
accepted template, in any state that it can reach with any engines, gets a message that is a phrase
whose target exists, and the module for navigation is selected.  Then navigation declines, in one of
its three ways, and leaves the message to the others; or the engine replies by a jump to the target,
under all circumstances, so that no answer is taken, whatever other modules are selected.  A limit that
the jump meets is the engine's fault then. -/
theorem unanswered_of_keyword {s : Setup σ} (hs : s.Standard nav cap normalizer)
    (hmem : navigationModule nav ∈ s.modules) (hlimit : 0 < Seconds.ofNumber s.moduleTimeout)
    (hg : m.graph.Closed) (hreached : Reached σ m.graph state) (hstate : m.state = some state)
    (hopen : state.completed = false) (htext : m.text = some text)
    (hselected : .dynamicNavigation ∈ m.modules)
    (hkeywords : keywordsFor nav m.graph = .ok keywords)
    (haction : keywords.get? (messagePhrase text) = some action) (hknown : Known m.graph action) :
    (Declines nav m.graph state text action ∧
      (navigationModule nav : Module σ).Passes s.interpreter m) ∨ ∃ target,
      resolveTarget m.graph state action = .ok (some target) ∧
      (s.engine m).Tells (fun now => (s.interpreter.advance m.graph state target now).mapError
        (moduleFault Capability.dynamicNavigation.name)) ∧
      ∀ now, UnlessLimited (Unanswered m.graph state)
        (s.interpreter.advance m.graph state target now) := by
  have htrodden := trodden_of_reached hg hreached
  rcases navigationTarget_of_keyword hstate hopen htext hkeywords haction hknown hg htrodden with
    hdeclines | ⟨target, node, hresolved, hnode, htarget⟩
  · have hnone := navigationTarget_of_declines hstate hopen htext hkeywords haction hknown htrodden
      hdeclines
    exact .inl ⟨hdeclines, navigation_passes hnone⟩
  · have hjump (now : Moment) : UnlessLimited (Unanswered m.graph state)
        (s.interpreter.advance m.graph state target now) := by
      refine .of_cases (fun r hr => ?_) fun f =>
        (Conversation.advance_trail hg s.interpreter state hnode now).isLimit
      have hunspoken := Conversation.unspoken_of_advance hr
      exact ⟨hunspoken.captured, hunspoken.slots, hunspoken.spared⟩
    have hquiet : ∀ module ∈ s.select m.modules, module.Silent := fun module hmem =>
      hs.silent module (mem_of_mem_select hmem)
    have hafter (reply : Reply) := tells_after (m := m) hlimit reply hquiet
    obtain ⟨more, hselect⟩ := select_of_navigation hs hmem hselected
    have hbefore := before_of_gives hlimit
      (navigation_gives (σ := σ) (i := s.interpreter) htarget) more
    rw [← hselect] at hbefore
    exact .inr ⟨target, hresolved, engine_of_given hafter hbefore, hjump⟩

end Phrase

/-! ### A question that nothing comes before -/

section AskName

/-- A question for a name, and a farewell. -/
def askName : Value :=
  .object [("id", .text "greeting"), ("entryNodeId", .text "ask"), ("nodes", .list [
    .object [("id", .text "ask"), ("type", .text "input"), ("content", .text "Your name?"),
      ("variableName", .text "name"), ("next", .text "bye")],
    .object [("id", .text "bye"), ("type", .text "terminal"), ("content", .text "Bye!")]])]

/-- The message that opens the conversation. -/
def opening (graph : FlowGraph) : Message :=
  ⟨graph, none, some "hi", some ⟨.text "acme", .text "ann", .text "1"⟩, Capability.all⟩

def noon : Clock := ⟨0, 0, ⟨0, none⟩⟩

theorem faithful_standard : Faithful standard.engine :=
  faithful_engine fun module hmem => by
    rcases List.mem_pair.mp hmem with rfl | rfl
    · exact faithful_navigationModule .default
    · exact faithful_captureModule .default none

/-- The conversation is opened, and rests at its only question. -/
theorem opened_askName : ∃ (graph : FlowGraph) (r : Reply),
    Template.readGraph askName .null .null = .ok graph ∧ Reached Clock graph r.state ∧
    graph.entry = "ask" ∧ graph.metadata = [] ∧ r.state.completed = false ∧
    r.state.history = [.text "ask"] ∧
    (standard.interpreter.advance graph r.state (.text "ask") ⟨1, none⟩).isOk = true := by
  have h : (Template.readGraph askName .null .null).toOption.any (fun graph =>
      graph.entry = "ask" && graph.metadata = [] &&
      ((standard.engine (opening graph)).run noon).1.toOption.any (fun r =>
        r.state.completed = false && r.state.history = [.text "ask"] &&
        (standard.interpreter.advance graph r.state (.text "ask") ⟨1, none⟩).isOk)) = true := by
    decide +kernel
  obtain ⟨graph, hread, h⟩ := exists_of_any h
  simp only [Bool.and_eq_true, decide_eq_true_eq] at h
  obtain ⟨⟨hentry, hmetadata⟩, hopened⟩ := h
  obtain ⟨r, hrun, h⟩ := exists_of_any hopened
  simp only [Bool.and_eq_true, decide_eq_true_eq] at h
  obtain ⟨⟨hopen, hhistory⟩, hjump⟩ := h
  have hend := Action.mayEnd_run (standard.engine (opening graph)) noon
  rw [hrun] at hend
  have hreached := Reached.first r.state.version faithful_standard rfl rfl hend
  exact ⟨graph, r, hread, hreached, hentry, hmetadata, hopen, hhistory, hjump⟩

/-- A wish to start over is not the user's name: there is a jump to the start, which takes no
answer. -/
theorem unanswered_of_keyword_restart : ∃ (graph : FlowGraph) (r r' : Reply),
    Template.readGraph askName .null .null = .ok graph ∧ Reached Clock graph r.state ∧
      (standard.engine (saying "start over" r.state graph)).Tells (fun now =>
        (standard.interpreter.advance graph r.state (.text "ask") now).mapError
          (moduleFault Capability.dynamicNavigation.name)) ∧
        standard.interpreter.advance graph r.state (.text "ask") ⟨1, none⟩ = .ok r' ∧
        Unanswered graph r.state r' := by
  obtain ⟨graph, r, hread, hreached, hentry, hmetadata, hopen, hhistory, hjump⟩ := opened_askName
  obtain ⟨r', hr'⟩ := exists_of_isOk hjump
  have haction : defaultKeywords.get? (messagePhrase "start over") = some (.text restartAction) := by
    decide +kernel
  have hselected : Capability.dynamicNavigation ∈ Capability.all := by decide
  have hreply := unanswered_of_keyword (m := saying "start over" r.state graph) standard_standard
    List.mem_cons_self someTime_standard (Template.closed_of_readGraph hread) hreached rfl hopen rfl
    hselected (keywordsFor_default hmetadata) haction (.inl rfl)
  have hresolves {target : Value}
      (h : resolveTarget graph r.state (.text restartAction) = .ok (some target)) :
      target = .text "ask" := by
    rw [← hentry]
    exact (Option.some.inj (Except.ok.inj h)).symm
  rcases hreply with ⟨hdeclines, -⟩ | ⟨target, hresolved, htells, hunanswered⟩
  · cases hdeclines with
    | unsaid hempty => exact absurd hempty (by decide +kernel)
    | nowhere hback => exact absurd hback (by decide +kernel)
    | circular hresolved hcircular =>
      have hvisits : isCircular .default r.state (.text "ask") = false := by
        unfold isCircular
        rw [hhistory]
        decide +kernel
      rw [hresolves hresolved] at hcircular
      exact nomatch hvisits.symm.trans hcircular
  · obtain rfl := hresolves hresolved
    exact ⟨graph, r, r', hread, hreached, htells, hr', (hunanswered ⟨1, none⟩).holds hr'⟩

/-- **A phrase that is stored as an answer.**  At the first question of a conversation there is no
earlier question to go back to.  So the wish to go back is taken for the answer, stored as the user's
name, and the conversation goes on. -/
theorem answered_back : ∃ (graph : FlowGraph) (r r' : Reply) (node : FlowNode),
    Template.readGraph askName .null .null = .ok graph ∧ Reached Clock graph r.state ∧
      graph.lookup r.state.currentNodeId = .ok (some node) ∧ node.kind = .input ∧
      node.variableName = .text "name" ∧ r.state.history ≠ [] ∧ r.state.completed = false ∧
      keywordsFor .default graph = .ok defaultKeywords ∧
      defaultKeywords.get? (messagePhrase "back") = some (.text backAction) ∧
      Known graph (.text backAction) ∧
      ((standard.engine (saying "back" r.state graph)).run noon).1 = .ok r' ∧
      r'.state.context = [("name", .text "back")] ∧ r'.captured = some true := by
  have h : (Template.readGraph askName .null .null).toOption.any (fun graph =>
      graph.metadata = [] &&
      ((standard.engine (opening graph)).run noon).1.toOption.any (fun r =>
        r.state.completed = false && r.state.history = [.text "ask"] &&
        r.state.currentNodeId = .text "ask" &&
        ((standard.engine (saying "back" r.state graph)).run noon).1.toOption.any (fun r' =>
          r'.state.context = [("name", .text "back")] && r'.captured = some true)) &&
      (graph.node? "ask").any fun node =>
        node.kind = .input && node.variableName = .text "name") = true := by decide +kernel
  obtain ⟨graph, hread, h⟩ := exists_of_any h
  simp only [Bool.and_eq_true, decide_eq_true_eq] at h
  obtain ⟨⟨hmetadata, hopened⟩, hasks⟩ := h
  obtain ⟨r, hrun, h⟩ := exists_of_any hopened
  simp only [Bool.and_eq_true, decide_eq_true_eq] at h
  obtain ⟨⟨⟨hopen, hhistory⟩, hplace⟩, hanswered⟩ := h
  obtain ⟨r', hrun', h⟩ := exists_of_any hanswered
  simp only [Bool.and_eq_true, decide_eq_true_eq] at h
  obtain ⟨node, hnode, hasks⟩ := (Option.any_eq_true _ _).mp hasks
  simp only [Bool.and_eq_true, decide_eq_true_eq] at hasks
  have hend := Action.mayEnd_run (standard.engine (opening graph)) noon
  rw [hrun] at hend
  have hreached := Reached.first r.state.version faithful_standard rfl rfl hend
  have hlookup : graph.lookup r.state.currentNodeId = .ok (some node) := by
    rw [hplace]
    exact congrArg Except.ok hnode
  have hbegun : r.state.history ≠ [] := by
    rw [hhistory]
    exact List.cons_ne_nil _ _
  have haction : defaultKeywords.get? (messagePhrase "back") = some (.text backAction) := by
    decide +kernel
  exact ⟨graph, r, r', node, hread, hreached, hlookup, hasks.1, hasks.2, hbegun, hopen,
    keywordsFor_default hmetadata, haction, .inr (.inl rfl), hrun', h.1, h.2⟩

end AskName

end Parley.Enhanced
