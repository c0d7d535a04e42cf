import Parley.Proofs.Enhanced.Keywords
import Parley.Proofs.Turn.Lineage

/-!
# Parley.Proofs.Enhanced.Backward — where a series of wishes to go back leads

A jump back goes to the latest question before the current visit other than the current one, and it
is an entry of the history like any other (`jumped_of_goesBack`).  So the second jump of a series
sees the question that the series left, and the third one sees where the first one went:
`inTurn_of_turnsBack`, and from it `alternates_of_turnsBack`, a series goes to and fro between two
questions.
-/

namespace Parley.Enhanced

open Parley.Action (Tells)
open Conversation (Interpreter Reply State Walk)
open Template (FlowGraph FlowNode)
open Time (Clock Clocked Moment)
open Parley.Turn (Placed)

variable {σ : Type} [Clocked σ]

/-! ### Series of jumps -/

/-- A phrase for going back is said in this state, and the module for navigation replies. -/
structure GoesBack (σ : Type) [Clocked σ] (nav : NavigationConfig) (i : Interpreter)
    (graph : FlowGraph) (state : State) (r : Reply) : Prop where
  jump : ∃ m text keywords, m.graph = graph ∧ m.state = some state ∧ m.text = some text ∧
    keywordsFor nav graph = .ok keywords ∧
    keywords.get? (messagePhrase text) = some (.text backAction) ∧
    ((navigationModule nav : Module σ).before i m).MayEnd (.ok (some r))

/-- One phrase for going back after the other, all of which lead to jumps; the nodes where they land.
Whoever stores a state in between may give it any version. -/
inductive TurnsBack (σ : Type) [Clocked σ] (nav : NavigationConfig) (i : Interpreter)
    (graph : FlowGraph) : State → List Value → State → Prop
  | done (state : State) : TurnsBack σ nav i graph state [] state
  | back {state last : State} {r : Reply} {landings : List Value} (version : Int) :
    GoesBack σ nav i graph state r →
    TurnsBack σ nav i graph { r.state with version := version } landings last →
    TurnsBack σ nav i graph state (r.state.currentNodeId :: landings) last

/-- The latest question in a history other than the one that is left. -/
structure LatestQuestion (graph : FlowGraph) (left : Value) (history : List Value) (id : Value) :
    Prop where
  question : EarlierQuestion graph left id
  latest : ∃ earlier later, history = earlier ++ id :: later ∧
    ∀ other ∈ later, ¬ EarlierQuestion graph left other

/-- Two nodes by turns. -/
def inTurn (a b : Value) : Nat → List Value
  | 0 => []
  | n + 1 => a :: inTurn b a n

/-! ### One jump -/

section Jump

variable {graph : FlowGraph} {state : State} {current id other : Value} {ids : List Value}

theorem lastQuestion_cons {node : FlowNode} (h : graph.lookup id = .ok (some node)) :
    lastQuestion graph current (id :: ids) =
      if node.isBlocking && !id.equal current then .ok (some id)
      else lastQuestion graph current ids := by
  show graph.lookup id >>= _ = _
  rw [h]
  rfl

/-- If the latest place is an earlier question, it is found. -/
theorem lastQuestion_head (h : EarlierQuestion graph current id) :
    lastQuestion graph current (id :: ids) = .ok (some id) := by
  obtain ⟨node, hnode, hblocks⟩ := h.blocks
  rw [lastQuestion_cons hnode, hblocks, h.other]
  rfl

/-- What is found is the latest earlier question. -/
theorem latestQuestion_of_found (htrodden : Trodden graph ids)
    (h : lastQuestion graph current ids.reverse = .ok (some id)) :
    LatestQuestion graph current ids id := by
  induction ids using List.reverseRecOn with
  | nil => exact nomatch h
  | append_singleton ids last ih =>
    rw [List.reverse_append, List.reverse_singleton, List.singleton_append] at h
    obtain ⟨node, hnode⟩ := htrodden last (List.mem_append_right _ (List.mem_singleton_self last))
    by_cases hlast : EarlierQuestion graph current last
    · rw [lastQuestion_head hlast] at h
      rw [← Option.some.inj (Except.ok.inj h)]
      exact ⟨hlast, ids, [], rfl, fun _ hmem => absurd hmem List.not_mem_nil⟩
    · rw [lastQuestion_cons hnode, if_neg fun hquestion => ?_] at h
      · obtain ⟨hid, earlier, later, rfl, hlater⟩ :=
          ih (fun id hid => htrodden id (List.mem_append_left _ hid)) h
        refine ⟨hid, earlier, later ++ [last], by simp, fun other hmem => ?_⟩
        rcases List.mem_append.mp hmem with hmem | hmem
        · exact hlater other hmem
        · rw [List.mem_singleton.mp hmem]
          exact hlast
      · obtain ⟨hblocks, hother⟩ := Bool.and_eq_true_iff.mp hquestion
        exact hlast ⟨⟨node, hnode, hblocks⟩, by simpa using hother⟩

theorem equal_text (name : String) (v : Value) :
    (Value.text name).equal v = true ↔ v = .text name := by
  cases v with
  | text s => simp [Value.equal, eq_comm]
  | _ => simp [Value.equal]

/-- In a graph of a template, an earlier question is any other question than the current one. -/
theorem earlierQuestion_iff (hg : graph.Closed) :
    EarlierQuestion graph current id ↔
      (∃ node, graph.lookup id = .ok (some node) ∧ node.isBlocking = true) ∧ id ≠ current := by
  have hother {node : FlowNode} (hnode : graph.lookup id = .ok (some node)) :
      id.equal current = false ↔ id ≠ current := by
    rw [(Conversation.lookup_eq_some hg hnode).1, ← Bool.not_eq_true, equal_text, ne_comm]
  constructor
  · rintro ⟨⟨node, hnode, hblocks⟩, hapart⟩
    exact ⟨⟨node, hnode, hblocks⟩, (hother hnode).mp hapart⟩
  · rintro ⟨⟨node, hnode, hblocks⟩, hapart⟩
    exact ⟨⟨node, hnode, hblocks⟩, (hother hnode).mpr hapart⟩

/-- A jump to a node that waits enters this node, and nothing else. -/
theorem advance_blocking (hg : graph.Closed) {i : Interpreter} {target : Value} {node : FlowNode}
    {now : Moment} {r : Reply} (hnode : graph.lookup target = .ok (some node))
    (hblocks : node.isBlocking = true) (h : i.advance graph state target now = .ok r) :
    r.state.currentNodeId = target ∧ r.state.history = state.history ++ [target] := by
  obtain ⟨rfl, -⟩ := Conversation.lookup_eq_some hg hnode
  obtain ⟨found, hfound, hadvance⟩ := exceptBind_eq_ok.mp h
  obtain rfl := Except.ok.inj ((Interpreter.nodeAt_eq graph hnode).symm.trans hfound)
  obtain ⟨copied, hcopied, hreopened⟩ := exceptBind_eq_ok.mp hadvance
  obtain ⟨-, rfl⟩ := State.copy_eq_ok.mp hcopied
  obtain ⟨entered, hentered, hreply⟩ := exceptBind_eq_ok.mp hreopened
  obtain rfl := Except.ok.inj hreply
  -- the node waits, so that it is entered and says what it has to say
  obtain ⟨⟨stop, prompted⟩, harrived, hstops⟩ := exceptBind_eq_ok.mp hentered
  unfold Reply.arrive at harrived
  rw [if_pos hblocks] at harrived
  obtain ⟨prompted, hprompted, hpair⟩ := exceptMap_eq_ok.mp harrived
  obtain ⟨rfl, rfl⟩ := Prod.mk.inj hpair
  obtain rfl := Except.ok.inj hstops
  have hstill := Conversation.still_prompt hprompted
  refine ⟨hstill.currentNodeId, ?_⟩
  show prompted.state.history = _
  rw [hstill.state]
  rfl

/-- What one jump back did: it went to the latest earlier question, and noted it in the history. -/
structure Jumped (graph : FlowGraph) (state : State) (r : Reply) : Prop where
  found : lastQuestion graph state.currentNodeId state.history.dropLast.reverse =
    .ok (some r.state.currentNodeId)
  history : r.state.history = state.history ++ [r.state.currentNodeId]

theorem trodden_dropLast (h : Trodden graph state.history) :
    Trodden graph state.history.dropLast := fun id hid => h id (List.dropLast_subset _ hid)

/-- **A jump back goes to the latest earlier question.** -/
theorem jumped_of_goesBack (hg : graph.Closed) (htrodden : Trodden graph state.history)
    {nav : NavigationConfig} {i : Interpreter} {r : Reply}
    (h : GoesBack σ nav i graph state r) : Jumped graph state r := by
  obtain ⟨m, text, keywords, rfl, hstate, htext, hkeywords, haction, h⟩ := h.jump
  obtain ⟨asked, hasked, h⟩ := Action.mayEnd_andThen_ok.mp h
  cases asked with
  | none => exact nomatch Action.mayEnd_result.mp h
  | some asked =>
    obtain ⟨state', target⟩ := asked
    obtain ⟨now, -, h⟩ := Action.mayEnd_andThen_ok.mp h
    obtain ⟨r', hr, h⟩ := Action.mayEnd_andThen_ok.mp h
    have hreply := Option.some.inj (Except.ok.inj (Action.mayEnd_result.mp h))
    subst hreply
    have htarget := (Action.mayEnd_ofExcept.mp hasked).symm
    obtain ⟨hstate', hopen⟩ := state_of_navigationTarget htarget
    obtain rfl := Option.some.inj (hstate.symm.trans hstate')
    rcases navigationTarget_of_keyword hstate hopen htext hkeywords haction (.inr (.inl rfl)) hg
      htrodden with hdeclines | ⟨found, node, hresolved, -, hfound⟩
    · rw [navigationTarget_of_declines hstate hopen htext hkeywords haction (.inr (.inl rfl)) htrodden
        hdeclines] at htarget
      exact nomatch htarget
    · rw [hfound] at htarget
      obtain rfl := (Prod.mk.inj (Option.some.inj (Except.ok.inj htarget))).2
      have hlast : lastQuestion m.graph state.currentNodeId state.history.dropLast.reverse =
          .ok (some found) := hresolved
      obtain ⟨⟨node, hnode, hblocks⟩, -⟩ :=
        (latestQuestion_of_found (trodden_dropLast htrodden) hlast).question
      obtain ⟨hlands, hhistory⟩ :=
        advance_blocking hg hnode hblocks (Action.mayEnd_ofExcept.mp hr).symm
      exact ⟨hlands ▸ hlast, hlands ▸ hhistory⟩

theorem Jumped.trodden {r : Reply} (h : Jumped graph state r) (htrodden : Trodden graph state.history) :
    Trodden graph r.state.history := by
  obtain ⟨⟨node, hnode, -⟩, -⟩ :=
    (latestQuestion_of_found (trodden_dropLast htrodden) h.found).question
  intro id hid
  rw [h.history] at hid
  rcases List.mem_append.mp hid with hid | hid
  · exact htrodden id hid
  · rw [List.mem_singleton.mp hid]
    exact ⟨node, hnode⟩

end Jump

/-! ### Series of jumps -/

section Series

variable {graph : FlowGraph} {nav : NavigationConfig} {i : Interpreter} {state last : State}
  {landings : List Value}

/-- The next wish to go back leads to this node, unless it was visited too often. -/
def NextBack (graph : FlowGraph) (state : State) (id : Value) : Prop :=
  resolveTarget graph state (.text backAction) = .ok (some id)

/-- The conversation stands at the second of two questions, and was at the first one just before. -/
structure Between (graph : FlowGraph) (a b : Value) (state : State) : Prop where
  trodden : Trodden graph state.history
  stands : state.currentNodeId = b
  came : ∃ earlier, state.history = earlier ++ [a, b]
  first : EarlierQuestion graph b a
  second : EarlierQuestion graph a b

/-- **Between two questions, a series of jumps back goes to and fro.** -/
theorem inTurn_of_turnsBack (hg : graph.Closed) {a b : Value} (hbetween : Between graph a b state)
    (h : TurnsBack σ nav i graph state landings last) :
    landings = inTurn a b landings.length ∧
      ∃ id, NextBack graph last id ∧ landings ++ [id] = inTurn a b (landings.length + 1) := by
  have hfound {a b : Value} {state : State} (h : Between graph a b state) :
      lastQuestion graph state.currentNodeId state.history.dropLast.reverse = .ok (some a) := by
    obtain ⟨earlier, hcame⟩ := h.came
    rw [hcame, List.append_cons, List.dropLast_concat, List.reverse_append, List.reverse_singleton,
      List.singleton_append, h.stands]
    exact lastQuestion_head h.first
  induction h generalizing a b with
  | done state => exact ⟨rfl, a, hfound hbetween, rfl⟩
  | @back state last r landings version hback hmore ih =>
    have hjumped := jumped_of_goesBack hg hbetween.trodden hback
    have hlands : r.state.currentNodeId = a :=
      Option.some.inj (Except.ok.inj (hjumped.found.symm.trans (hfound hbetween)))
    have hswapped : Between graph b a { r.state with version := version } := by
      obtain ⟨earlier, hcame⟩ := hbetween.came
      refine ⟨hjumped.trodden hbetween.trodden, hlands, ⟨earlier ++ [a], ?_⟩, hbetween.second,
        hbetween.first⟩
      show r.state.history = _
      rw [hjumped.history, hcame, hlands]
      simp
    obtain ⟨hmore, id, hnext, hlast⟩ := ih hswapped
    rw [hlands, List.length_cons]
    exact ⟨congrArg (a :: ·) hmore, id, hnext, congrArg (a :: ·) hlast⟩

/-- Two jumps lead between the questions that they went to. -/
theorem between_of_goesBack (hg : graph.Closed) (htrodden : Trodden graph state.history)
    {r r' : Reply} {version : Int} (hfirst : GoesBack σ nav i graph state r)
    (hsecond : GoesBack σ nav i graph { r.state with version := version } r') (version' : Int) :
    LatestQuestion graph state.currentNodeId state.history.dropLast r.state.currentNodeId ∧
      LatestQuestion graph r.state.currentNodeId state.history r'.state.currentNodeId ∧
      Between graph r.state.currentNodeId r'.state.currentNodeId
        { r'.state with version := version' } := by
  have hjumped := jumped_of_goesBack hg htrodden hfirst
  have htrodden' : Trodden graph { r.state with version := version }.history :=
    hjumped.trodden htrodden
  have hjumped' := jumped_of_goesBack hg htrodden' hsecond
  have hfound' : lastQuestion graph r.state.currentNodeId state.history.reverse =
      .ok (some r'.state.currentNodeId) := by
    have hfound := hjumped'.found
    dsimp only at hfound
    rwa [hjumped.history, List.dropLast_concat] at hfound
  have ha := latestQuestion_of_found (trodden_dropLast htrodden) hjumped.found
  have hb := latestQuestion_of_found htrodden hfound'
  refine ⟨ha, hb, hjumped'.trodden htrodden', rfl, ⟨state.history, ?_⟩, ?_, hb.question⟩
  · have hhistory := hjumped'.history
    dsimp only at hhistory
    rw [hhistory, hjumped.history, List.append_assoc]
    rfl
  · obtain ⟨hblocks, -⟩ := (earlierQuestion_iff hg).mp ha.question
    obtain ⟨-, hapart⟩ := (earlierQuestion_iff hg).mp hb.question
    exact (earlierQuestion_iff hg).mpr ⟨hblocks, hapart.symm⟩

/-- The second jump returns to the question that the series left. -/
theorem current_of_latestQuestion (hg : graph.Closed) (hplaced : Placed state) {a b : Value}
    (ha : LatestQuestion graph state.currentNodeId state.history.dropLast a)
    (hb : LatestQuestion graph a state.history b)
    (hasks : ∃ node, graph.lookup state.currentNodeId = .ok (some node) ∧ node.isBlocking = true) :
    b = state.currentNodeId := by
  have hbegun : state.history ≠ [] := fun hnone => by
    obtain ⟨earlier, later, hhistory, -⟩ := ha.latest
    rw [hnone] at hhistory
    exact List.append_ne_nil_of_right_ne_nil _ (List.cons_ne_nil _ _) hhistory.symm
  obtain ⟨earlier, hends⟩ := List.getLast?_eq_some_iff.mp (hplaced.resolve_left hbegun)
  have hleft : EarlierQuestion graph a state.currentNodeId :=
    (earlierQuestion_iff hg).mpr ⟨hasks, ((earlierQuestion_iff hg).mp ha.question).2.symm⟩
  obtain ⟨before, later, hhistory, hlater⟩ := hb.latest
  -- after the latest question nothing else may be one, and the history ends with one
  rcases List.eq_nil_or_concat later with rfl | ⟨more, other, rfl⟩
  · exact (List.append_inj' (hhistory.symm.trans hends) rfl).2 |> List.cons.inj |>.1
  · have hsplit : (before ++ b :: more) ++ [other] = earlier ++ [state.currentNodeId] := by
      rw [← hends, hhistory]
      simp
    have hother : other = state.currentNodeId := (List.cons.inj (List.append_inj' hsplit rfl).2).1
    exact absurd (hother ▸ hleft) (hlater other (by simp))

/-- A series of jumps treads on nodes only. -/
theorem trodden_of_turnsBack (hg : graph.Closed) (htrodden : Trodden graph state.history)
    (h : TurnsBack σ nav i graph state landings last) : Trodden graph last.history := by
  induction h with
  | done state => exact htrodden
  | back version hback _ ih => exact ih ((jumped_of_goesBack hg htrodden hback).trodden htrodden)

omit [Clocked σ] in
/-- The history of a conversation ends where the conversation is. -/
theorem placed_of_reached (hg : graph.Closed) (h : Reached σ graph state) : Placed state := by
  have hwalks {m : Message} {r : Reply} (h : Walks m r)
      (hb : ∀ s, m.state = some s → Placed s) : Placed r.state := by
    obtain ⟨working, hworking, hwalk⟩ := h.walk
    refine Turn.placed_of_walk hwalk ?_
    cases hworking with
    | state hstate => exact hb _ hstate
    | contact now _ _ => exact .inl rfl
  induction h with
  | first version he hgraph hnone hend =>
    exact hwalks (he _ _ (hgraph ▸ hg) hend) fun s hs => nomatch hnone.symm.trans hs
  | next version _ he hgraph hstate hend ih =>
    refine hwalks (he _ _ (hgraph ▸ hg) hend) fun s hs => ?_
    rw [← Option.some.inj (hstate.symm.trans hs)]
    exact ih

/-- **Going back again and again leads to and fro.**  In a graph of an accepted template, a series of
wishes to go back starts in any state that a conversation can reach, and all of them lead to jumps.
The first jump lands at the latest question before the current visit other than the current one; the
second one at the latest question at all other than that, which is the question that the series
started at if it started at one; and each other one where the jump before the last one landed.  So a
series of at most two jumps lands nowhere twice, and a longer one goes between two questions.  That
no question is left to go back to can only be before the second jump. -/
theorem alternates_of_turnsBack {document templateId version : Value}
    (hread : Template.readGraph document templateId version = .ok graph)
    (hreached : Reached σ graph state) (h : TurnsBack σ nav i graph state landings last) :
    (landings.length ≤ 2 → landings.Nodup) ∧
      (∀ a ∈ landings.head?,
        LatestQuestion graph state.currentNodeId state.history.dropLast a) ∧
      (∀ a b more, landings = a :: b :: more →
        a ≠ b ∧ LatestQuestion graph a state.history b ∧
          ((∃ node, graph.lookup state.currentNodeId = .ok (some node) ∧ node.isBlocking = true) →
            b = state.currentNodeId) ∧
          landings = inTurn a b landings.length ∧
          ∃ id, NextBack graph last id ∧ landings ++ [id] = inTurn a b (landings.length + 1)) ∧
      (resolveTarget graph last (.text backAction) = .ok none → landings.length < 2 ∧
        ∀ id ∈ last.history.dropLast, ¬ EarlierQuestion graph last.currentNodeId id) := by
  have hg := Template.closed_of_readGraph hread
  have htrodden := trodden_of_reached hg hreached
  have hnowhere (hnone : resolveTarget graph last (.text backAction) = .ok none) :
      ∀ id ∈ last.history.dropLast, ¬ EarlierQuestion graph last.currentNodeId id := by
    rcases resolveTarget_spec hg (trodden_of_turnsBack hg htrodden h) (.inr (.inl rfl)) with
      ⟨target, node, hresolved, -⟩ | ⟨-, -, hnowhere⟩
    · exact nomatch hnone.symm.trans hresolved
    · exact hnowhere
  cases h with
  | done state =>
    exact ⟨fun _ => List.nodup_nil, fun _ h => (nomatch h), fun _ _ _ h => (nomatch h),
      fun hnone => ⟨Nat.zero_lt_two, hnowhere hnone⟩⟩
  | @back _ _ r landings version' hback hmore =>
    have ha := latestQuestion_of_found (trodden_dropLast htrodden)
      (jumped_of_goesBack hg htrodden hback).found
    have hhead : ∀ a ∈ (r.state.currentNodeId :: landings).head?,
        LatestQuestion graph state.currentNodeId state.history.dropLast a := fun a h => by
      rw [← Option.some.inj h]
      exact ha
    cases hmore with
    | done =>
      exact ⟨fun _ => List.nodup_singleton _, hhead, fun _ _ _ h => (nomatch (List.cons.inj h).2),
        fun hnone => ⟨Nat.one_lt_two, hnowhere hnone⟩⟩
    | @back _ _ r' landings version'' hback' hmore =>
      obtain ⟨-, hb, hbetween⟩ := between_of_goesBack hg htrodden hback hback' version''
      obtain ⟨hturns, id, hnext, hlast⟩ := inTurn_of_turnsBack hg hbetween hmore
      have hapart := ((earlierQuestion_iff hg).mp hb.question).2.symm
      refine ⟨fun hshort => ?_, hhead, fun a b more hlandings => ?_, fun hnone => ?_⟩
      · obtain rfl : landings = [] := List.eq_nil_of_length_eq_zero (by simpa using hshort)
        simpa using hapart
      · obtain ⟨rfl, htail⟩ := List.cons.inj hlandings
        obtain ⟨rfl, -⟩ := List.cons.inj htail
        refine ⟨hapart, hb, current_of_latestQuestion hg (placed_of_reached hg hreached) ha hb,
          ?_, id, hnext, ?_⟩
        · exact congrArg (r.state.currentNodeId :: r'.state.currentNodeId :: ·) hturns
        · exact congrArg (r.state.currentNodeId :: r'.state.currentNodeId :: ·) hlast
      · exact nomatch hnone.symm.trans hnext

end Series

/-! ### Three questions -/

section Survey

/-- Three questions, one after the other. -/
def survey : Value :=
  .object [("id", .text "survey"), ("entryNodeId", .text "name"), ("nodes", .list [
    .object [("id", .text "name"), ("type", .text "input"), ("content", .text "Your name?"),
      ("next", .text "city")],
    .object [("id", .text "city"), ("type", .text "input"), ("content", .text "Your city?"),
      ("next", .text "job")],
    .object [("id", .text "job"), ("type", .text "input"), ("content", .text "Your job?"),
      ("next", .text "bye")],
    .object [("id", .text "bye"), ("type", .text "terminal"), ("content", .text "Bye!")]])]

/-- What the module for navigation makes of a wish to go back. -/
def backFrom (graph : FlowGraph) (state : State) : Except Fault (Option Reply) :=
  (((navigationModule .default : Module Clock).before {} (saying "back" state graph)).run noon).1

theorem goesBack_of_backFrom {graph : FlowGraph} (hmetadata : graph.metadata = []) {state : State}
    {r : Reply} (h : backFrom graph state = .ok (some r)) :
    GoesBack Clock .default {} graph state r := by
  have haction : defaultKeywords.get? (messagePhrase "back") = some (.text backAction) := by
    decide +kernel
  have hend := Action.mayEnd_run
    ((navigationModule .default : Module Clock).before {} (saying "back" state graph)) noon
  unfold backFrom at h
  rw [h] at hend
  exact ⟨_, "back", _, rfl, rfl, rfl, keywordsFor_default hmetadata, haction, hend⟩

/-- The answer of an engine leads from one state of a conversation to the next. -/
theorem reached_of_saying {graph : FlowGraph} {state : State} {text : String} {r : Reply}
    (h : Reached Clock graph state)
    (hrun : ((standard.engine (saying text state graph)).run noon).1 = .ok r) :
    Reached Clock graph r.state := by
  have hend := Action.mayEnd_run (standard.engine (saying text state graph)) noon
  rw [hrun] at hend
  exact .next r.state.version h faithful_standard rfl rfl hend

theorem reply_of_any {given : Except Fault (Option Reply)} {p : Reply → Bool}
    (h : given.toOption.any (fun reply => reply.any p) = true) :
    ∃ r, given = .ok (some r) ∧ p r = true := by
  obtain ⟨reply, hgiven, h⟩ := exists_of_any h
  cases reply with
  | none => exact nomatch h
  | some r => exact ⟨r, hgiven, h⟩

/-- The third question was asked, and then the user wants back three times. -/
theorem turnsBack_survey : ∃ (graph : FlowGraph) (state last : State),
    Template.readGraph survey .null .null = .ok graph ∧ Reached Clock graph state ∧
      state.history = [.text "name", .text "city", .text "job"] ∧
      state.currentNodeId = .text "job" ∧
      (∃ node, graph.lookup (.text "job") = .ok (some node) ∧ node.isBlocking = true) ∧
      TurnsBack Clock .default {} graph state [.text "city", .text "job", .text "city"] last := by
  have h : (Template.readGraph survey .null .null).toOption.any (fun graph =>
      graph.metadata = [] && (graph.node? "job").any (·.isBlocking) &&
      ((standard.engine (opening graph)).run noon).1.toOption.any fun r =>
      ((standard.engine (saying "Ann" r.state graph)).run noon).1.toOption.any fun r =>
      ((standard.engine (saying "Rome" r.state graph)).run noon).1.toOption.any fun r =>
        r.state.history = [.text "name", .text "city", .text "job"] &&
        r.state.currentNodeId = .text "job" &&
        (backFrom graph r.state).toOption.any fun given => given.any fun r =>
          r.state.currentNodeId = .text "city" &&
          (backFrom graph r.state).toOption.any fun given => given.any fun r =>
            r.state.currentNodeId = .text "job" &&
            (backFrom graph r.state).toOption.any fun given => given.any fun r =>
              r.state.currentNodeId = .text "city") = true := by decide +kernel
  obtain ⟨graph, hread, h⟩ := exists_of_any h
  simp only [Bool.and_eq_true, decide_eq_true_eq] at h
  obtain ⟨⟨hmetadata, hjob⟩, h⟩ := h
  obtain ⟨node, hnode, hblocks⟩ := (Option.any_eq_true _ _).mp hjob
  obtain ⟨opened, hopened, h⟩ := exists_of_any h
  obtain ⟨named, hnamed, h⟩ := exists_of_any h
  obtain ⟨placed, hplaced, h⟩ := exists_of_any h
  simp only [Bool.and_eq_true, decide_eq_true_eq] at h
  obtain ⟨⟨hhistory, hcurrent⟩, h⟩ := h
  obtain ⟨first, hfirst, h⟩ := reply_of_any h
  simp only [Bool.and_eq_true, decide_eq_true_eq] at h
  obtain ⟨hcity, h⟩ := h
  obtain ⟨second, hsecond, h⟩ := reply_of_any h
  simp only [Bool.and_eq_true, decide_eq_true_eq] at h
  obtain ⟨hback, h⟩ := h
  obtain ⟨third, hthird, h⟩ := reply_of_any h
  have hagain := of_decide_eq_true h
  have hend := Action.mayEnd_run (standard.engine (opening graph)) noon
  rw [hopened] at hend
  have hreached := reached_of_saying (reached_of_saying
    (.first opened.state.version faithful_standard rfl rfl hend) hnamed) hplaced
  have hseries : TurnsBack Clock .default {} graph placed.state
      [first.state.currentNodeId, second.state.currentNodeId, third.state.currentNodeId]
      third.state :=
    .back first.state.version (goesBack_of_backFrom hmetadata hfirst)
      (.back second.state.version (goesBack_of_backFrom hmetadata hsecond)
        (.back third.state.version (goesBack_of_backFrom hmetadata hthird) (.done third.state)))
  rw [hcity, hback, hagain] at hseries
  exact ⟨graph, placed.state, third.state, hread, hreached, hhistory, hcurrent,
    ⟨node, congrArg Except.ok hnode, hblocks⟩, hseries⟩

/-- The second jump returns to the third question, where the series started, and a fourth jump would
return there too. -/
theorem alternates_of_turnsBack_survey : ∃ (graph : FlowGraph) (state last : State),
    Template.readGraph survey .null .null = .ok graph ∧ Reached Clock graph state ∧
      TurnsBack Clock .default {} graph state [.text "city", .text "job", .text "city"] last ∧
      LatestQuestion graph (.text "city") state.history (.text "job") ∧
      state.currentNodeId = .text "job" ∧ NextBack graph last (.text "job") := by
  obtain ⟨graph, state, last, hread, hreached, -, hcurrent, hasks, hseries⟩ := turnsBack_survey
  obtain ⟨-, -, hturns, -⟩ := alternates_of_turnsBack hread hreached hseries
  obtain ⟨-, hsecond, hreturns, -, id, hnext, hlast⟩ := hturns _ _ _ rfl
  have hid : id = .text "job" := by
    have hturn : inTurn (.text "city") (.text "job") 4 =
        [.text "city", .text "job", .text "city", .text "job"] := rfl
    rw [List.length_cons, List.length_cons, List.length_singleton, hturn] at hlast
    have hfourth := congrArg (fun landings => landings[3]?) hlast
    exact Option.some.inj hfourth
  exact ⟨graph, state, last, hread, hreached, hseries, hsecond, (hreturns (hcurrent ▸ hasks)).symm,
    hid ▸ hnext⟩

/-- **A series that does not go further back.**  Three questions were asked, and the user wants back
three times.  The second jump lands at the third question, which was asked after the one where the
first jump landed; and the third jump lands there again, while the first question is never reached. -/
theorem not_backward_survey : ∃ (graph : FlowGraph) (state last : State),
    Template.readGraph survey .null .null = .ok graph ∧ Reached Clock graph state ∧
      state.history = [.text "name", .text "city", .text "job"] ∧
      ∃ landings, TurnsBack Clock .default {} graph state landings last ∧
        landings = [.text "city", .text "job", .text "city"] ∧ ¬ landings.Nodup := by
  obtain ⟨graph, state, last, hread, hreached, hhistory, -, -, hseries⟩ := turnsBack_survey
  exact ⟨graph, state, last, hread, hreached, hhistory, _, hseries, rfl, by decide⟩

end Survey

end Parley.Enhanced
