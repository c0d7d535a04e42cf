import Mathlib.Tactic.SplitIfs
import Parley.Proofs.Conversation.Safety

/-!
# Parley.Proofs.Conversation.Unread — variables that nothing reads

`NodeOf.reads`: the variables that a node looks up, in its placeholders, its tests and its counts.  A
text is taken apart before anything is filled in, so these depend on the template alone, and never on
what users say.  `agree_of_unread`: what a variable holds that no node of a graph reads shows in
nothing but itself, however the conversation goes on.  Only a value nested too deeply to be copied
ends the conversation that it is in.
-/

namespace Parley

/-! ### Computations that agree -/

section Agree

variable {α β : Type} {R : α → α → Prop} {S : β → β → Prop}

/-- Both computations fail in the same way, or have results that are related. -/
inductive Agree (R : α → α → Prop) : Except Fault α → Except Fault α → Prop
  | ok {a b : α} : R a b → Agree R (.ok a) (.ok b)
  | error (f : Fault) : Agree R (.error f) (.error f)

theorem Agree.refl (h : ∀ a, R a a) (x : Except Fault α) : Agree R x x := by
  cases x with
  | ok a => exact .ok (h a)
  | error f => exact .error f

theorem Agree.bind {x y : Except Fault α} {f g : α → Except Fault β} (h : Agree R x y)
    (hf : ∀ a b, R a b → Agree S (f a) (g b)) : Agree S (x >>= f) (y >>= g) := by
  cases h with
  | ok hab => exact hf _ _ hab
  | error f => exact .error f

theorem Agree.map {x y : Except Fault α} {f g : α → β} (h : Agree R x y)
    (hf : ∀ a b, R a b → S (f a) (g b)) : Agree S (x.map f) (y.map g) := by
  cases h with
  | ok hab => exact .ok (hf _ _ hab)
  | error f => exact .error f

/-- A walk that carries something on agrees if each of its steps does. -/
theorem agree_foldlM {f : α → β → Except Fault α} {xs : List β} {a b : α} (hab : R a b)
    (hf : ∀ x ∈ xs, ∀ a b, R a b → Agree R (f a x) (f b x)) :
    Agree R (xs.foldlM f a) (xs.foldlM f b) := by
  induction xs generalizing a b with
  | nil => exact .ok hab
  | cons x xs ih =>
    rw [List.foldlM_cons, List.foldlM_cons]
    refine (hf x List.mem_cons_self a b hab).bind fun a' b' hab' => ?_
    exact ih hab' fun y hy => hf y (List.mem_cons_of_mem _ hy)

end Agree

/-! ### What a template reads -/

namespace Template

/-- The name that a piece of a text stands for. -/
def Segment.name? : Segment → Option String
  | .literal _ => none
  | .variable name _ => some name

/-- The names in the placeholders of a text. -/
def placeholders (text : String) : List String := (segments text.toList).filterMap Segment.name?

/-- The variables that a change looks up. -/
def Mutation.reads (m : Mutation) : List String :=
  match m.change, m.value with
  | .set, .text s => placeholders s
  | .set, _ | .unset, _ => []
  | .increment, _ => [m.name]

/-- The variables that a test looks up. -/
def Predicate.reads (p : Predicate) : List String :=
  match p.matchType with
  | .contextHas => [p.value]
  | .contextValue =>
    match Unicode.cutAt '=' p.value with
    | (_, none) => []
    | (name, some _) => [Unicode.strip name]
  | _ => []

/-- The variables that a node looks up. -/
def NodeOf.reads {Target : Type} (node : NodeOf Target) : List String :=
  placeholders node.content ++ node.mutations.flatMap Mutation.reads
    ++ node.branches.flatMap fun b => b.predicate.reads

section Reads

variable {context context' : Fields Value}

/-- A text is written with the variables of its placeholders, and with no others. -/
theorem fillIn_congr {text : String}
    (h : ∀ name ∈ placeholders text, context'.get? name = context.get? name) :
    fillIn text context' = fillIn text context := by
  have hsegment (s : Segment) (hs : s ∈ segments text.toList) : s.fill context' = s.fill context := by
    unfold Segment.fill
    split
    · rfl
    · rename_i name source
      have hname : name ∈ placeholders text := List.mem_filterMap.mpr ⟨_, hs, rfl⟩
      rw [h name hname]
  unfold fillIn
  rw [mapM_congr hsegment]

theorem holds_congr {p : Predicate} (text : String)
    (h : ∀ name ∈ p.reads, context'.get? name = context.get? name) :
    p.holds text context' = p.holds text context := by
  unfold Predicate.reads at h
  unfold Predicate.holds
  cases hm : p.matchType with
  | contextHas =>
    rw [hm] at h
    dsimp only
    rw [h p.value List.mem_cons_self]
  | contextValue =>
    rw [hm] at h
    dsimp only at h ⊢
    split
    · rfl
    · rename_i name wanted hcut
      rw [hcut] at h
      rw [h _ List.mem_cons_self]
  | contains | equals | regex | other => rfl

end Reads

/-- No node of the graph looks up the variable. -/
def FlowGraph.Unread (graph : FlowGraph) (x : Value) : Prop :=
  ∀ node ∈ graph.nodeList, ∀ name ∈ node.reads, Value.text name ≠ x

instance (graph : FlowGraph) (x : Value) : Decidable (graph.Unread x) :=
  inferInstanceAs (Decidable (∀ node ∈ graph.nodeList, ∀ name ∈ node.reads, Value.text name ≠ x))

theorem FlowGraph.Unread.of_node? {graph : FlowGraph} {x : Value} (hx : graph.Unread x) {id : String}
    {node : FlowNode} (h : graph.node? id = some node) : ∀ name ∈ node.reads, Value.text name ≠ x :=
  hx node (Table.mem_values_of_get? h)

end Template

namespace Conversation

open Template (FlowGraph FlowNode Mutation)
open Time (Moment)

/-! ### States that differ in one variable -/

/-- The variables are the same but for one. -/
def SameVariables (x : Value) (context context' : Fields Value) : Prop :=
  ∀ name, Value.text name ≠ x → context'.get? name = context.get? name

/-- The states are the same but for what one variable holds, if it is there at all. -/
structure State.SameBut (x : Value) (s s' : State) : Prop where
  rest : s' = { s with context := s'.context, slots := s'.slots }
  context : SameVariables x s.context s'.context
  slots : ∀ place, place ≠ x.place → s'.slots.get? place = s.slots.get? place

/-- The replies are the same but for what one variable holds in their states. -/
structure Reply.SameBut (x : Value) (r r' : Reply) : Prop where
  rest : r' = { r with state := r'.state }
  state : r.state.SameBut x r'.state

/-- The exchanges are the same but for what one variable holds before and after. -/
structure Exchange.SameBut (x : Value) (e e' : Exchange) : Prop where
  before : e.before.SameBut x e'.before
  move : e'.move = e.move
  reply : e.reply.SameBut x e'.reply

/-- Two conversations go the same way but for what one variable holds, and break off at the same
move, unless a state cannot be copied: then its conversation breaks off there, and the other need
not. -/
inductive SameCourse (x : Value) :
    List Exchange × Option Break → List Exchange × Option Break → Prop
  | done : SameCourse x ([], none) ([], none)
  | broken {b b' : Break} : b.before.SameBut x b'.before → b'.move = b.move → b'.fault = b.fault →
    SameCourse x ([], some b) ([], some b')
  | uncopied {b : Break} {course : List Exchange × Option Break} : b.before.copy = .error b.fault →
    SameCourse x ([], some b) course
  | uncopied' {b : Break} {course : List Exchange × Option Break} : b.before.copy = .error b.fault →
    SameCourse x course ([], some b)
  | next {e e' : Exchange} {later later' : List Exchange × Option Break} : e.SameBut x e' →
    SameCourse x later later' → SameCourse x (e :: later.1, later.2) (e' :: later'.1, later'.2)

/-- Two conversations that have replies to all go the same way throughout. -/
theorem SameCourse.forall₂ {x : Value} {course course' : List Exchange × Option Break}
    (h : SameCourse x course course') (hend : course.2 = none) (hend' : course'.2 = none) :
    List.Forall₂ (Exchange.SameBut x) course.1 course'.1 := by
  induction h with
  | done => exact .nil
  | broken | uncopied => exact nomatch hend
  | uncopied' => exact nomatch hend'
  | next hsame _ ih => exact .cons hsame (ih hend hend')

/-- The next nodes are the same, and the replies but for one variable. -/
def Reply.SameNext {ν : Type} (x : Value) (out out' : ν × Reply) : Prop :=
  out'.1 = out.1 ∧ out.2.SameBut x out'.2

variable {x : Value}

theorem sameVariables_put {context context' : Fields Value} (h : SameVariables x context context')
    (name : String) (value : Value) :
    SameVariables x (context.put name value) (context'.put name value) := by
  intro other hother
  by_cases hname : other = name
  · rw [hname, Table.get?_put_self, Table.get?_put_self]
  · rw [Table.get?_put_of_ne _ _ hname, Table.get?_put_of_ne _ _ hname, h other hother]

theorem sameVariables_erase {context context' : Fields Value} (h : SameVariables x context context')
    (name : String) : SameVariables x (context.erase name) (context'.erase name) := by
  intro other hother
  by_cases hname : other = name
  · rw [hname, Table.get?_erase_self, Table.get?_erase_self]
  · rw [Table.get?_erase_of_ne _ hname, Table.get?_erase_of_ne _ hname, h other hother]

/-! ### One node -/

section Mutations

variable {context context' : Fields Value} (h : SameVariables x context context')
include h

/-- A change that does not look up the variable changes the others in the same way. -/
theorem agree_applyMutation {m : Mutation} (hm : ∀ name ∈ m.reads, Value.text name ≠ x) :
    Agree (SameVariables x) (applyMutation context m) (applyMutation context' m) := by
  have hreads (name : String) (hname : name ∈ m.reads) : context'.get? name = context.get? name :=
    h name (hm name hname)
  unfold applyMutation
  unfold Mutation.reads at hreads
  cases hc : m.change with
  | set =>
    have hfilled : filledIn m.value context' = filledIn m.value context := by
      unfold filledIn
      split
      · rename_i s hv
        rw [hc, hv] at hreads
        rw [Template.fillIn_congr hreads]
      · rfl
    dsimp only
    rw [hfilled]
    refine (Agree.refl (R := Eq) (fun _ => rfl) _).bind fun value _ hvalue => ?_
    rw [← hvalue]
    exact .ok (sameVariables_put h _ _)
  | unset => exact .ok (sameVariables_erase h _)
  | increment =>
    rw [hc] at hreads
    dsimp only
    rw [hreads m.name List.mem_cons_self]
    refine (Agree.refl (R := Eq) (fun _ => rfl) _).bind fun sum _ hsum => ?_
    rw [← hsum]
    exact .ok (sameVariables_put h _ _)

theorem agree_applyMutations {node : FlowNode} (hn : ∀ name ∈ node.reads, Value.text name ≠ x) :
    Agree (SameVariables x) (applyMutations node context) (applyMutations node context') := by
  refine agree_foldlM h fun m hm c c' hc => agree_applyMutation hc fun name hname => hn name ?_
  have hmem : name ∈ node.mutations.flatMap Mutation.reads := List.mem_flatMap.mpr ⟨m, hm, hname⟩
  exact List.mem_append_left _ (List.mem_append_right _ hmem)

theorem fill_eq {node : FlowNode} (hn : ∀ name ∈ node.reads, Value.text name ≠ x) :
    node.fill context' = node.fill context :=
  Template.fillIn_congr fun name hname =>
    h name (hn name (List.mem_append_left _ (List.mem_append_left _ hname)))

theorem firstBranch_eq {text : String} {branches : List (Template.Branch String)}
    (hb : ∀ b ∈ branches, ∀ name ∈ b.predicate.reads, Value.text name ≠ x) :
    Reply.firstBranch text context' branches = Reply.firstBranch text context branches := by
  induction branches with
  | nil => rfl
  | cons b more ih =>
    have hholds : b.predicate.holds text context' = b.predicate.holds text context :=
      Template.holds_congr text fun name hname => h name (hb b List.mem_cons_self name hname)
    unfold Reply.firstBranch
    rw [hholds, ih fun b' hb' => hb b' (List.mem_cons_of_mem _ hb')]

end Mutations

/-- An answer is kept in the same way, be it that of the variable itself or of another one. -/
theorem agree_keep {s s' : State} (h : s.SameBut x s') (name answer : Value) :
    Agree (State.SameBut x) (s.keep name answer) (s'.keep name answer) := by
  unfold State.keep
  split
  · refine .ok ⟨?_, sameVariables_put h.context _ _, h.slots⟩
    rw [h.rest]
  · split_ifs
    · refine .ok ⟨?_, h.context, fun place hplace => ?_⟩
      · rw [h.rest]
      · by_cases hsame : place = name.place
        · rw [hsame, Table.get?_put_self, Table.get?_put_self, h.slots _ (hsame ▸ hplace)]
        · rw [Table.get?_put_of_ne _ _ hsame, Table.get?_put_of_ne _ _ hsame, h.slots _ hplace]
    · exact .error _

namespace Reply.SameBut

variable {r r' : Reply} (h : r.SameBut x r')
include h

theorem setState {s s' : State} (hs : s.SameBut x s') :
    ({ r with state := s } : Reply).SameBut x { r' with state := s' } := by
  refine ⟨?_, hs⟩
  rw [h.rest]

theorem say (node : FlowNode) (text : String) : (r.say node text).SameBut x (r'.say node text) := by
  rw [h.rest]
  unfold Reply.say
  split_ifs
  · exact ⟨rfl, h.state⟩
  · exact ⟨rfl, h.state⟩

theorem prompt {node : FlowNode} (hn : ∀ name ∈ node.reads, Value.text name ≠ x) :
    Agree (Reply.SameBut x) (r.prompt node) (r'.prompt node) := by
  unfold Reply.prompt
  rw [fill_eq h.state.context hn]
  refine (Agree.refl (R := Eq) (fun _ => rfl) _).bind fun text _ htext => ?_
  rw [← htext]
  exact .ok (h.say node _)

theorem finish : r.finish.SameBut x r'.finish := by
  refine h.setState ⟨?_, h.state.context, h.state.slots⟩
  rw [h.state.rest]

theorem degrade (wording : String) : (r.degrade wording).SameBut x (r'.degrade wording) := by
  rw [h.rest]
  exact ⟨rfl, h.state⟩

theorem touch (now : Moment) : (r.touch now).SameBut x (r'.touch now) := by
  refine h.setState ⟨?_, h.state.context, h.state.slots⟩
  rw [h.state.rest]

theorem enter (node : FlowNode) : (r.enter node).SameBut x (r'.enter node) := by
  have hhistory : r'.state.history = r.state.history := by rw [h.state.rest]
  unfold Reply.enter
  dsimp only
  rw [hhistory, h.rest]
  refine ⟨rfl, ?_, h.state.context, h.state.slots⟩
  dsimp only
  rw [h.state.rest]

theorem arrive {node : FlowNode} (hn : ∀ name ∈ node.reads, Value.text name ≠ x) :
    Agree (SameNext x) (r.arrive node) (r'.arrive node) := by
  have henter := h.enter node
  unfold Reply.arrive
  dsimp only
  split_ifs
  · exact (henter.prompt hn).map fun _ _ hr => ⟨rfl, hr⟩
  · exact (henter.prompt hn).map fun _ _ hr => ⟨rfl, hr.finish⟩
  · exact .ok ⟨rfl, henter⟩

theorem follow (node : FlowNode) : SameNext x (r.follow node) (r'.follow node) := by
  unfold Reply.follow
  split
  · exact ⟨rfl, h.finish⟩
  · exact ⟨rfl, h⟩

/-- A node that does not look up the variable does the same. -/
theorem execute {node : FlowNode} (hn : ∀ name ∈ node.reads, Value.text name ≠ x)
    (text : Option String) : Agree (SameNext x) (r.execute node text) (r'.execute node text) := by
  have hmessage : Agree (SameNext x) (r.executeMessage node) (r'.executeMessage node) := by
    refine (agree_applyMutations h.state.context hn).bind fun c c' hc => ?_
    have hset : (r.setContext c).SameBut x (r'.setContext c') := by
      refine h.setState ⟨?_, hc, h.state.slots⟩
      rw [h.state.rest]
    rw [fill_eq hc hn]
    refine (Agree.refl (R := Eq) (fun _ => rfl) _).bind fun text _ htext => ?_
    rw [← htext]
    exact .ok ((hset.say node _).follow node)
  have hinput (text : String) :
      Agree (SameNext x) (r.executeInput node text) (r'.executeInput node text) := by
    refine (agree_keep h.state _ _).bind fun s s' hs => .ok (SameBut.follow ⟨?_, hs⟩ node)
    rw [h.rest]
  have hcondition (text : String) :
      Agree (SameNext x) (r.executeCondition node text) (r'.executeCondition node text) := by
    have hbranch : firstBranch text r'.state.context node.branches =
        firstBranch text r.state.context node.branches := by
      refine firstBranch_eq h.state.context fun b hb name hname => hn name ?_
      exact List.mem_append_right _ (List.mem_flatMap.mpr ⟨b, hb, hname⟩)
    unfold executeCondition
    rw [hbranch]
    refine (Agree.refl (R := Eq) (fun _ => rfl) _).bind fun chosen _ hsame => ?_
    rw [← hsame]
    cases chosen with
    | some target => exact .ok ⟨rfl, h⟩
    | none =>
      dsimp only
      split
      · exact .ok ⟨rfl, h⟩
      · exact (h.prompt hn).map fun _ _ hr => ⟨rfl, hr⟩
  unfold Reply.execute
  cases node.kind with
  | message | action => exact hmessage
  | input =>
    cases text with
    | none => exact .ok ⟨rfl, h⟩
    | some text => exact hinput text
  | condition =>
    cases text with
    | none => exact .ok ⟨rfl, h⟩
    | some text => exact hcondition text
  | terminal => exact .ok ⟨rfl, h.finish⟩

end Reply.SameBut

/-! ### Whole conversations -/

section Conversation

variable {graph : FlowGraph} (hx : graph.Unread x)
include hx

theorem agree_run {r r' : Reply} (h : r.SameBut x r') {node : FlowNode}
    (hn : ∀ name ∈ node.reads, Value.text name ≠ x) (limit : Nat) (text : Option String) :
    Agree (Reply.SameBut x) (r.run graph limit node text) (r'.run graph limit node text) := by
  induction limit generalizing r r' node text with
  | zero => exact .ok (h.degrade _)
  | succ limit ih =>
    have hexecute := h.execute hn text
    unfold Reply.run
    generalize r.execute node text = x₁ at hexecute ⊢
    generalize r'.execute node text = x₂ at hexecute ⊢
    cases hexecute with
    | error f => exact .ok (h.degrade _)
    | @ok out out' hout =>
      obtain ⟨target, r₁⟩ := out
      obtain ⟨target', r₂⟩ := out'
      obtain ⟨rfl, hr⟩ : target' = target ∧ r₁.SameBut x r₂ := hout
      cases target' with
      | none => exact .ok hr
      | some id' =>
        dsimp only
        cases hnext : graph.node? id' with
        | none => exact .error _
        | some next =>
          refine (hr.arrive (hx.of_node? hnext)).bind ?_
          rintro ⟨stop, r₃⟩ ⟨stop', r₄⟩ ⟨rfl, hr⟩
          dsimp only at hr ⊢
          split_ifs
          · exact .ok hr
          · exact ih hr (hx.of_node? hnext) none

theorem agree_enterAndRun (i : Interpreter) {r r' : Reply} (h : r.SameBut x r') {node : FlowNode}
    (hn : ∀ name ∈ node.reads, Value.text name ≠ x) :
    Agree (Reply.SameBut x) (i.enterAndRun graph node r) (i.enterAndRun graph node r') := by
  refine (h.arrive hn).bind ?_
  rintro ⟨stop, r₁⟩ ⟨stop', r₂⟩ ⟨rfl, hr⟩
  dsimp only at hr ⊢
  split_ifs
  · exact .ok hr
  · exact agree_run hx hr hn _ _

theorem agree_settle (i : Interpreter) {s s' : State} (h : s.SameBut x s') (text : Option String)
    (now : Moment) :
    Agree (Reply.SameBut x) (i.settle graph text now s) (i.settle graph text now s') := by
  have hidle : (Reply.idle s).SameBut x (Reply.idle s') := ⟨rfl, h⟩
  have hcompleted : s'.completed = s.completed := by rw [h.rest]
  have hplace : s'.currentNodeId = s.currentNodeId := by rw [h.rest]
  have hhistory : s'.history = s.history := by rw [h.rest]
  cases hopen : s.completed with
  | true =>
    rw [i.settle_completed graph hopen, i.settle_completed graph (hcompleted.trans hopen)]
    exact .ok hidle
  | false =>
    rw [i.settle_open graph hopen, i.settle_open graph (hcompleted.trans hopen), hplace]
    cases hnode : Interpreter.nodeAt graph s.currentNodeId with
    | error f => exact .error f
    | ok node =>
      have hn := hx _ (mem_of_nodeAt hnode)
      have hgo : Agree (Reply.SameBut x) (i.goOn graph node text s) (i.goOn graph node text s') := by
        unfold Interpreter.goOn
        rw [hhistory]
        split_ifs
        · exact agree_enterAndRun hx i hidle hn
        · exact agree_run hx hidle hn _ _
      exact hgo.map fun _ _ hr => hr.touch now

theorem agree_reopen (i : Interpreter) {s s' : State} (h : s.SameBut x s') {node : FlowNode}
    (hn : ∀ name ∈ node.reads, Value.text name ≠ x) (now : Moment) :
    Agree (Reply.SameBut x)
      ((i.enterAndRun graph node (Reply.idle { s with completed := false })).map (·.touch now))
      ((i.enterAndRun graph node (Reply.idle { s' with completed := false })).map (·.touch now)) := by
  have hreopened : (Reply.idle { s with completed := false }).SameBut x
      (Reply.idle { s' with completed := false }) := by
    refine ⟨rfl, ?_, h.context, h.slots⟩
    show ({ s' with completed := false } : State) = _
    rw [h.rest]
    rfl
  exact (agree_enterAndRun hx i hreopened hn).map fun _ _ hr => hr.touch now

/-- Every move has the same reply in both states, unless it fails as one of them cannot be copied. -/
theorem agree_respond (i : Interpreter) {s s' : State} (h : s.SameBut x s') (move : Move) :
    (∃ f, s.copy = .error f ∧ i.respond graph s move = .error f) ∨
    (∃ f, s'.copy = .error f ∧ i.respond graph s' move = .error f) ∨
    Agree (Reply.SameBut x) (i.respond graph s move) (i.respond graph s' move) := by
  -- what is done with the copies does the same in both
  have hcopies {act act' : Except Fault Reply} (hact : Agree (Reply.SameBut x) act act')
      (heq : i.respond graph s move = s.copy.bind fun _ => act)
      (heq' : i.respond graph s' move = s'.copy.bind fun _ => act') :
      (∃ f, s.copy = .error f ∧ i.respond graph s move = .error f) ∨
      (∃ f, s'.copy = .error f ∧ i.respond graph s' move = .error f) ∨
      Agree (Reply.SameBut x) (i.respond graph s move) (i.respond graph s' move) := by
    rw [heq, heq']
    cases hs : s.copy with
    | error f => exact .inl ⟨f, rfl, rfl⟩
    | ok copied =>
      cases hs' : s'.copy with
      | error f => exact .inr (.inl ⟨f, rfl, rfl⟩)
      | ok copied' => exact .inr (.inr hact)
  have hcopied {s : State} (f : State → Except Fault Reply) :
      s.copy.bind f = s.copy.bind fun _ => f s := by
    unfold State.copy
    split <;> rfl
  cases move with
  | message text session now =>
    exact hcopies (agree_settle hx i h text now) (hcopied _) (hcopied _)
  | jump target now =>
    cases hnode : Interpreter.nodeAt graph target with
    | error f =>
      have hnowhere (s : State) : i.respond graph s (.jump target now) = .error f := by
        show i.advance graph s target now = .error f
        unfold Interpreter.advance
        rw [hnode]
        rfl
      rw [hnowhere, hnowhere]
      exact .inr (.inr (.error f))
    | ok node =>
      have hlookup := lookup_of_nodeAt hnode
      refine hcopies (agree_reopen hx i h (hx _ (mem_of_nodeAt hnode)) now) ?_ ?_
      · exact (advance_at i s hlookup now).trans (hcopied _)
      · exact (advance_at i s' hlookup now).trans (hcopied _)

theorem sameCourse_goThrough (i : Interpreter) {s s' : State} (h : s.SameBut x s')
    (moves : List Move) :
    SameCourse x (i.goThrough graph s moves) (i.goThrough graph s' moves) := by
  induction moves generalizing s s' with
  | nil => exact .done
  | cons move more ih =>
    unfold Interpreter.goThrough
    rcases agree_respond hx i h move with ⟨f, hcopy, hr⟩ | ⟨f, hcopy, hr⟩ | hagree
    · rw [hr]
      exact .uncopied hcopy
    · rw [hr]
      exact .uncopied' hcopy
    · generalize i.respond graph s move = y at hagree ⊢
      generalize i.respond graph s' move = y' at hagree ⊢
      cases hagree with
      | error f => exact .broken h rfl rfl
      | ok hr => exact .next ⟨h, rfl, hr⟩ (ih hr.state)

/-- **What nobody reads shows nowhere.**  Two states differ in one variable, which no placeholder of
the graph, no count and no test on the variables is about.  Then every message has the same reply in
both, but for that variable in the new state; and so it goes on through all further messages and
jumps, unless what the variable holds is nested too deeply for one of the states to be copied.
Messages may look like placeholders: they are kept and shown as they are. -/
theorem agree_of_unread (i : Interpreter) {s s' : State} (h : s.SameBut x s') :
    (∀ text session now, (∃ f, s.copy = .error f) ∨ (∃ f, s'.copy = .error f) ∨
      Agree (Reply.SameBut x) (i.step graph (some s) text session now)
        (i.step graph (some s') text session now)) ∧
    ∀ moves, SameCourse x (i.goThrough graph s moves) (i.goThrough graph s' moves) := by
  refine ⟨fun text session now => ?_, sameCourse_goThrough hx i h⟩
  exact (agree_respond hx i h (.message text session now)).imp (fun ⟨f, hf, _⟩ => ⟨f, hf⟩)
    (.imp_left fun ⟨f, hf, _⟩ => ⟨f, hf⟩)

end Conversation

/-- A note that is asked for and never shown, and a name that is. -/
def notebook : Value :=
  .object [("id", .text "notebook"), ("entryNodeId", .text "note"), ("nodes", .list [
    .object [("id", .text "note"), ("type", .text "input"), ("content", .text "Your note?"),
      ("variableName", .text "note"), ("next", .text "ask")],
    .object [("id", .text "ask"), ("type", .text "input"), ("content", .text "Your name?"),
      ("variableName", .text "name"), ("next", .text "greet")],
    .object [("id", .text "greet"), ("type", .text "action"),
      ("set", .object [("greeting", .text "Hello {name}")]), ("content", .text "{{greeting}}!"),
      ("next", .text "ask")]])]

/-- The name is asked for, and so far the note is as given. -/
def noted (note : String) : State where
  flowId := .text "notebook"
  tenantId := .text "acme"
  userId := .text "ann"
  sessionId := .text "1"
  currentNodeId := .text "ask"
  context := [("note", .text note)]
  history := [.text "note", .text "ask"]
  startedAt := ⟨0, none⟩
  lastUpdatedAt := ⟨0, none⟩
  completed := false
  version := 2

theorem sameBut_noted (note note' : String) : (noted note).SameBut (.text "note") (noted note') := by
  refine ⟨rfl, fun name hname => ?_, fun _ _ => rfl⟩
  have hne : "note" ≠ name := fun h => hname (congrArg Value.text h.symm)
  simp [noted, Table.get?, hne]

def namesLikePlaceholders : List Move :=
  [.message (some "{note}") none ⟨1, none⟩, .message (some "{{note}}") none ⟨2, none⟩]

/-- Whatever was noted, a name that looks like its placeholder is shown as it is. -/
theorem agree_of_unread_notebook : ∃ graph exchanges exchanges',
    Template.readGraph notebook .null .null = .ok graph ∧ graph.Unread (.text "note") ∧
      (noted "one").SameBut (.text "note") (noted "two") ∧
      ({} : Interpreter).goThrough graph (noted "one") namesLikePlaceholders = (exchanges, none) ∧
      ({} : Interpreter).goThrough graph (noted "two") namesLikePlaceholders = (exchanges', none) ∧
      List.Forall₂ (Exchange.SameBut (.text "note")) exchanges exchanges' ∧
      (exchanges.map fun e => e.reply.texts) =
        [[.text "Hello {note}!", .text "Your name?"],
          [.text "Hello {{note}}!", .text "Your name?"]] := by
  have h : ((Template.readGraph notebook .null .null).toOption.any fun graph =>
      let one := ({} : Interpreter).goThrough graph (noted "one") namesLikePlaceholders
      let two := ({} : Interpreter).goThrough graph (noted "two") namesLikePlaceholders
      decide (graph.Unread (.text "note")) && one.2.isNone && two.2.isNone &&
        decide ((one.1.map fun e => e.reply.texts) =
          [[.text "Hello {note}!", .text "Your name?"],
            [.text "Hello {{note}}!", .text "Your name?"]])) = true := by decide +kernel
  obtain ⟨graph, hread, h⟩ := exists_of_any h
  simp only [Bool.and_eq_true, Option.isNone_iff_eq_none] at h
  obtain ⟨⟨⟨hunread, hone⟩, htwo⟩, htexts⟩ := h
  have hunread : graph.Unread (.text "note") := of_decide_eq_true hunread
  have hsame := (agree_of_unread hunread {} (sameBut_noted "one" "two")).2 namesLikePlaceholders
  exact ⟨graph, _, _, hread, hunread, sameBut_noted "one" "two", Prod.ext rfl hone,
    Prod.ext rfl htwo, hsame.forall₂ hone htwo, of_decide_eq_true htexts⟩

/-- **What nobody reads can end a conversation.**  Somewhere else a note of many lists was taken, and
the state cannot be copied for it. -/
theorem not_agree_of_piled : ∃ graph reply,
    let piled := { noted "one" with context := [("note", .piled 500)] }
    Template.readGraph notebook .null .null = .ok graph ∧ graph.Unread (.text "note") ∧
      (noted "one").SameBut (.text "note") piled ∧
      ({} : Interpreter).step graph (some (noted "one")) (some "Ann") none ⟨1, none⟩ = .ok reply ∧
      ({} : Interpreter).step graph (some piled) (some "Ann") none ⟨1, none⟩ =
        .error (.tooDeep "") := by
  have h : ((Template.readGraph notebook .null .null).toOption.any fun graph =>
      decide (graph.Unread (.text "note")) &&
        (({} : Interpreter).step graph (some (noted "one")) (some "Ann") none ⟨1, none⟩).isOk) =
      true := by decide +kernel
  obtain ⟨graph, hread, h⟩ := exists_of_any h
  obtain ⟨hunread, hok⟩ := Bool.and_eq_true_iff.mp h
  obtain ⟨reply, hreply⟩ := exists_of_isOk hok
  refine ⟨graph, reply, hread, of_decide_eq_true hunread, ⟨rfl, fun name hname => ?_, fun _ _ => rfl⟩,
    hreply, ?_⟩
  · have hne : "note" ≠ name := fun h => hname (congrArg Value.text h.symm)
    simp [noted, Table.get?, hne]
  · have hcopy : State.copy { noted "one" with context := [("note", .piled 500)] } =
        .error (.tooDeep "") := by decide +kernel
    rw [Interpreter.step_some, hcopy]
    rfl

end Conversation

end Parley
