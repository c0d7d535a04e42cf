import Parley.Conversation.Interpreter
import Parley.Proofs.Conversation.Documents
import Parley.Proofs.Conversation.Trail
import Parley.Proofs.Document.Reader

/-!
# Parley.Proofs.Conversation.Whole — conversations that documents can hold

`Holdable reals`: each of these real numbers is read from its text, and sums are among them again.
A value is whole if it has no other real numbers in it, and no object with one name twice; then it
is read back as it was written (`Value.legible_of_whole`).  A template is whole if it changes
variables by whole values and keeps all answers under texts.

`State.Whole s`: the ids, the variables and the history of the state are whole, and its times are
moments that text can hold.  `State.whole_of_ofFields`: such states are read from whole documents.
`Interpreter.whole_step`: with a whole template, messages lead from whole states to whole states
only, and so do jumps (`Interpreter.whole_advance`).
-/

namespace Parley

namespace Value

theorem text_of_kind {v : Value} (h : v.kind = .text) : ∃ s, v = text s := by
  cases v with
  | text s => exact ⟨s, rfl⟩
  | _ => exact nomatch h

/-- Real numbers that texts can hold: each is read from its text, and sums are among them again. -/
structure Holdable (reals : Float → Bool) : Prop where
  reads : ∀ {x : Float}, reals x = true → Document.RealReads x
  sum : ∀ {x y : Float}, reals x = true → reals y = true → reals (x + y) = true
  intSum : ∀ {m : Int} {y : Float}, reals y = true → reals (Decimal.floatOfInt m + y) = true
  sumInt : ∀ {x : Float} {n : Int}, reals x = true → reals (x + Decimal.floatOfInt n) = true

def noReals (_ : Float) : Bool := false

theorem holdable_none : Holdable noReals where
  reads h := absurd h Bool.false_ne_true
  sum h := absurd h Bool.false_ne_true
  intSum h := absurd h Bool.false_ne_true
  sumInt h := absurd h Bool.false_ne_true

section Whole

variable (reals : Float → Bool)

mutual

/-- All real numbers in the value are some of these, and no object in it has a name twice. -/
def whole : Value → Bool
  | real x => reals x
  | list items => wholeList items
  | object fields => decide (Table.names fields).Nodup && wholeFields fields
  | null | bool _ | int _ | text _ => true

def wholeList : List Value → Bool
  | [] => true
  | a :: as => whole a && wholeList as

def wholeFields : List (String × Value) → Bool
  | [] => true
  | (_, a) :: as => whole a && wholeFields as

end

end Whole

variable {reals : Float → Bool}

theorem wholeList_iff {items : List Value} :
    wholeList reals items = true ↔ ∀ a ∈ items, a.whole reals = true := by
  induction items with
  | nil => simp [wholeList]
  | cons a as ih => simp [wholeList, ih]

theorem wholeFields_iff {fields : Fields Value} :
    wholeFields reals fields = true ↔ ∀ a ∈ Table.values fields, a.whole reals = true := by
  induction fields with
  | nil => simp [wholeFields, Table.values]
  | cons entry rest ih =>
    simp only [Table.values, List.map_cons, List.forall_mem_cons] at ih ⊢
    rw [wholeFields, Bool.and_eq_true, ih]

theorem whole_list {items : List Value} :
    (list items).whole reals = true ↔ ∀ a ∈ items, a.whole reals = true := wholeList_iff

theorem whole_object {fields : Fields Value} : (object fields).whole reals = true ↔
    (Table.names fields).Nodup ∧ ∀ a ∈ Table.values fields, a.whole reals = true := by
  rw [whole, Bool.and_eq_true, decide_eq_true_iff, wholeFields_iff]

mutual

/-- What is whole is read back as it was written. -/
theorem legible_of_whole (hreals : Holdable reals) :
    ∀ {v : Value}, v.whole reals = true → Document.Legible v
  | null, _ | bool _, _ | int _, _ | text _, _ => trivial
  | real _, h => hreals.reads h
  | list _, h => legible_of_wholeList hreals h
  | object _, h =>
    have hparts := Bool.and_eq_true_iff.mp h
    ⟨of_decide_eq_true hparts.1, legible_of_wholeFields hreals hparts.2⟩

theorem legible_of_wholeList (hreals : Holdable reals) : ∀ {items : List Value},
    wholeList reals items = true → Document.LegibleItems items
  | [], _ => trivial
  | _ :: _, h =>
    have hparts := Bool.and_eq_true_iff.mp h
    ⟨legible_of_whole hreals hparts.1, legible_of_wholeList hreals hparts.2⟩

theorem legible_of_wholeFields (hreals : Holdable reals) : ∀ {fields : List (String × Value)},
    wholeFields reals fields = true → Document.LegibleFields fields
  | [], _ => trivial
  | (_, _) :: _, h =>
    have hparts := Bool.and_eq_true_iff.mp h
    ⟨legible_of_whole hreals hparts.1, legible_of_wholeFields hreals hparts.2⟩

end

variable {fields : Fields Value} {name : String} {a b v : Value}

theorem whole_put (h : (object fields).whole reals = true) (hv : v.whole reals = true) :
    (object (Table.put fields name v)).whole reals = true := by
  obtain ⟨hnames, hvalues⟩ := whole_object.mp h
  exact whole_object.mpr ⟨Table.nodup_put hnames, Table.forall_values_put hvalues hv⟩

theorem whole_erase (h : (object fields).whole reals = true) :
    (object (Table.erase fields name)).whole reals = true := by
  obtain ⟨hnames, hvalues⟩ := whole_object.mp h
  exact whole_object.mpr ⟨Table.nodup_erase hnames, Table.forall_values_erase hvalues⟩

theorem whole_of_get? (h : (object fields).whole reals = true)
    (hv : Table.get? fields name = some v) : v.whole reals = true :=
  (whole_object.mp h).2 v (Table.mem_values_of_get? hv)

theorem whole_field (h : (object fields).whole reals = true) :
    (field fields name).whole reals = true := by
  unfold field
  cases hv : Table.get? fields name with
  | none => rfl
  | some v => exact whole_of_get? h hv

theorem whole_require (h : (object fields).whole reals = true) (hv : require fields name = .ok v) :
    v.whole reals = true := by
  unfold require at hv
  split at hv
  · rename_i found hfound
    exact Except.ok.inj hv ▸ whole_of_get? h hfound
  · exact nomatch hv

theorem whole_orElse (ha : a.whole reals = true) (hb : b.whole reals = true) :
    (a.orElse b).whole reals = true := by
  unfold orElse
  split_ifs
  · exact ha
  · exact hb

theorem real_of_number? {x : Float} (h : v.number? = some (.real x)) : v = real x := by
  cases v with
  | real y => rw [Number.real.inj (Option.some.inj h)]
  | _ => exact nomatch h

theorem whole_plus (hreals : Holdable reals) (h : a.plus b = .ok v) (ha : a.whole reals = true)
    (hb : b.whole reals = true) : v.whole reals = true := by
  have hknown {w : Value} {x : Float} (hw : w.whole reals = true)
      (hx : w.number? = some (.real x)) : reals x = true := by
    rw [real_of_number? hx] at hw
    exact hw
  unfold plus at h
  split at h
  · rw [← Except.ok.inj h]
    rfl
  · rw [← Except.ok.inj h]
    refine whole_list.mpr fun w hw => ?_
    rcases List.mem_append.mp hw with hw | hw
    · exact whole_list.mp ha w hw
    · exact whole_list.mp hb w hw
  · split at h
    · rw [← Except.ok.inj h]
      rfl
    · rename_i hy
      split_ifs at h
      rw [← Except.ok.inj h]
      exact hreals.intSum (hknown hb hy)
    · rename_i hx _
      split_ifs at h
      rw [← Except.ok.inj h]
      exact hreals.sumInt (hknown ha hx)
    · rename_i hx hy
      rw [← Except.ok.inj h]
      exact hreals.sum (hknown ha hx) (hknown hb hy)
    · exact nomatch h

theorem whole_items {items : List Value} (h : v.items = .ok items) (hv : v.whole reals = true) :
    ∀ a ∈ items, a.whole reals = true := by
  cases v with
  | list xs => exact Except.ok.inj h ▸ whole_list.mp hv
  | text s =>
    rw [← Except.ok.inj h]
    intro a ha
    obtain ⟨c, -, rfl⟩ := List.mem_map.mp ha
    rfl
  | object fields =>
    rw [← Except.ok.inj h]
    intro a ha
    obtain ⟨entry, -, rfl⟩ := List.mem_map.mp ha
    rfl
  | null | bool _ | int _ | real _ => exact nomatch h

theorem whole_entry {position : Nat} {pair : String × Value} (h : v.entry position = .ok pair)
    (hv : v.whole reals = true) : pair.2.whole reals = true := by
  unfold entry at h
  split at h
  · exact nomatch h
  · rename_i name value hitems
    obtain ⟨_, -, rfl⟩ := exceptMap_eq_ok.mp h
    exact whole_items hitems hv value (by simp)
  · exact nomatch h

/-- A table has the values that it was made of. -/
theorem whole_table {fields : Fields Value} (h : v.table = .ok fields) (hv : v.whole reals = true) :
    (object fields).whole reals = true := by
  have hlisted {items : List Value} {found : Nat × Fields Value} (hitems : v.items = .ok items)
      (h : items.foldlM (fun (state : Nat × Fields Value) item => do
        let pair ← entry state.1 item
        .ok (state.1 + 1, state.2.put pair.1 pair.2)) (0, []) = .ok found) :
      (object found.2).whole reals = true := by
    refine foldlM_keeps (fun state => (object state.2).whole reals = true) rfl
      (fun item hitem state state' hstate hstep => ?_) h
    obtain ⟨pair, hpair, hput⟩ := exceptBind_eq_ok.mp hstep
    rw [← Except.ok.inj hput]
    exact whole_put hstate (whole_entry hpair (whole_items hitems hv item hitem))
  cases v with
  | object own => exact Except.ok.inj h ▸ hv
  | list _ | text _ =>
    obtain ⟨items, hitems, h⟩ := exceptBind_eq_ok.mp h
    obtain ⟨found, hfold, hend⟩ := exceptBind_eq_ok.mp h
    exact Except.ok.inj hend ▸ hlisted hitems hfold
  | null | bool _ | int _ | real _ => cases h

end Value

namespace Template

/-- The node keeps its answer under a text, and changes variables by whole values. -/
structure NodeOf.Whole {Target : Type} (reals : Float → Bool) (node : NodeOf Target) : Prop where
  named : (node.variableName.orElse (.text node.id)).kind = .text
  changes : ∀ m ∈ node.mutations, m.value.whole reals = true

instance {Target : Type} (reals : Float → Bool) (node : NodeOf Target) :
    Decidable (node.Whole reals) :=
  decidable_of_decidable_of_iff
    (show ((node.variableName.orElse (.text node.id)).kind = .text ∧
        ∀ m ∈ node.mutations, m.value.whole reals = true) ↔ node.Whole reals from
      ⟨fun h => ⟨h.1, h.2⟩, fun h => ⟨h.named, h.changes⟩⟩)

/-- All nodes of the template are whole. -/
def FlowGraph.Whole (reals : Float → Bool) (graph : FlowGraph) : Prop :=
  ∀ node ∈ graph.nodeList, node.Whole reals

instance (reals : Float → Bool) (graph : FlowGraph) : Decidable (graph.Whole reals) :=
  inferInstanceAs (Decidable (∀ node ∈ graph.nodeList, node.Whole reals))

end Template

namespace Conversation

open Template (FlowGraph FlowNode)
open Time (Moment)

variable {reals : Float → Bool}

/-! ### States -/

/-- A state that documents can hold: its times are moments that text can hold, all names of its
variables are texts, and all its values are whole. -/
structure State.Whole (reals : Float → Bool) (s : State) : Prop where
  timely : s.Timely
  named : s.slots = []
  flow : s.flowId.whole reals = true
  tenant : s.tenantId.whole reals = true
  user : s.userId.whole reals = true
  session : s.sessionId.whole reals = true
  place : s.currentNodeId.whole reals = true
  context : (Value.object s.context).whole reals = true
  history : (Value.list s.history).whole reals = true

namespace State.Whole

variable {s : State}

theorem whole_document (h : s.Whole reals) : (Value.object s.document).whole reals = true := by
  have hnames : Table.names s.document = ["flowId", "tenantId", "userId", "sessionId",
      "currentNodeId", "context", "history", "startedAt", "lastUpdatedAt", "completed",
      "version"] := rfl
  refine Value.whole_object.mpr ⟨by rw [hnames]; decide, fun v hv => ?_⟩
  simp only [document, Table.values, List.map_cons, List.map_nil, List.mem_cons,
    List.not_mem_nil, or_false, bindings_of_named h.named] at hv
  rcases hv with rfl | rfl | rfl | rfl | rfl | rfl | rfl | rfl | rfl | rfl | rfl
  exacts [h.flow, h.tenant, h.user, h.session, h.place, h.context, h.history, rfl, rfl, rfl, rfl]

theorem at_version (h : s.Whole reals) (version : Int) :
    { s with version := version }.Whole reals :=
  ⟨⟨h.timely.started, h.timely.updated⟩, h.named, h.flow, h.tenant, h.user, h.session, h.place,
    h.context, h.history⟩

theorem with_context (h : s.Whole reals) {context : Fields Value}
    (hcontext : (Value.object context).whole reals = true) :
    { s with context := context }.Whole reals :=
  ⟨⟨h.timely.started, h.timely.updated⟩, h.named, h.flow, h.tenant, h.user, h.session, h.place,
    hcontext, h.history⟩

theorem with_completed (h : s.Whole reals) (completed : Bool) :
    { s with completed := completed }.Whole reals :=
  ⟨⟨h.timely.started, h.timely.updated⟩, h.named, h.flow, h.tenant, h.user, h.session, h.place,
    h.context, h.history⟩

end State.Whole

/-- **What is read from a whole document is whole**, at a moment that text can hold. -/
theorem State.whole_of_ofFields {fields : Fields Value} {now : Moment} {s : State}
    (hread : State.ofFields now fields = .ok s) (hnow : now.Proper)
    (h : (Value.object fields).whole reals = true) : s.Whole reals := by
  have htimely := State.timely_of_ofFields hread hnow
  obtain ⟨flowId, hflow, hread⟩ := exceptBind_eq_ok.mp hread
  obtain ⟨tenantId, htenant, hread⟩ := exceptBind_eq_ok.mp hread
  obtain ⟨userId, huser, hread⟩ := exceptBind_eq_ok.mp hread
  obtain ⟨sessionId, hsession, hread⟩ := exceptBind_eq_ok.mp hread
  obtain ⟨currentNodeId, hplace, hread⟩ := exceptBind_eq_ok.mp hread
  obtain ⟨context, hcontext, hread⟩ := exceptBind_eq_ok.mp hread
  obtain ⟨history, hhistory, hread⟩ := exceptBind_eq_ok.mp hread
  obtain ⟨startedAt, -, hread⟩ := exceptBind_eq_ok.mp hread
  obtain ⟨lastUpdatedAt, -, hread⟩ := exceptBind_eq_ok.mp hread
  obtain ⟨version, -, hread⟩ := exceptBind_eq_ok.mp hread
  rw [← Except.ok.inj hread] at htimely ⊢
  exact ⟨htimely, rfl, Value.whole_require h hflow, Value.whole_require h htenant,
    Value.whole_require h huser, Value.whole_require h hsession, Value.whole_require h hplace,
    Value.whole_table hcontext (Value.whole_orElse (Value.whole_field h) rfl),
    Value.whole_list.mpr
      (Value.whole_items hhistory (Value.whole_orElse (Value.whole_field h) rfl))⟩

/-- All ids of the session are whole. -/
structure SessionKey.Whole (reals : Float → Bool) (key : SessionKey) : Prop where
  tenant : key.tenant.whole reals = true
  user : key.user.whole reals = true
  session : key.session.whole reals = true

theorem State.whole_initial (graph : FlowGraph) {key : SessionKey} (hkey : key.Whole reals)
    {now : Moment} (hnow : now.Proper) : (State.initial graph key now).Whole reals :=
  ⟨⟨hnow, hnow⟩, rfl, rfl, hkey.tenant, hkey.user, hkey.session, rfl, rfl, rfl⟩

/-! ### Steps -/

namespace Reply

variable {r : Reply} {node : FlowNode}

theorem whole_applyMutations (hreals : Value.Holdable reals) {context after : Fields Value}
    (hn : node.Whole reals) (h : applyMutations node context = .ok after)
    (hc : (Value.object context).whole reals = true) :
    (Value.object after).whole reals = true := by
  refine foldlM_keeps (fun context => (Value.object context).whole reals = true) hc
    (fun m hm c c' hc hstep => ?_) h
  have hvalue := hn.changes m hm
  unfold applyMutation at hstep
  cases hchange : m.change with
  | set =>
    rw [hchange] at hstep
    obtain ⟨v, hv, hput⟩ := exceptBind_eq_ok.mp hstep
    rw [← Except.ok.inj hput]
    refine Value.whole_put hc ?_
    unfold filledIn at hv
    split at hv
    · obtain ⟨_, -, rfl⟩ := exceptMap_eq_ok.mp hv
      rfl
    · exact Except.ok.inj hv ▸ hvalue
  | unset =>
    rw [hchange] at hstep
    exact Except.ok.inj hstep ▸ Value.whole_erase hc
  | increment =>
    rw [hchange] at hstep
    obtain ⟨sum, hsum, hput⟩ := exceptBind_eq_ok.mp hstep
    rw [← Except.ok.inj hput]
    refine Value.whole_put hc (Value.whole_plus hreals hsum ?_ ?_)
    · cases hfound : Table.get? c m.name with
      | none => rfl
      | some v => exact Value.whole_of_get? hc hfound
    · split_ifs
      · rfl
      · exact hvalue

theorem state_say (r : Reply) (node : FlowNode) (text : String) :
    (r.say node text).state = r.state := by
  unfold say
  split_ifs <;> rfl

theorem whole_enter (h : r.state.Whole reals) (node : FlowNode) :
    (r.enter node).state.Whole reals := by
  refine ⟨⟨h.timely.started, h.timely.updated⟩, h.named, h.flow, h.tenant, h.user, h.session, rfl,
    h.context, Value.whole_list.mpr fun v hv => ?_⟩
  rcases List.mem_append.mp hv with hv | hv
  · exact Value.whole_list.mp h.history v hv
  · rw [List.mem_singleton.mp hv]
    rfl

theorem whole_finish (h : r.state.Whole reals) : r.finish.state.Whole reals :=
  h.with_completed true

theorem whole_follow (h : r.state.Whole reals) (node : FlowNode) :
    (r.follow node).2.state.Whole reals := by
  unfold follow
  split
  · exact whole_finish h
  · exact h

theorem whole_prompt {r' : Reply} (h : r.state.Whole reals) (hprompt : r.prompt node = .ok r') :
    r'.state.Whole reals := by
  rw [(r.unlessLimited_prompt node).holds hprompt, state_say]
  exact h

theorem whole_arrive {out : Bool × Reply} (h : r.state.Whole reals)
    (harrive : r.arrive node = .ok out) : out.2.state.Whole reals := by
  unfold arrive at harrive
  dsimp only at harrive
  split_ifs at harrive
  · obtain ⟨r', hprompt, rfl⟩ := exceptMap_eq_ok.mp harrive
    exact whole_prompt (whole_enter h node) hprompt
  · obtain ⟨r', hprompt, rfl⟩ := exceptMap_eq_ok.mp harrive
    exact whole_finish (whole_prompt (whole_enter h node) hprompt)
  · rw [← Except.ok.inj harrive]
    exact whole_enter h node

theorem whole_execute (hreals : Value.Holdable reals) (hn : node.Whole reals)
    {text : Option String} {out : Option String × Reply} (h : r.state.Whole reals)
    (hexecute : r.execute node text = .ok out) : out.2.state.Whole reals := by
  have hmessage (hexecute : r.executeMessage node = .ok out) : out.2.state.Whole reals := by
    obtain ⟨context, hcontext, hsay⟩ := exceptBind_eq_ok.mp hexecute
    obtain ⟨text, -, hfollow⟩ := exceptBind_eq_ok.mp hsay
    rw [← Except.ok.inj hfollow]
    refine whole_follow ?_ node
    rw [state_say]
    exact h.with_context (whole_applyMutations hreals hn hcontext h.context)
  unfold execute at hexecute
  cases hk : node.kind with
  | message | action =>
    rw [hk] at hexecute
    exact hmessage hexecute
  | input =>
    rw [hk] at hexecute
    cases text with
    | none => exact Except.ok.inj hexecute ▸ h
    | some text =>
      obtain ⟨name, hname⟩ := Value.text_of_kind hn.named
      dsimp only at hexecute
      unfold executeInput at hexecute
      rw [hname] at hexecute
      have hkept : { r.state with context := r.state.context.put name (.text text) }.Whole reals :=
        h.with_context (Value.whole_put h.context rfl)
      rw [← Except.ok.inj hexecute]
      exact whole_follow (r := { r with
        state := { r.state with context := r.state.context.put name (.text text) }
        captured := some true }) hkept node
  | condition =>
    rw [hk] at hexecute
    cases text with
    | none => exact Except.ok.inj hexecute ▸ h
    | some text =>
      obtain ⟨chosen, -, hend⟩ := exceptBind_eq_ok.mp hexecute
      cases chosen with
      | some target => exact Except.ok.inj hend ▸ h
      | none =>
        dsimp only at hend
        split at hend
        · exact Except.ok.inj hend ▸ h
        · obtain ⟨r', hprompt, rfl⟩ := exceptMap_eq_ok.mp hend
          exact whole_prompt h hprompt
  | terminal =>
    rw [hk] at hexecute
    exact Except.ok.inj hexecute ▸ whole_finish h

variable {graph : FlowGraph} (hreals : Value.Holdable reals) (hg : graph.Whole reals)
include hreals hg

theorem whole_run (hn : node.Whole reals) {limit : Nat} {text : Option String} {r' : Reply}
    (h : r.state.Whole reals) (hrun : r.run graph limit node text = .ok r') :
    r'.state.Whole reals := by
  induction limit generalizing r node text with
  | zero => exact Except.ok.inj hrun ▸ h
  | succ limit ih =>
    unfold Reply.run at hrun
    split at hrun
    · exact Except.ok.inj hrun ▸ h
    · rename_i hexecute
      exact Except.ok.inj hrun ▸ whole_execute hreals hn h hexecute
    · rename_i id r₁ hexecute
      split at hrun
      · cases hrun
      · rename_i next hnext
        obtain ⟨⟨stop, r₂⟩, harrive, hgo⟩ := exceptBind_eq_ok.mp hrun
        have hthere : r₂.state.Whole reals :=
          whole_arrive (whole_execute hreals hn h hexecute) harrive
        dsimp only at hgo
        split_ifs at hgo
        · exact Except.ok.inj hgo ▸ hthere
        · exact ih (hg next (Table.mem_values_of_get? hnext)) hthere hgo

end Reply

namespace Interpreter

variable {i : Interpreter} {graph : FlowGraph} {r : Reply}
  (hreals : Value.Holdable reals) (hg : graph.Whole reals)
include hreals hg

theorem whole_enterAndRun {node : FlowNode} (hn : node.Whole reals) {b : Reply}
    (hbefore : b.state.Whole reals) (h : i.enterAndRun graph node b = .ok r) :
    r.state.Whole reals := by
  obtain ⟨⟨stop, there⟩, harrive, hgo⟩ := exceptBind_eq_ok.mp h
  have hthere : there.state.Whole reals := Reply.whole_arrive hbefore harrive
  dsimp only at hgo
  split_ifs at hgo
  · exact Except.ok.inj hgo ▸ hthere
  · exact Reply.whole_run hreals hg hn hthere hgo

/-- **A message leads from a whole state to a whole one.** -/
theorem whole_settle {s : State} {text : Option String} {now : Moment} (hnow : now.Proper)
    (hs : s.Whole reals) (h : i.settle graph text now s = .ok r) : r.state.Whole reals := by
  cases hopen : s.completed with
  | true =>
    rw [i.settle_completed graph hopen] at h
    exact Except.ok.inj h ▸ hs
  | false =>
    rw [i.settle_open graph hopen] at h
    obtain ⟨node, hnode, hgo⟩ := exceptBind_eq_ok.mp h
    have hn := hg node (mem_of_nodeAt hnode)
    obtain ⟨r', hwent, rfl⟩ := exceptMap_eq_ok.mp hgo
    have hwent : r'.state.Whole reals := by
      unfold goOn at hwent
      split_ifs at hwent
      · exact whole_enterAndRun hreals hg hn (b := Reply.idle s) hs hwent
      · exact Reply.whole_run hreals hg hn (r := Reply.idle s) hs hwent
    exact ⟨⟨hwent.timely.started, hnow⟩, hwent.named, hwent.flow, hwent.tenant, hwent.user,
      hwent.session, hwent.place, hwent.context, hwent.history⟩

theorem whole_step {state : Option State} {text : Option String} {session : Option SessionKey}
    {now : Moment} (hnow : now.Proper) (hstate : ∀ s, state = some s → s.Whole reals)
    (hsession : ∀ key, session = some key → key.Whole reals)
    (h : i.step graph state text session now = .ok r) : r.state.Whole reals := by
  cases state with
  | some s =>
    obtain ⟨-, h⟩ := (i.step_eq_ok graph).mp h
    exact whole_settle hreals hg hnow (hstate s rfl) h
  | none =>
    cases session with
    | none => exact nomatch h
    | some key =>
      exact whole_settle hreals hg hnow (State.whole_initial graph (hsession key rfl) hnow) h

/-- And so does a jump. -/
theorem whole_advance {s : State} {target : Value} {now : Moment} (hnow : now.Proper)
    (hs : s.Whole reals) (h : i.advance graph s target now = .ok r) : r.state.Whole reals := by
  obtain ⟨node, hnode, hcopies⟩ := exceptBind_eq_ok.mp h
  obtain ⟨copied, hcopied, hgoes⟩ := exceptBind_eq_ok.mp hcopies
  obtain ⟨r', hgo, hend⟩ := exceptBind_eq_ok.mp hgoes
  have hcopy : copied.Whole reals := (State.copy_eq_ok.mp hcopied).2 ▸ hs
  have hwent : r'.state.Whole reals := whole_enterAndRun hreals hg (hg node (mem_of_nodeAt hnode))
    (r := r') (hcopy.with_completed false) hgo
  rw [← Except.ok.inj hend]
  exact ⟨⟨hwent.timely.started, hnow⟩, hwent.named, hwent.flow, hwent.tenant, hwent.user,
    hwent.session, hwent.place, hwent.context, hwent.history⟩

end Interpreter

end Conversation

end Parley
