import Mathlib.Data.List.Chain
import Mathlib.Data.List.TakeWhile
import Mathlib.Order.Bounds.Basic
import Parley.Proofs.Complexity.Depth

/-!
# Parley.Proofs.Complexity.Heights — heights of nodes as lengths of paths

The height of a node is computed from those of its children when the node is noted.
`forwardChildren_eq`: at that time all children that it goes forward to have been noted, so that none
is missed (`heightAt_eq`).  A height is therefore the greatest weight of a path forward
(`isGreatest_heightAt`), where the weight of a path is its height function applied node by node.

`EntryPath` and `QuestionPath` are the paths that a template's longest chain and longest row of
questions are about.  `signals_of_readGraph`: the signals are the greatest lengths of such paths that
do not go along links back, and of all such paths if the entry leads to no circle.
-/

namespace Parley.Complexity

open Template (FlowGraph)
open Relation (ReflTransGen TransGen)

/-! ### The highest of some numbers -/

section Highest

theorem foldl_max_spec (values : List Nat) (least : Nat) :
    least ≤ values.foldl max least ∧ (∀ v ∈ values, v ≤ values.foldl max least) ∧
      (values.foldl max least = least ∨ values.foldl max least ∈ values) := by
  induction values generalizing least with
  | nil => exact ⟨Nat.le_refl _, fun _ h => absurd h List.not_mem_nil, .inl rfl⟩
  | cons v more ih =>
    obtain ⟨hleast, hall, hmem⟩ := ih (max least v)
    rw [List.foldl_cons]
    refine ⟨(Nat.le_max_left _ _).trans hleast, fun w hw => ?_, ?_⟩
    · rcases List.mem_cons.mp hw with rfl | hw
      · exact (Nat.le_max_right _ _).trans hleast
      · exact hall w hw
    · rcases hmem with hmem | hmem
      · rw [hmem]
        rcases Nat.le_total least v with h | h
        · exact .inr (by rw [Nat.max_eq_right h]; exact List.mem_cons_self)
        · exact .inl (Nat.max_eq_left h)
      · exact .inr (List.mem_cons_of_mem _ hmem)

theorem le_highest {values : List Nat} {v : Nat} (h : v ∈ values) : v ≤ highest values :=
  (foldl_max_spec values 0).2.1 v h

theorem highest_mem (values : List Nat) : highest values = 0 ∨ highest values ∈ values :=
  (foldl_max_spec values 0).2.2

end Highest

/-! ### Heights -/

/-- The height of a node. -/
def heightAt (graph : FlowGraph) (found : Explored) (height : String → Nat → Nat) (id : String) :
    Nat := ((heights graph found height).get? id).getD 0

/-- The children that a node goes forward to. -/
def ahead (graph : FlowGraph) (found : Explored) (id : String) : List String :=
  (children graph id).filter fun child => !found.backLinks.contains (id, child)

section Heights

variable {graph : FlowGraph} {found : Explored} {height : String → Nat → Nat} {id child : String}

theorem mem_ahead : child ∈ ahead graph found id ↔ Forward graph found id child := by
  rw [ahead, List.mem_filter, mem_children, Bool.not_eq_true', List.contains_eq_mem,
    decide_eq_false_iff_not, Forward]

/-- Nodes that are new to a table are noted at its end, each once. -/
theorem foldl_noteHeight (graph : FlowGraph) (found : Explored) (height : String → Nat → Nat)
    (table : Fields Nat) {order : List String} (hnodup : (table.names ++ order).Nodup) :
    ∃ more, order.foldl (noteHeight graph found height) table = table ++ more ∧
      more.names = order := by
  induction order generalizing table with
  | nil => exact ⟨[], (List.append_nil table).symm, rfl⟩
  | cons id rest ih =>
    have hnew : id ∉ table.names := fun hmem =>
      (List.nodup_append.mp hnodup).2.2 id hmem id List.mem_cons_self rfl
    have hput (v : Nat) : table.put id v = table ++ [(id, v)] :=
      Table.put_of_not_has v (Table.has_eq_false_iff.mpr hnew)
    have hnext (v : Nat) : (Table.names (table ++ [(id, v)]) ++ rest).Nodup := by
      simpa [Table.names] using hnodup
    rw [List.foldl_cons, noteHeight, hput]
    obtain ⟨more, hmore, hnames⟩ := ih _ (hnext _)
    refine ⟨_ :: more, by rw [hmore, List.append_assoc]; rfl, ?_⟩
    rw [Table.names, List.map_cons, ← Table.names, hnames]

/-- The table when a node is noted, and the rest of it. -/
theorem heights_split (height : String → Nat → Nat) (h : Surveyed graph found)
    {before after : List String} (hsplit : found.postorder = before ++ id :: after) :
    let known := before.foldl (noteHeight graph found height) []
    known.names = before ∧ ∃ more, heights graph found height =
      known ++ (id, height id (highest
        ((forwardChildren graph found known id).filterMap known.get?))) :: more := by
  have hnodup := h.once
  rw [hsplit] at hnodup
  obtain ⟨known, hknown, hnames⟩ :=
    foldl_noteHeight graph found height [] (List.nodup_append.mp hnodup).1
  rw [List.nil_append] at hknown
  subst hknown
  refine ⟨hnames, ?_⟩
  have hnew : id ∉ Table.names (before.foldl (noteHeight graph found height) []) := by
    rw [hnames]
    exact fun hmem => (List.nodup_append.mp hnodup).2.2 id hmem id List.mem_cons_self rfl
  have hafter : (Table.names (noteHeight graph found height
      (before.foldl (noteHeight graph found height) []) id) ++ after).Nodup := by
    rw [noteHeight, Table.put_of_not_has _ (Table.has_eq_false_iff.mpr hnew), Table.names,
      List.map_append, ← Table.names, hnames, List.append_assoc]
    exact hnodup
  obtain ⟨more, hmore, -⟩ := foldl_noteHeight graph found height _ hafter
  refine ⟨more, ?_⟩
  rw [heights, hsplit, List.foldl_append, List.foldl_cons, hmore, noteHeight,
    Table.put_of_not_has _ (Table.has_eq_false_iff.mpr hnew), List.append_assoc]
  rfl

/-- **No child is missed.**  When a node is noted, the heights of all nodes that it goes forward to
are known. -/
theorem forwardChildren_eq (height : String → Nat → Nat) (h : Surveyed graph found)
    {before after : List String} (hsplit : found.postorder = before ++ id :: after) :
    forwardChildren graph found (before.foldl (noteHeight graph found height) []) id =
      ahead graph found id := by
  have hid : Reachable graph id := (h.reached id).mp (by rw [hsplit]; simp)
  refine List.filter_congr fun child hchild => ?_
  by_cases hback : (id, child) ∈ found.backLinks
  · simp [hback]
  · have hbefore := h.before_of_forward hid ⟨mem_children.mp hchild, hback⟩
    have hmem : child ∈ before := by
      rw [hsplit] at hbefore
      exact hbefore.mem_of_split (hsplit ▸ h.once)
    have hknown : Table.has (before.foldl (noteHeight graph found height) []) child = true :=
      Table.has_iff.mpr (by rw [(heights_split height h hsplit).1]; exact hmem)
    simp [hback, hknown]

/-- The height of a node is found from those of all nodes that it goes forward to. -/
theorem heightAt_eq (height : String → Nat → Nat) (h : Surveyed graph found)
    (hid : Reachable graph id) :
    heightAt graph found height id =
      height id (highest ((ahead graph found id).map (heightAt graph found height))) := by
  obtain ⟨before, after, hsplit⟩ := List.append_of_mem ((h.reached id).mpr hid)
  obtain ⟨hnames, more, hheights⟩ := heights_split height h hsplit
  have hchildren := forwardChildren_eq height h hsplit
  set known := before.foldl (noteHeight graph found height) [] with hknown
  have hbelow : (ahead graph found id).filterMap known.get? =
      (ahead graph found id).map (heightAt graph found height) := by
    rw [← List.filterMap_eq_map]
    refine List.filterMap_congr fun child hchild => ?_
    have hforward := h.before_of_forward hid (mem_ahead.mp hchild)
    rw [hsplit] at hforward
    have hmem : child ∈ before := hforward.mem_of_split (hsplit ▸ h.once)
    obtain ⟨v, hv⟩ := Option.isSome_iff_exists.mp (Table.has_iff.mpr (hnames.symm ▸ hmem))
    show known.get? child = some (heightAt graph found height child)
    rw [heightAt, hheights, Table.get?_append, hv]
    rfl
  have hnew : known.get? id = none := by
    have hnot : known.has id = false := Table.has_eq_false_iff.mpr (by
      rw [hnames]
      have hnodup := h.once
      rw [hsplit] at hnodup
      exact fun hmem => (List.nodup_append.mp hnodup).2.2 id hmem id List.mem_cons_self rfl)
    exact Option.isSome_eq_false_iff.mp hnot |> Option.isNone_iff_eq_none.mp
  rw [heightAt, hheights, Table.get?_append, hnew, Option.none_or, Table.get?, if_pos rfl,
    Option.getD_some, hchildren, hbelow]

/-- The heights noted are those of the nodes that can be reached. -/
theorem mem_values_heights (h : Surveyed graph found) {v : Nat} :
    v ∈ (heights graph found height).values ↔
      ∃ id, Reachable graph id ∧ heightAt graph found height id = v := by
  obtain ⟨table, htable, hnames⟩ := foldl_noteHeight graph found height [] h.once
  rw [List.nil_append] at htable
  have hnames : (heights graph found height).names = found.postorder := by
    rw [heights, htable, hnames]
  constructor
  · intro hv
    obtain ⟨⟨id, w⟩, hmem, rfl⟩ := List.mem_map.mp hv
    have hid : id ∈ found.postorder := hnames ▸ List.mem_map_of_mem (f := Prod.fst) hmem
    refine ⟨id, (h.reached id).mp hid, ?_⟩
    rw [heightAt, Table.get?_of_mem (hnames ▸ h.once) hmem]
    rfl
  · rintro ⟨id, hid, rfl⟩
    have hknown : (heights graph found height).has id = true :=
      Table.has_iff.mpr (hnames ▸ (h.reached id).mpr hid)
    obtain ⟨v, hv⟩ := Option.isSome_iff_exists.mp hknown
    rw [heightAt, hv]
    exact Table.mem_values_of_get? hv

end Heights

/-! ### Heights and paths -/

/-- The weight of a path, from its end on. -/
def weight (height : String → Nat → Nat) (ids : List String) : Nat := ids.foldr height 0

section Weight

variable {graph : FlowGraph} {found : Explored} {height : String → Nat → Nat} {id child : String}

/-- What holds of a node if it holds of all nodes that it goes forward to, holds of all nodes. -/
theorem Surveyed.induct (h : Surveyed graph found) {motive : ∀ id, Reachable graph id → Prop}
    (step : ∀ id hid, (∀ child (hlink : Forward graph found id child),
      motive child (hid.tail hlink.1)) → motive id hid)
    (id : String) (hid : Reachable graph id) : motive id hid := by
  induction hn : found.postorder.idxOf id using Nat.strong_induction_on generalizing id with
  | _ n ih =>
    refine step id hid fun child hlink => ih _ ?_ child (hid.tail hlink.1) rfl
    rw [← hn]
    exact h.idxOf_lt hid (.single hlink)

/-- **The height of a node is the greatest weight of a path forward from it.** -/
theorem isGreatest_heightAt (h : Surveyed graph found) (hmono : ∀ id, Monotone (height id))
    (hid : Reachable graph id) :
    IsGreatest {n | ∃ more, (id :: more).IsChain (Forward graph found) ∧
      weight height (id :: more) = n} (heightAt graph found height id) := by
  induction id, hid using h.induct with
  | step id hid ih =>
    have heq := heightAt_eq height h hid
    set below := (ahead graph found id).map (heightAt graph found height) with hbelow
    constructor
    · rw [heq]
      rcases highest_mem below with hzero | hmem
      · exact ⟨[], List.isChain_singleton id, by rw [hzero]; rfl⟩
      · obtain ⟨child, hchild, hheight⟩ := List.mem_map.mp hmem
        obtain ⟨more, hchain, hweight⟩ := (ih child (mem_ahead.mp hchild)).1
        refine ⟨child :: more, List.isChain_cons_cons.mpr ⟨mem_ahead.mp hchild, hchain⟩, ?_⟩
        rw [← hheight, ← hweight]
        rfl
    · rintro n ⟨more, hchain, rfl⟩
      rw [heq]
      refine hmono id ?_
      cases more with
      | nil => exact Nat.zero_le _
      | cons child more =>
        obtain ⟨hlink, hchain⟩ := List.isChain_cons_cons.mp hchain
        have hle := (ih child hlink).2 ⟨more, hchain, rfl⟩
        exact hle.trans (le_highest (List.mem_map_of_mem (mem_ahead.mpr hlink)))

/-- Where nothing is lower than what is below it, the entry is highest. -/
theorem heightAt_le_entry (h : Surveyed graph found) (hle : ∀ id below, below ≤ height id below)
    (hid : Reachable graph id) :
    heightAt graph found height id ≤ heightAt graph found height graph.entry := by
  induction h.spanned id hid with
  | refl => exact Nat.le_refl _
  | @tail id child hpath hlink ih =>
    have hid : Reachable graph id := links_of_forward hpath
    refine Nat.le_trans ?_ (ih hid)
    rw [heightAt_eq height h hid]
    exact (le_highest (List.mem_map_of_mem (mem_ahead.mpr hlink))).trans (hle id _)

end Weight

/-! ### The longest chain and the longest row of questions -/

/-- A path from the entry along links of a kind. -/
def EntryPath (graph : FlowGraph) (step : String → String → Prop) (ids : List String) : Prop :=
  ids.head? = some graph.entry ∧ ids.IsChain step

/-- Rows of questions go on at the node: it is no condition and no end. -/
def inRow (graph : FlowGraph) (id : String) : Bool :=
  (graph.node? id).any fun node => node.kind ≠ .condition && node.kind ≠ .terminal

/-- A path along links of a kind, through nodes that can be reached and at which rows of questions
go on. -/
def QuestionPath (graph : FlowGraph) (step : String → String → Prop) (ids : List String) : Prop :=
  ids.IsChain step ∧ ∀ id ∈ ids, Reachable graph id ∧ inRow graph id = true

/-- The number of questions on a path. -/
def questions (graph : FlowGraph) (ids : List String) : Nat :=
  ids.countP fun id => (graph.node? id).any fun node => node.kind = .input

section Signals

variable {graph : FlowGraph} {found : Explored} {id : String} {ids : List String}

theorem weight_chainHeight (ids : List String) : weight chainHeight ids = ids.length := by
  induction ids with
  | nil => rfl
  | cons id more ih =>
    rw [weight, List.foldr_cons, ← weight, ih, chainHeight, List.length_cons, Nat.add_comm]

theorem runHeight_mono (graph : FlowGraph) (id : String) : Monotone (runHeight graph id) := by
  intro a b hab
  unfold runHeight
  split
  · exact Nat.le_refl 0
  · split
    · exact Nat.le_refl 0
    · exact Nat.le_refl 0
    · exact Nat.add_le_add_left hab 1
    · exact hab
    · exact hab

/-- The row that a path begins with: a row ends where the path comes to a condition or an end. -/
theorem weight_runHeight (graph : FlowGraph) (ids : List String) :
    weight (runHeight graph) ids = questions graph (ids.takeWhile (inRow graph)) := by
  induction ids with
  | nil => rfl
  | cons id more ih =>
    rw [weight, List.foldr_cons, ← weight, ih]
    unfold questions inRow runHeight
    cases hnode : graph.node? id with
    | none => simp [hnode]
    | some node => cases hkind : node.kind <;> simp [hnode, hkind, Nat.add_comm]

theorem weight_of_questionPath (h : ∀ id ∈ ids, inRow graph id = true) :
    weight (runHeight graph) ids = questions graph ids := by
  rw [weight_runHeight, List.takeWhile_eq_self_iff.mpr h]

/-- All nodes of a path can be reached if the first one can. -/
theorem reachable_of_isChain (hid : Reachable graph id)
    (hchain : (id :: ids).IsChain (Links graph)) : ∀ x ∈ id :: ids, Reachable graph x := by
  induction ids generalizing id with
  | nil => exact fun x hx => List.mem_singleton.mp hx ▸ hid
  | cons child more ih =>
    obtain ⟨hlink, hchain⟩ := List.isChain_cons_cons.mp hchain
    intro x hx
    rcases List.mem_cons.mp hx with rfl | hx
    · exact hid
    · exact ih (hid.tail hlink) hchain x hx

/-- The longest chain is a longest path forward from the entry. -/
theorem isGreatest_chains (h : Surveyed graph found) :
    IsGreatest {n | ∃ ids, EntryPath graph (Forward graph found) ids ∧ ids.length = n}
      (highest (chains graph found).values) := by
  have hentry : Reachable graph graph.entry := .refl
  have hmono (id : String) : Monotone (chainHeight id) := fun _ _ hab => Nat.add_le_add_left hab 1
  have hgreatest := isGreatest_heightAt h hmono hentry
  have hmem : heightAt graph found chainHeight graph.entry ∈ (chains graph found).values :=
    (mem_values_heights h).mpr ⟨graph.entry, hentry, rfl⟩
  have hhighest : highest (chains graph found).values =
      heightAt graph found chainHeight graph.entry := by
    refine le_antisymm ?_ (le_highest hmem)
    rcases highest_mem (chains graph found).values with hzero | hvalue
    · rw [hzero]
      exact Nat.zero_le _
    · obtain ⟨id, hid, hheight⟩ := (mem_values_heights h).mp hvalue
      rw [← hheight]
      exact heightAt_le_entry h (fun _ below => Nat.le_add_left below 1) hid
  rw [hhighest]
  constructor
  · obtain ⟨more, hchain, hweight⟩ := hgreatest.1
    exact ⟨graph.entry :: more, ⟨rfl, hchain⟩, by rw [← hweight, weight_chainHeight]⟩
  · rintro n ⟨ids, ⟨hhead, hchain⟩, rfl⟩
    obtain ⟨more, rfl⟩ : ∃ more, ids = graph.entry :: more :=
      List.head?_eq_some_iff.mp hhead
    exact hgreatest.2 ⟨more, hchain, weight_chainHeight _⟩

/-- The longest row of questions is one on a path forward. -/
theorem isGreatest_questionRuns (h : Surveyed graph found) :
    IsGreatest {n | ∃ ids, QuestionPath graph (Forward graph found) ids ∧ questions graph ids = n}
      (highest (questionRuns graph found).values) := by
  constructor
  · rcases highest_mem (questionRuns graph found).values with hzero | hvalue
    · exact ⟨[], ⟨List.isChain_nil, fun _ h => absurd h List.not_mem_nil⟩, hzero.symm⟩
    · obtain ⟨id, hid, hheight⟩ := (mem_values_heights h).mp hvalue
      obtain ⟨more, hchain, hweight⟩ := (isGreatest_heightAt h (runHeight_mono graph) hid).1
      refine ⟨(id :: more).takeWhile (inRow graph),
        ⟨?_, fun x hx => ⟨?_, List.mem_takeWhile_imp hx⟩⟩, ?_⟩
      · exact List.IsChain.prefix hchain (List.takeWhile_prefix _)
      · exact reachable_of_isChain hid (hchain.imp fun _ _ h => h.1) x
          ((List.takeWhile_prefix _).subset hx)
      · rw [← weight_runHeight, hweight, hheight]
  · rintro n ⟨ids, ⟨hchain, hall⟩, rfl⟩
    rw [← weight_of_questionPath fun x hx => (hall x hx).2]
    cases ids with
    | nil => exact Nat.zero_le _
    | cons id more =>
      have hid := (hall id List.mem_cons_self).1
      exact ((isGreatest_heightAt h (runHeight_mono graph) hid).2 ⟨more, hchain, rfl⟩).trans
        (le_highest ((mem_values_heights h).mpr ⟨id, hid, rfl⟩))

/-- Without circles all links go forward. -/
theorem forward_eq_links (h : Surveyed graph found)
    (hcircle : ∀ id, Reachable graph id → ¬ TransGen (Links graph) id id) :
    Forward graph found = Links graph := by
  have hnil : found.backLinks = [] := by
    by_contra hne
    obtain ⟨id, hid, hpath⟩ := h.exists_circle_iff.mp hne
    exact hcircle id hid hpath
  funext id child
  simp [Forward, hnil]

/-- **The signals are greatest lengths of paths.**  In a graph read from an accepted template, the
height of a node is computed from all its children but for links back.  The longest chain has as many
nodes as a longest path from the entry without links back, and the longest row of questions has as
many questions as one can meet on a path without links back, conditions and ends.  If the entry leads
to no circle, both are greatest among all paths. -/
theorem signals_of_readGraph {document templateId version : Value}
    (hread : Template.readGraph document templateId version = .ok graph) :
    (∀ height before id after, (exploreAll graph).postorder = before ++ id :: after →
      forwardChildren graph (exploreAll graph)
          (before.foldl (noteHeight graph (exploreAll graph) height) []) id =
        (children graph id).filter fun child =>
          !(exploreAll graph).backLinks.contains (id, child)) ∧
    IsGreatest {n | ∃ ids, EntryPath graph (Forward graph (exploreAll graph)) ids ∧
      ids.length = n} (measure graph).maxChainLength ∧
    IsGreatest {n | ∃ ids, QuestionPath graph (Forward graph (exploreAll graph)) ids ∧
      questions graph ids = n} (measure graph).maxSequentialInputs ∧
    ((∀ id, Reachable graph id → ¬ TransGen (Links graph) id id) →
      IsGreatest {n | ∃ ids, EntryPath graph (Links graph) ids ∧ ids.length = n}
        (measure graph).maxChainLength ∧
      IsGreatest {n | ∃ ids, QuestionPath graph (Links graph) ids ∧ questions graph ids = n}
        (measure graph).maxSequentialInputs) := by
  have h := (run_of_readGraph hread).2
  refine ⟨fun height before id after hsplit => forwardChildren_eq height h hsplit, isGreatest_chains h,
    isGreatest_questionRuns h, fun hcircle => ?_⟩
  rw [← forward_eq_links h hcircle]
  exact ⟨isGreatest_chains h, isGreatest_questionRuns h⟩

end Signals

/-- Questions for name and email, then, past a gate, for a phone number.  The gate may lead back to
the name. -/
def enquiry (repeats : Bool) : Value :=
  let way (word target : String) : Value := .object [
    ("condition", .object [("type", .text "contains"), ("value", .text word)]),
    ("nextNodeId", .text target)]
  .object [("id", .text "enquiry"), ("entryNodeId", .text "hub"), ("nodes", .list [
    .object [("id", .text "hub"), ("type", .text "condition"), ("next", .list [way "yes" "name"]),
      ("defaultNext", .text "exit")],
    .object [("id", .text "name"), ("type", .text "input"), ("next", .text "thanks")],
    .object [("id", .text "thanks"), ("type", .text "message"), ("next", .text "email")],
    .object [("id", .text "email"), ("type", .text "input"), ("next", .text "gate")],
    .object [("id", .text "gate"), ("type", .text "condition"),
      ("next", .list ((if repeats then [way "again" "name"] else []) ++ [way "call" "phone"])),
      ("defaultNext", .text "exit")],
    .object [("id", .text "phone"), ("type", .text "input"), ("next", .text "exit")],
    .object [("id", .text "exit"), ("type", .text "terminal")]])]

theorem readGraph_enquiry (repeats : Bool) : ∃ graph,
    Template.readGraph (enquiry repeats) .null .null = .ok graph ∧
      (measure graph).maxChainLength = 7 ∧ (measure graph).maxSequentialInputs = 2 ∧
      (exploreAll graph).backLinks = if repeats then [("gate", "name")] else [] := by
  have h : ((Template.readGraph (enquiry repeats) .null .null).toOption.any fun graph =>
      (measure graph).maxChainLength = 7 ∧ (measure graph).maxSequentialInputs = 2 ∧
        (exploreAll graph).backLinks = if repeats then [("gate", "name")] else []) = true := by
    cases repeats <;> decide +kernel
  obtain ⟨graph, hread, h⟩ := exists_of_any h
  exact ⟨graph, hread, of_decide_eq_true h⟩

/-- With and without the link back, seven nodes make the longest chain, and the gate breaks the row of
questions after the second one. -/
theorem signals_of_readGraph_enquiry :
    (∃ graph, Template.readGraph (enquiry true) .null .null = .ok graph ∧
      IsGreatest {n | ∃ ids, EntryPath graph (Forward graph (exploreAll graph)) ids ∧
        ids.length = n} 7 ∧
      IsGreatest {n | ∃ ids, QuestionPath graph (Forward graph (exploreAll graph)) ids ∧
        questions graph ids = n} 2) ∧
    ∃ graph, Template.readGraph (enquiry false) .null .null = .ok graph ∧
      (∀ id, Reachable graph id → ¬ TransGen (Links graph) id id) ∧
      IsGreatest {n | ∃ ids, EntryPath graph (Links graph) ids ∧ ids.length = n} 7 ∧
      IsGreatest {n | ∃ ids, QuestionPath graph (Links graph) ids ∧ questions graph ids = n} 2 := by
  constructor
  · obtain ⟨graph, hread, hchain, hrow, -⟩ := readGraph_enquiry true
    obtain ⟨-, hgreatest, hquestions, -⟩ := signals_of_readGraph hread
    exact ⟨graph, hread, hchain ▸ hgreatest, hrow ▸ hquestions⟩
  · obtain ⟨graph, hread, hchain, hrow, hback⟩ := readGraph_enquiry false
    have hcircle (id : String) (hid : Reachable graph id) : ¬ TransGen (Links graph) id id :=
      fun hpath => ((run_of_readGraph hread).2.exists_circle_iff.mpr ⟨id, hid, hpath⟩) hback
    obtain ⟨-, -, -, hall⟩ := signals_of_readGraph hread
    obtain ⟨hgreatest, hquestions⟩ := hall hcircle
    exact ⟨graph, hread, hcircle, hchain ▸ hgreatest, hrow ▸ hquestions⟩

end Parley.Complexity
