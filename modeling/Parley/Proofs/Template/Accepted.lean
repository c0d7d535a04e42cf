import Mathlib.Tactic.SplitIfs
import Parley.Template.Reader

/-!
# Parley.Proofs.Template.Accepted — which templates are accepted, and what graphs they give

`NodeParts` are the parts of a node before they are put together, and `readNode_eq_ok` says from
which data they are read.  `Draft.Drawn raws draft`: the nodes of the draft have different names, and
each was read from an entry of the list `raws`.  `readGraph_eq_ok`: a template is accepted if its
draft is sound, and its graph is then the one of the draft.

`FlowGraph.Closed graph`: the nodes of the graph stand under their own names, its entry is a node,
and every link of a node leads to a node.  `closed_of_readGraph`: a template that is not refused
gives such a graph.
-/

namespace Parley.Template

/-- Nodes stand under their own names, and all links lead to nodes. -/
structure FlowGraph.Closed (graph : FlowGraph) : Prop where
  named : ∀ {id node}, graph.node? id = some node → node.id = id
  entered : (graph.node? graph.entry).isSome = true
  linked : ∀ {id node target}, graph.node? id = some node → target ∈ node.successors →
    (graph.node? target).isSome = true

/-! ### Links -/

section Links

/-- What an entry of a list of conditions leads to. -/
def entryTarget (fields : Fields Value) : Value :=
  (Value.field fields "nextNodeId").orElse (Value.field fields "next_node_id")

theorem readCondition_eq_ok {condition : Fields Value} {target : Value} {entry : ConditionEntry}
    (h : readCondition condition target = .ok entry) : entry = .default target ∨
      ∃ predicate, predicate.matchType ∈ MatchType.known ∧ entry = .branch ⟨predicate, target⟩ := by
  unfold readCondition at h
  dsimp only at h
  split_ifs at h
  · exact .inl (Except.ok.inj h).symm
  · split at h
    · exact nomatch h
    · rename_i matchType hname
      unfold MatchType.ofName? at hname
      exact .inr ⟨_, List.mem_of_find?_eq_some hname, (Except.ok.inj h).symm⟩

/-- An entry of a list of conditions is a default link, or a branch that tests something known. -/
theorem readConditionEntry_eq_ok {v : Value} {entry : ConditionEntry}
    (h : readConditionEntry v = .ok entry) : ∃ fields, v = .object fields ∧
      (entryTarget fields).truthy = true ∧ (entry = .default (entryTarget fields) ∨
        ∃ predicate, predicate.matchType ∈ MatchType.known ∧
          entry = .branch ⟨predicate, entryTarget fields⟩) := by
  unfold readConditionEntry at h
  split at h
  · rename_i fields
    dsimp only at h
    split at h
    · exact nomatch h
    · rename_i hpresent
      have hpresent : (entryTarget fields).truthy = true := by
        unfold entryTarget
        simpa using hpresent
      split at h
      · exact ⟨fields, rfl, hpresent, readCondition_eq_ok h⟩
      · exact nomatch h
  · exact nomatch h

end Links

/-! ### Nodes -/

section Node

/-- The parts of a node, as far as they take some reading. -/
structure NodeParts where
  kind : NodeKind
  metadata : Fields Value
  content : String
  media : Value
  /-- The buttons of the content. -/
  listed : List Value
  buttons : List Value
  links : Links
  validation : Option (Fields Value)
  mutations : List Mutation

/-- The default link that a node gives beside its field `next`. -/
def ownFallback (raw : Fields Value) : Value :=
  (Value.field raw "defaultNext").orElse (Value.field raw "default_next")

/-- Where the parts of a node are read from. -/
structure NodeParts.ReadFrom (raw : Fields Value) (p : NodeParts) : Prop where
  kind : readKind (Value.field raw "type") = .ok p.kind
  metadata : optionalTable (Value.field raw "metadata") = .ok p.metadata
  content : readContent (Value.field raw "content") = .ok (p.content, p.media, p.listed)
  buttons : (if (Value.field raw "buttons").truthy then (Value.field raw "buttons").items
    else .ok p.listed) = .ok p.buttons
  links : readLinks (Value.field raw "next") (ownFallback raw) = .ok p.links
  validation : readValidation ((Value.field raw "validation").orElse
    (Value.field p.metadata "validation")) = .ok p.validation
  mutations : readMutations raw = .ok p.mutations

/-- The node that is put together from its parts. -/
def NodeParts.node (id : String) (raw : Fields Value) (p : NodeParts) : DraftNode :=
  let links := p.links.settle p.kind
  { id := id
    kind := p.kind
    content := p.content
    metadata := p.metadata
    next := links.next
    branches := links.branches
    fallback := if links.fallback.truthy then some links.fallback else none
    noFallback := if links.fallback.truthy then .null else links.fallback
    variableName := readVariable id p.kind raw p.metadata
    inputType := (Value.field raw "inputType").orElse (Value.field p.metadata "inputType")
    validation := p.validation
    mutations := p.mutations
    media := (Value.field raw "media").orElse p.media
    buttons := p.buttons }

/-- A node is read if all its parts are. -/
theorem readNode_eq_ok {id : String} {raw : Fields Value} {node : DraftNode} :
    readNode id raw = .ok node ↔ ∃ p : NodeParts, p.ReadFrom raw ∧ node = p.node id raw := by
  constructor
  · intro h
    obtain ⟨kind, hkind, h⟩ := exceptBind_eq_ok.mp h
    obtain ⟨metadata, hmetadata, h⟩ := exceptBind_eq_ok.mp h
    obtain ⟨⟨content, media, listed⟩, hcontent, h⟩ := exceptBind_eq_ok.mp h
    have hbuttons : ∃ buttons, (if (Value.field raw "buttons").truthy
        then (Value.field raw "buttons").items else .ok listed) = .ok buttons ∧
        (do
          let links := (← readLinks (Value.field raw "next") (ownFallback raw)).settle kind
          let validation ← readValidation
            ((Value.field raw "validation").orElse (Value.field metadata "validation"))
          let mutations ← readMutations raw
          .ok { id := id, kind := kind, content := content, metadata := metadata,
                next := links.next, branches := links.branches,
                fallback := if links.fallback.truthy then some links.fallback else none,
                noFallback := if links.fallback.truthy then .null else links.fallback,
                variableName := readVariable id kind raw metadata,
                inputType := (Value.field raw "inputType").orElse
                  (Value.field metadata "inputType"),
                validation := validation, mutations := mutations,
                media := (Value.field raw "media").orElse media,
                buttons := buttons } : Except Fault DraftNode) = .ok node := by
      dsimp only at h
      split_ifs at h with hown
      · obtain ⟨buttons, hitems, h⟩ := exceptBind_eq_ok.mp h
        exact ⟨buttons, by rw [if_pos hown, hitems], h⟩
      · obtain ⟨buttons, hitems, h⟩ := exceptBind_eq_ok.mp h
        exact ⟨buttons, by rw [if_neg hown]; exact hitems, h⟩
    obtain ⟨buttons, hbuttons, h⟩ := hbuttons
    obtain ⟨links, hlinks, h⟩ := exceptBind_eq_ok.mp h
    obtain ⟨validation, hvalidation, h⟩ := exceptBind_eq_ok.mp h
    obtain ⟨mutations, hmutations, h⟩ := exceptBind_eq_ok.mp h
    exact ⟨⟨kind, metadata, content, media, listed, buttons, links, validation, mutations⟩,
      ⟨hkind, hmetadata, hcontent, hbuttons, hlinks, hvalidation, hmutations⟩,
      (Except.ok.inj h).symm⟩
  · rintro ⟨p, hp, rfl⟩
    unfold readNode
    rw [hp.kind, hp.metadata, hp.content]
    have hlinks := hp.links
    have hbuttons := hp.buttons
    unfold ownFallback at hlinks
    simp only [bind, Except.bind, pure, Except.pure]
    split_ifs at hbuttons ⊢ with hown
    · simp only [hbuttons, hlinks, hp.validation, hp.mutations]
      rfl
    · simp only [Except.ok.inj hbuttons, hlinks, hp.validation, hp.mutations]
      rfl

theorem readNode_id {id : String} {raw : Fields Value} {node : DraftNode}
    (h : readNode id raw = .ok node) : node.id = id := by
  obtain ⟨p, -, rfl⟩ := readNode_eq_ok.mp h
  rfl

end Node

/-! ### Drafts -/

section Draft

/-- The nodes of a draft have different names, and each was read from an entry of a list. -/
structure Draft.Drawn (raws : List Value) (draft : Draft) : Prop where
  distinct : draft.nodes.names.Nodup
  read : ∀ id node, (id, node) ∈ draft.nodes →
    id ≠ "" ∧ ∃ raw, Value.object raw ∈ raws ∧ readNode id raw = .ok node

variable {raws : List Value} {draft draft' : Draft}

theorem Draft.drawn_nil (problems : List String) : Draft.Drawn raws ⟨[], problems⟩ :=
  ⟨List.nodup_nil, fun _ _ h => nomatch h⟩

theorem Draft.Drawn.problem (h : draft.Drawn raws) (wording : String) :
    (draft.problem wording).Drawn raws := ⟨h.distinct, h.read⟩

theorem Draft.Drawn.id_eq (h : draft.Drawn raws) {id : String} {node : DraftNode}
    (hn : draft.nodes.get? id = some node) : node.id = id := by
  obtain ⟨-, raw, -, hread⟩ := h.read id node (Table.mem_of_get? hn)
  exact readNode_id hread

theorem Draft.Drawn.put (h : draft.Drawn raws) {raw : Fields Value} {node : DraftNode}
    {id : String} (hid : id ≠ "") (hnew : draft.nodes.has id = false)
    (hraw : Value.object raw ∈ raws) (hread : readNode id raw = .ok node) :
    ({ draft with nodes := draft.nodes.put id node } : Draft).Drawn raws := by
  have hnot : id ∉ draft.nodes.names := Table.has_eq_false_iff.mp hnew
  rw [Table.put_of_not_has _ hnew]
  refine ⟨?_, fun other node' hmem => ?_⟩
  · simp only [Table.names, List.map_append, List.map_cons, List.map_nil] at hnot ⊢
    refine List.nodup_append.mpr ⟨h.distinct, List.pairwise_singleton _ _, fun a ha b hb hab => ?_⟩
    rw [List.mem_singleton.mp hb] at hab
    exact hnot (hab ▸ ha)
  · rcases List.mem_append.mp hmem with hmem | hmem
    · exact h.read other node' hmem
    · obtain ⟨rfl, rfl⟩ := Prod.mk.inj (List.mem_singleton.mp hmem)
      exact ⟨hid, raw, hraw, hread⟩

/-- What happens to one entry of the list of nodes. -/
inductive Draft.Added (draft : Draft) (raw : Value) : Except Fault Draft → Prop
  | refused (wording : String) : Added draft raw (.ok (draft.problem wording))
  | read {id : String} {fields : Fields Value} {node : DraftNode} (object : raw = .object fields)
      (named : id ≠ "") (new : draft.nodes.has id = false) (done : readNode id fields = .ok node) :
      Added draft raw (.ok { draft with nodes := draft.nodes.put id node })
  | failed {id : String} {fields : Fields Value} {fault : Fault} (object : raw = .object fields)
      (undone : readNode id fields = .error fault) (family : fault.family ≠ .content) :
      Added draft raw (.error fault)

theorem Draft.added (draft : Draft) (position : Nat) (raw : Value) :
    draft.Added raw (draft.addNode position raw) := by
  unfold Draft.addNode
  dsimp only
  cases raw with
  | object fields =>
    dsimp only
    cases Value.field fields "id" with
    | text id =>
      dsimp only
      by_cases hempty : id.isEmpty = true
      · rw [if_pos hempty]
        exact .refused _
      rw [if_neg hempty]
      by_cases hdup : draft.nodes.has id = true
      · rw [if_pos hdup]
        exact .refused _
      rw [if_neg hdup]
      have hnamed : id ≠ "" := by
        rintro rfl
        exact hempty rfl
      cases hnode : readNode id fields with
      | ok node => exact .read rfl hnamed (by simpa using hdup) hnode
      | error fault =>
        dsimp only
        by_cases hcontent : fault.family = .content
        · rw [if_pos hcontent]
          exact .refused _
        · rw [if_neg hcontent]
          exact .failed rfl hnode hcontent
    | _ => exact .refused _
  | _ => exact .refused _

theorem Draft.Drawn.addNode {position : Nat} {raw : Value} (h : draft.Drawn raws)
    (hraw : raw ∈ raws) (hd : draft.addNode position raw = .ok draft') : draft'.Drawn raws := by
  have hadded := draft.added position raw
  rw [hd] at hadded
  cases hadded with
  | refused wording => exact h.problem wording
  | read hobject hnamed hnew hnode => exact h.put hnamed hnew (hobject ▸ hraw) hnode

theorem Draft.Drawn.addNodes {more : List Value} {position : Nat} (h : draft.Drawn raws)
    (hmore : ∀ raw ∈ more, raw ∈ raws) (hd : draft.addNodes position more = .ok draft') :
    draft'.Drawn raws := by
  induction more generalizing draft position with
  | nil => exact Except.ok.inj hd ▸ h
  | cons raw more ih =>
    obtain ⟨next, hnext, hrest⟩ := exceptBind_eq_ok.mp hd
    have hdrawn := h.addNode (hmore raw List.mem_cons_self) hnext
    exact ih hdrawn (fun raw' hraw' => hmore raw' (List.mem_cons_of_mem _ hraw')) hrest

/-- What resolves is the name of a node. -/
theorem Draft.resolves_eq_true {target : Value} (h : draft.resolves target = .ok true) :
    ∃ id, target = .text id ∧ draft.nodes.has id = true := by
  unfold Draft.resolves at h
  split at h
  · rename_i id; injection h with h; exact ⟨id, rfl, h⟩
  · split_ifs at h; simp at h

/-- All links of the node lead to nodes, and it has those that its kind must have. -/
structure Draft.Fit (draft : Draft) (node : DraftNode) : Prop where
  linked : ∀ target ∈ node.successors, draft.resolves target = .ok true
  shaped : shapeProblems node = []

/-- A draft in which nothing is missing and nothing is wrong. -/
structure Draft.Sound (draft : Draft) (entry : Value) : Prop where
  clean : draft.problems = []
  present : entry.truthy = true
  entered : draft.resolves entry = .ok true
  fit : ∀ node ∈ draft.nodes.values, draft.Fit node

theorem Draft.checkLink_eq_nil {id : String} {target : Value} :
    draft.checkLink id target = .ok [] ↔ draft.resolves target = .ok true := by
  unfold Draft.checkLink
  cases draft.resolves target with
  | error fault => exact ⟨fun h => (nomatch h), fun h => (nomatch h)⟩
  | ok known =>
    cases known with
    | true => exact ⟨fun _ => rfl, fun _ => rfl⟩
    | false => exact ⟨fun h => by simp [bind, Except.bind] at h, fun h => (nomatch h)⟩

theorem Draft.checkNode_eq_nil {node : DraftNode} :
    draft.checkNode node = .ok [] ↔ draft.Fit node := by
  constructor
  · intro h
    obtain ⟨found, hfound, h⟩ := exceptBind_eq_ok.mp h
    obtain ⟨hlinks, hshape⟩ := List.append_eq_nil_iff.mp (Except.ok.inj h)
    refine ⟨fun target htarget => ?_, hshape⟩
    obtain ⟨link, hlink, hcheck⟩ := mem_of_mapM_eq_ok hfound target htarget
    have hnone : link = [] := List.flatten_eq_nil_iff.mp hlinks link hlink
    rw [hnone] at hcheck
    exact checkLink_eq_nil.mp hcheck
  · intro h
    have hlinks : node.successors.mapM (draft.checkLink node.id) =
        .ok (node.successors.map fun _ => []) :=
      mapM_eq_ok_of_forall fun target htarget => checkLink_eq_nil.mpr (h.linked target htarget)
    unfold Draft.checkNode
    rw [hlinks]
    simp [bind, Except.bind, h.shaped]

/-- A check that finds nothing. -/
theorem Draft.checkNodes_eq_ok (h : draft'.problems = []) :
    draft.checkNodes = .ok draft' ↔
      draft' = draft ∧ ∀ node ∈ draft.nodes.values, draft.Fit node := by
  constructor
  · intro hd
    obtain ⟨problems, hproblems, hd⟩ := exceptBind_eq_ok.mp hd
    have hd := Except.ok.inj hd
    subst hd
    obtain ⟨hold, hnew⟩ := List.append_eq_nil_iff.mp h
    refine ⟨by simp [hnew], fun node hnode => ?_⟩
    obtain ⟨found, hfound, hcheck⟩ := mem_of_mapM_eq_ok hproblems node hnode
    have hempty : found = [] := List.flatten_eq_nil_iff.mp hnew found hfound
    rw [hempty] at hcheck
    exact checkNode_eq_nil.mp hcheck
  · rintro ⟨rfl, hfit⟩
    have hproblems : draft'.nodes.values.mapM draft'.checkNode =
        .ok (draft'.nodes.values.map fun _ => []) :=
      mapM_eq_ok_of_forall fun node hnode => checkNode_eq_nil.mpr (hfit node hnode)
    have hnone : (draft'.nodes.values.map fun _ => ([] : List String)).flatten = [] := by simp
    unfold Draft.checkNodes
    rw [hproblems]
    simp only [bind, Except.bind, hnone, List.append_nil]

theorem Draft.checkEntry_eq_ok {entry : Value} (h : draft'.problems = []) :
    draft.checkEntry entry = .ok draft' ↔
      draft' = draft ∧ entry.truthy = true ∧ draft.resolves entry = .ok true := by
  have hproblem (wording : String) : draft' ≠ draft.problem wording := by
    rintro rfl
    simp [Draft.problem] at h
  unfold Draft.checkEntry
  by_cases hentry : entry.truthy = true
  · rw [if_neg (by simp [hentry])]
    cases draft.resolves entry with
    | error fault => exact ⟨fun hd => (nomatch hd), fun hd => (nomatch hd.2.2)⟩
    | ok known =>
      cases known with
      | true =>
        exact ⟨fun hd => ⟨(Except.ok.inj hd).symm, hentry, rfl⟩, fun hd => by rw [hd.1]; rfl⟩
      | false =>
        exact ⟨fun hd => absurd (Except.ok.inj hd).symm (hproblem _), fun hd => (nomatch hd.2.2)⟩
  · rw [if_pos (by simp [hentry])]
    exact ⟨fun hd => absurd (Except.ok.inj hd).symm (hproblem _), fun hd => absurd hd.2.1 hentry⟩

/-- What a node's kind asks of its links. -/
theorem shapeProblems_eq_nil {node : DraftNode} : shapeProblems node = [] ↔
    (node.kind = .terminal → node.successors = []) ∧
      (node.branches ≠ [] → node.kind = .condition) ∧
      (node.kind = .condition → node.branches ≠ [] ∨ node.fallback.isSome = true) := by
  have hbranches (h : node.successors = []) : node.branches = [] := by
    simp only [NodeOf.successors, List.append_eq_nil_iff, List.map_eq_nil_iff] at h
    exact h.1.2
  unfold shapeProblems
  cases hkind : node.kind with
  | terminal =>
    by_cases h : node.successors = []
    · simp [h, hbranches h]
    · simp [h]
  | condition => cases node.fallback <;> by_cases h : node.branches = [] <;> simp [h]
  | _ => by_cases h : node.branches = [] <;> simp [h]

end Draft

/-! ### Graphs -/

/-- The name of the entry node. -/
def entryName (data : Fields Value) : Value :=
  (Value.field data "entryNodeId").orElse (Value.field data "entry_node_id")

/-- The graph of a draft, with the other fields of its document. -/
def Draft.graph (draft : Draft) (data : Fields Value) (templateId version : Value)
    (metadata : Fields Value) : FlowGraph where
  id := optionalText (templateId.orElse (Value.field data "id"))
  version := ((version.orElse (Value.field data "version")).orElse (.text "1")).display
  entry := linkName (entryName data)
  nodes := draft.nodes.map fun field => (field.1, field.2.mapTargets linkName)
  tenantId := (Value.field data "tenantId").orElse (Value.field data "tenant_id")
  name := Value.field data "name"
  metadata := metadata

/-- How a template is accepted. -/
structure Accepted (data : Fields Value) (templateId version : Value) (graph : FlowGraph) where
  raws : List Value
  draft : Draft
  metadata : Fields Value
  listed : Value.field data "nodes" = .list raws
  drafted : Draft.addNodes ⟨[], []⟩ 0 raws = .ok draft
  sound : draft.Sound (entryName data)
  tabled : optionalTable (Value.field data "metadata") = .ok metadata
  result : graph = draft.graph data templateId version metadata

/-- A template is accepted if its draft is sound. -/
theorem readGraph_eq_ok {data : Fields Value} {templateId version : Value} {graph : FlowGraph} :
    readGraph (.object data) templateId version = .ok graph ↔
      Nonempty (Accepted data templateId version graph) := by
  constructor
  · intro h
    obtain ⟨fields, hfields, h⟩ := exceptBind_eq_ok.mp h
    have hfields : data = fields := Except.ok.inj hfields
    subst hfields
    dsimp only at h
    split at h
    case h_2 => exact nomatch h
    rename_i first others hnodes
    obtain ⟨draft, hdraft, h⟩ := exceptBind_eq_ok.mp h
    obtain ⟨entered, hentered, h⟩ := exceptBind_eq_ok.mp h
    obtain ⟨checked, hchecked, h⟩ := exceptBind_eq_ok.mp h
    split_ifs at h with hproblems
    obtain ⟨metadata, hmetadata, h⟩ := exceptBind_eq_ok.mp h
    have hgraph := (Except.ok.inj h).symm
    have hnone : checked.problems = [] := by simpa using hproblems
    obtain ⟨hsame, hfit⟩ := (Draft.checkNodes_eq_ok hnone).mp hchecked
    rw [← hsame] at hfit hentered
    obtain ⟨hstart, hpresent, hentry⟩ := (Draft.checkEntry_eq_ok hnone).mp hentered
    rw [← hstart] at hentry hdraft
    exact ⟨⟨first :: others, checked, metadata, hnodes, hdraft, ⟨hnone, hpresent, hentry, hfit⟩,
      hmetadata, hgraph⟩⟩
  · rintro ⟨a⟩
    have hraws : a.raws ≠ [] := by
      intro hnil
      have hdraft := a.drafted
      rw [hnil] at hdraft
      obtain ⟨id, -, hhas⟩ := Draft.resolves_eq_true a.sound.entered
      rw [← Except.ok.inj hdraft] at hhas
      exact nomatch hhas
    obtain ⟨first, others, hcons⟩ := List.exists_cons_of_ne_nil hraws
    have hlisted := a.listed
    have hdrafted := a.drafted
    rw [hcons] at hlisted hdrafted
    have hentry : a.draft.checkEntry ((Value.field data "entryNodeId").orElse
        (Value.field data "entry_node_id")) = .ok a.draft :=
      (Draft.checkEntry_eq_ok a.sound.clean).mpr ⟨rfl, a.sound.present, a.sound.entered⟩
    have hnodes : a.draft.checkNodes = .ok a.draft :=
      (Draft.checkNodes_eq_ok a.sound.clean).mpr ⟨rfl, a.sound.fit⟩
    unfold readGraph
    simp only [documentFields, Value.members, bind, Except.bind, hlisted, hdrafted, hentry, hnodes,
      a.sound.clean, List.isEmpty_nil, Bool.not_true, Bool.false_eq_true, if_false, a.tabled]
    exact congrArg Except.ok a.result.symm

namespace Accepted

variable {data : Fields Value} {templateId version : Value} {graph : FlowGraph}

theorem drawn (a : Accepted data templateId version graph) : a.draft.Drawn a.raws :=
  Draft.Drawn.addNodes (Draft.drawn_nil []) (fun _ h => h) a.drafted

theorem node?_eq (a : Accepted data templateId version graph) (id : String) :
    graph.node? id = (a.draft.nodes.get? id).map (NodeOf.mapTargets linkName) :=
  (congrArg (FlowGraph.node? · id) a.result).trans (Table.get?_map _ _ _)

theorem isSome_node? (a : Accepted data templateId version graph) {id : String}
    (h : a.draft.nodes.has id = true) : (graph.node? id).isSome = true := by
  rw [a.node?_eq, Option.isSome_map]
  exact h

/-- The entry of the graph is the one that the template names. -/
theorem entry_eq (a : Accepted data templateId version graph) :
    entryName data = .text graph.entry ∧ a.draft.nodes.has graph.entry = true := by
  obtain ⟨id, hid, hknown⟩ := Draft.resolves_eq_true a.sound.entered
  have hentry : graph.entry = id := by
    have hresult : graph.entry = linkName (entryName data) := congrArg FlowGraph.entry a.result
    rw [hresult, hid]
    rfl
  rw [hentry]
  exact ⟨hid, hknown⟩

/-- A node of the graph is a node of the draft that fits it. -/
theorem drafted_of_node? (a : Accepted data templateId version graph) {id : String}
    {node : FlowNode} (h : graph.node? id = some node) :
    ∃ drafted, a.draft.nodes.get? id = some drafted ∧ a.draft.Fit drafted ∧
      node = drafted.mapTargets linkName := by
  rw [a.node?_eq] at h
  obtain ⟨drafted, hget, rfl⟩ := Option.map_eq_some_iff.mp h
  exact ⟨drafted, hget, a.sound.fit drafted (Table.mem_values_of_get? hget), rfl⟩

/-- The nodes of the graph have different names. -/
theorem distinct (a : Accepted data templateId version graph) : graph.nodes.names.Nodup := by
  have hnodes : graph.nodes = a.draft.nodes.map fun field => (field.1, field.2.mapTargets linkName) :=
    congrArg FlowGraph.nodes a.result
  have hnames : graph.nodes.names = a.draft.nodes.names := by
    rw [hnodes]
    simp [Table.names, Function.comp_def]
  rw [hnames]
  exact a.drawn.distinct

end Accepted

theorem object_of_readGraph {document templateId version : Value} {graph : FlowGraph}
    (h : readGraph document templateId version = .ok graph) : ∃ data, document = .object data := by
  obtain ⟨data, hdata, -⟩ := exceptBind_eq_ok.mp h
  cases document with
  | object fields => exact ⟨fields, rfl⟩
  | _ => exact nomatch hdata

theorem distinct_of_readGraph {document templateId version : Value} {graph : FlowGraph}
    (h : readGraph document templateId version = .ok graph) : graph.nodes.names.Nodup := by
  obtain ⟨data, rfl⟩ := object_of_readGraph h
  obtain ⟨a⟩ := readGraph_eq_ok.mp h
  exact a.distinct

/-- **A template that is not refused gives a closed graph.** -/
theorem closed_of_readGraph {document templateId version : Value} {graph : FlowGraph}
    (h : readGraph document templateId version = .ok graph) : graph.Closed := by
  obtain ⟨data, rfl⟩ := object_of_readGraph h
  obtain ⟨a⟩ := readGraph_eq_ok.mp h
  refine ⟨fun {id node} hn => ?_, a.isSome_node? a.entry_eq.2, fun {id node target} hn ht => ?_⟩
  · obtain ⟨drafted, hget, -, rfl⟩ := a.drafted_of_node? hn
    exact a.drawn.id_eq hget
  · obtain ⟨drafted, -, hfit, rfl⟩ := a.drafted_of_node? hn
    rw [NodeOf.successors_mapTargets] at ht
    obtain ⟨link, hlink, rfl⟩ := List.mem_map.mp ht
    obtain ⟨id, rfl, hknown⟩ := Draft.resolves_eq_true (hfit.linked link hlink)
    exact a.isSome_node? hknown

end Parley.Template
