import Mathlib.Tactic.Common
import Parley.Proofs.Template.Accepted

/-!
# Parley.Proofs.Template.Refusals — a template is accepted, refused, or of a wrong type

A template with mistakes is refused, and the refusal names all of them.  That is so as long as the
fields that are gone through item by item, or that name something, have a type for which this can be
done: `typed` says so of a document, and nothing more.  `Minor typed fault`: the fault is a mistake
that the refusal will name, or else the data was not `typed`.

`wellFormed_or_refused`: each document gives a well-formed graph or a refusal with the mistakes in
it, or is not typed.  `not_refused_of_number`: one that is not typed is neither accepted nor refused.
-/

namespace Parley

/-- The reader refused a template, and says why. -/
def Fault.IsRefusal (f : Fault) : Prop :=
  ∃ summary templateId problems, f = .malformedGraph summary templateId problems ∧ problems ≠ []

namespace Template

/-- A closed graph whose nodes have the links that their kinds ask for. -/
structure FlowGraph.WellFormed (graph : FlowGraph) : Prop extends graph.Closed where
  ended : ∀ {id node}, graph.node? id = some node → node.kind = .terminal → node.successors = []
  tested : ∀ {id node}, graph.node? id = some node → node.branches ≠ [] → node.kind = .condition
  answered : ∀ {id node}, graph.node? id = some node → node.kind = .condition →
    node.branches ≠ [] ∨ node.fallback.isSome = true

/-! ### Types of data -/

section Typed

open Value (field)

/-- Blanks, or data of a type. -/
def blankOr (type : Value → Bool) (v : Value) : Bool := !v.truthy || type v

/-- Data that has items. -/
def isSequence : Value → Bool
  | .text _ | .list _ | .object _ => true
  | _ => false

/-- An entry of a table, or one whose length is a mistake. -/
def isEntryLike (v : Value) : Bool :=
  match v.items with
  | .ok [name, _] => name.hashable
  | .ok _ => true
  | .error _ => false

def isTableLike : Value → Bool
  | .text _ | .object _ => true
  | .list entries => entries.all isEntryLike
  | _ => false

/-- An entry of a table: a name and a value. -/
def isEntry (v : Value) : Bool :=
  match v.items with
  | .ok [name, _] => name.hashable
  | _ => false

def isTable : Value → Bool
  | .object _ => true
  | .list entries => entries.all isEntry
  | _ => false

def contentTyped : Value → Bool
  | .object content => blankOr isSequence (field content "buttons")
  | _ => true

/-- What a condition leads to may be a name. -/
def entryTyped : Value → Bool
  | .object entry =>
    blankOr Value.hashable ((field entry "nextNodeId").orElse (field entry "next_node_id"))
  | _ => true

def nextTyped : Value → Bool
  | .list entries => entries.all entryTyped
  | _ => true

/-- An action with a known operation has a name. -/
def actionTyped : Value → Bool
  | .object action =>
    ((field action "op").text?.bind Change.ofName?).isNone || Table.has action "name"
  | _ => true

def actionsTyped : Value → Bool
  | .list actions => actions.all actionTyped
  | v => blankOr isSequence v

def nodeTyped : Value → Bool
  | .object raw =>
    blankOr isTableLike (field raw "metadata") && contentTyped (field raw "content") &&
      blankOr isSequence (field raw "buttons") && nextTyped (field raw "next") &&
      blankOr Value.hashable (ownFallback raw) && actionsTyped (field raw "actions")
  | _ => true

def nodesTyped : Value → Bool
  | .list raws => raws.all nodeTyped
  | _ => true

/-- The fields of a document that are gone through, or that name something, are of a type for it. -/
def typed (data : Fields Value) : Bool :=
  nodesTyped (field data "nodes") && blankOr Value.hashable (entryName data) &&
    blankOr isTable (field data "metadata")

/-- What it means for a node to be typed. -/
structure NodeTyped (raw : Fields Value) : Prop where
  metadata : blankOr isTableLike (field raw "metadata") = true
  content : contentTyped (field raw "content") = true
  buttons : blankOr isSequence (field raw "buttons") = true
  next : nextTyped (field raw "next") = true
  fallback : blankOr Value.hashable (ownFallback raw) = true
  actions : actionsTyped (field raw "actions") = true

theorem nodeTyped_object {raw : Fields Value} (h : nodeTyped (.object raw) = true) :
    NodeTyped raw := by
  simp only [nodeTyped, Bool.and_eq_true] at h
  obtain ⟨⟨⟨⟨⟨hmetadata, hcontent⟩, hbuttons⟩, hnext⟩, hfallback⟩, hactions⟩ := h
  exact ⟨hmetadata, hcontent, hbuttons, hnext, hfallback, hactions⟩

end Typed

/-! ### What may go wrong in a node -/

section Minor

/-- A mistake that a refusal names; or a fault of another kind, but not in typed data. -/
def Minor (typed : Bool) (f : Fault) : Prop :=
  f.family = .content ∨ typed = false ∧ (f.family = .shape ∨ f.family = .missing)

variable {v : Value} {f : Fault} {typed typed' : Bool}

theorem Minor.mono (h : Minor typed f) (ht : typed' = true → typed = true) : Minor typed' f := by
  rcases h with h | ⟨hnot, h⟩
  · exact .inl h
  · refine .inr ⟨?_, h⟩
    cases typed' with
    | false => rfl
    | true => exact absurd (ht rfl) (by simp [hnot])

theorem Minor.blankOr {type : Value → Bool} (hv : v.truthy = true) (h : Minor (type v) f) :
    Minor (blankOr type v) f := h.mono (by simp [Template.blankOr, hv])

theorem family_of_mistake {α : Type} {wording : String}
    (h : (mistake wording : Except Fault α) = .error f) : f.family = .content := by
  rw [← Except.error.inj h]
  rfl

theorem items_error (h : v.items = .error f) : Minor (isSequence v) f := by
  cases v with
  | text s => exact nomatch h
  | list xs => exact nomatch h
  | object fields => exact nomatch h
  | _ => exact .inr ⟨rfl, .inl (by rw [← Except.error.inj h]; rfl)⟩

theorem fieldName_error (h : v.fieldName = .error f) : Minor v.hashable f := by
  cases v with
  | list xs => exact .inr ⟨rfl, .inl (by rw [← Except.error.inj h]; rfl)⟩
  | object fields => exact .inr ⟨rfl, .inl (by rw [← Except.error.inj h]; rfl)⟩
  | _ => exact nomatch h

theorem entry_error {position : Nat} (h : Value.entry position v = .error f) :
    Minor (isEntryLike v) f := by
  unfold Value.entry at h
  split at h
  · rename_i hitems
    exact .inr ⟨by simp [isEntryLike, hitems], .inl (by rw [← Except.error.inj h]; rfl)⟩
  · rename_i name value hitems
    have hname : name.fieldName = .error f := by
      cases hfield : name.fieldName with
      | ok s => rw [hfield] at h; exact nomatch h
      | error g => rw [hfield] at h; exact congrArg Except.error (Except.error.inj h)
    exact (fieldName_error hname).mono (by simp [isEntryLike, hitems])
  · exact .inl (by rw [← Except.error.inj h]; rfl)

theorem table_error (h : v.table = .error f) : Minor (isTableLike v) f := by
  -- the first entry that cannot be read ends it
  have hentries {items : List Value}
      (h : items.foldlM (fun (state : Nat × Fields Value) item => do
        let found ← Value.entry state.1 item
        .ok (state.1 + 1, state.2.put found.1 found.2)) (0, []) = .error f) :
      ∃ item ∈ items, Minor (isEntryLike item) f := by
    obtain ⟨item, hitem, state, hstep⟩ := exists_of_foldlM_eq_error h
    rcases exceptBind_eq_error.mp hstep with hentry | ⟨_, -, hput⟩
    · exact ⟨item, hitem, entry_error hentry⟩
    · cases hput
  cases v with
  | object fields => cases h
  | list xs =>
    rcases exceptBind_eq_error.mp h with hitems | ⟨items, hitems, h⟩
    · cases hitems
    · obtain rfl : xs = items := Except.ok.inj hitems
      rcases exceptBind_eq_error.mp h with hfold | ⟨_, -, hdone⟩
      · obtain ⟨item, hitem, hminor⟩ := hentries hfold
        refine hminor.mono fun hall => ?_
        exact List.all_eq_true.mp (by simpa [isTableLike] using hall) item hitem
      · cases hdone
  | text s =>
    rcases exceptBind_eq_error.mp h with hitems | ⟨items, hitems, h⟩
    · cases hitems
    · have hitems := Except.ok.inj hitems
      rcases exceptBind_eq_error.mp h with hfold | ⟨_, -, hdone⟩
      · obtain ⟨item, hitem, hminor⟩ := hentries hfold
        rw [← hitems] at hitem
        obtain ⟨c, -, rfl⟩ := List.mem_map.mp hitem
        refine hminor.mono fun _ => ?_
        simp [isEntryLike, Value.items]
      · cases hdone
  | _ =>
    rcases exceptBind_eq_error.mp h with hitems | ⟨items, hitems, h⟩
    · exact items_error hitems
    · cases hitems

theorem optionalItems_error (h : optionalItems v = .error f) : Minor (blankOr isSequence v) f := by
  unfold optionalItems at h
  split_ifs at h with hv
  exact (items_error h).blankOr hv

theorem optionalTable_error (h : optionalTable v = .error f) :
    Minor (blankOr isTableLike v) f := by
  unfold optionalTable at h
  split_ifs at h with hv
  exact (table_error h).blankOr hv

theorem readKind_error (h : readKind v = .error f) : f.family = .content := by
  unfold readKind at h
  dsimp only at h
  split at h
  · exact nomatch h
  · exact family_of_mistake h

theorem readContent_error (h : readContent v = .error f) : Minor (contentTyped v) f := by
  cases v with
  | null => exact nomatch h
  | text s => exact nomatch h
  | object fields =>
    rcases exceptBind_eq_error.mp h with hbuttons | ⟨_, -, hdone⟩
    · exact optionalItems_error hbuttons
    · exact nomatch hdone
  | _ => exact .inl (family_of_mistake h)

theorem readConditionEntry_error (h : readConditionEntry v = .error f) : f.family = .content := by
  unfold readConditionEntry at h
  split at h
  · dsimp only at h
    split at h
    · exact family_of_mistake h
    · split at h
      · unfold readCondition at h
        dsimp only at h
        split_ifs at h
        split at h
        · exact family_of_mistake h
        · exact nomatch h
      · exact family_of_mistake h
  · exact family_of_mistake h

theorem add_error {links : Links} {entry : ConditionEntry} (h : links.add entry = .error f) :
    f.family = .content := by
  unfold Links.add at h
  split at h
  · exact nomatch h
  · split_ifs at h
    exact family_of_mistake h

theorem readLinks_error {fallback : Value} (h : readLinks v fallback = .error f) :
    f.family = .content := by
  unfold readLinks at h
  split at h
  · exact nomatch h
  · exact nomatch h
  · obtain ⟨entry, -, links, hstep⟩ := exists_of_foldlM_eq_error h
    rcases exceptBind_eq_error.mp hstep with hentry | ⟨_, -, hadd⟩
    · exact readConditionEntry_error hentry
    · exact add_error hadd
  · exact family_of_mistake h

theorem readAction_error (h : readAction v = .error f) : Minor (actionTyped v) f := by
  unfold readAction at h
  dsimp only at h
  split at h
  · rename_i action
    split at h
    · exact .inl (family_of_mistake h)
    · rename_i change hchange
      rcases exceptBind_eq_error.mp h with hname | ⟨_, -, hdone⟩
      · unfold Value.require at hname
        split at hname
        · cases hname
        · rename_i hnone
          refine .inr ⟨?_, .inr (by rw [← Except.error.inj hname]; rfl)⟩
          simp [actionTyped, hchange, Table.has, hnone]
      · cases hdone
  · exact .inl (family_of_mistake h)

theorem readActions_error (h : (do
    let actions ← optionalItems v
    actions.mapM readAction : Except Fault (List Mutation)) = .error f) :
    Minor (actionsTyped v) f := by
  rcases exceptBind_eq_error.mp h with hitems | ⟨actions, hitems, h⟩
  · refine (optionalItems_error hitems).mono fun ht => ?_
    cases v with
    | list actions => simp [blankOr, isSequence]
    | _ => exact ht
  · obtain ⟨action, haction, hfail⟩ := exists_of_mapM_eq_error h
    refine (readAction_error hfail).mono fun ht => ?_
    unfold optionalItems at hitems
    split_ifs at hitems with hv
    · cases v with
      | list xs =>
        obtain rfl : xs = actions := Except.ok.inj hitems
        exact List.all_eq_true.mp (by simpa [actionsTyped] using ht) action haction
      | text s =>
        rw [← Except.ok.inj hitems] at haction
        obtain ⟨c, -, rfl⟩ := List.mem_map.mp haction
        rfl
      | object fields =>
        rw [← Except.ok.inj hitems] at haction
        obtain ⟨entry, -, rfl⟩ := List.mem_map.mp haction
        rfl
      | _ => exact nomatch hitems
    · rw [← Except.ok.inj hitems] at haction
      exact absurd haction (by simp)

theorem readAssignments_error {change : Change} (h : readAssignments change v = .error f) :
    f.family = .content := by
  cases v with
  | null => exact nomatch h
  | object fields => exact nomatch h
  | _ => exact family_of_mistake h

theorem readRemovals_error (h : readRemovals v = .error f) : f.family = .content := by
  cases v with
  | null => exact nomatch h
  | list names => exact nomatch h
  | _ => exact family_of_mistake h

theorem readValidation_error (h : readValidation v = .error f) : f.family = .content := by
  cases v with
  | null => exact nomatch h
  | object fields => exact nomatch h
  | _ => exact family_of_mistake h

theorem readMutations_error {raw : Fields Value} (h : readMutations raw = .error f) :
    Minor (actionsTyped (Value.field raw "actions")) f := by
  rcases exceptBind_eq_error.mp h with hset | ⟨_, -, h⟩
  · exact .inl (readAssignments_error hset)
  rcases exceptBind_eq_error.mp h with hunset | ⟨_, -, h⟩
  · exact .inl (readRemovals_error hunset)
  rcases exceptBind_eq_error.mp h with hincrement | ⟨_, -, h⟩
  · exact .inl (readAssignments_error hincrement)
  refine readActions_error (exceptBind_eq_error.mpr ?_)
  rcases exceptBind_eq_error.mp h with hitems | ⟨actions, hitems, h⟩
  · exact .inl hitems
  · rcases exceptBind_eq_error.mp h with hactions | ⟨_, -, hdone⟩
    · exact .inr ⟨actions, hitems, hactions⟩
    · exact nomatch hdone

/-- **What may go wrong in a node** is a mistake, unless the node is not typed. -/
theorem readNode_error {id : String} {raw : Fields Value} (h : readNode id raw = .error f) :
    Minor (nodeTyped (.object raw)) f := by
  rcases exceptBind_eq_error.mp h with hkind | ⟨kind, -, h⟩
  · exact .inl (readKind_error hkind)
  rcases exceptBind_eq_error.mp h with hmetadata | ⟨metadata, -, h⟩
  · exact (optionalTable_error hmetadata).mono fun ht => (nodeTyped_object ht).metadata
  rcases exceptBind_eq_error.mp h with hcontent | ⟨⟨content, media, listed⟩, -, h⟩
  · exact (readContent_error hcontent).mono fun ht => (nodeTyped_object ht).content
  have hrest {rest : Links → Option (Fields Value) → List Mutation → DraftNode} (h : (do
        let links ← readLinks (Value.field raw "next") (ownFallback raw)
        let validation ← readValidation
          ((Value.field raw "validation").orElse (Value.field metadata "validation"))
        let mutations ← readMutations raw
        .ok (rest links validation mutations) : Except Fault DraftNode) = .error f) :
      Minor (nodeTyped (.object raw)) f := by
    rcases exceptBind_eq_error.mp h with hlinks | ⟨links, -, h⟩
    · exact .inl (readLinks_error hlinks)
    rcases exceptBind_eq_error.mp h with hvalidation | ⟨validation, -, h⟩
    · exact .inl (readValidation_error hvalidation)
    rcases exceptBind_eq_error.mp h with hmutations | ⟨mutations, -, hdone⟩
    · exact (readMutations_error hmutations).mono fun ht => (nodeTyped_object ht).actions
    · exact nomatch hdone
  dsimp only at h
  split_ifs at h with hown
  · rcases exceptBind_eq_error.mp h with hbuttons | ⟨buttons, -, h⟩
    · exact ((items_error hbuttons).blankOr hown).mono fun ht => (nodeTyped_object ht).buttons
    · exact hrest h
  · rcases exceptBind_eq_error.mp h with hbuttons | ⟨buttons, -, h⟩
    · exact nomatch hbuttons
    · exact hrest h

end Minor

/-! ### What links lead to -/

section Links

/-- What a condition leads to. -/
def ConditionEntry.target : ConditionEntry → Value
  | branch b => b.target
  | default target => target

theorem hashable_of_readConditionEntry {v : Value} {entry : ConditionEntry}
    (h : readConditionEntry v = .ok entry) (ht : entryTyped v = true) :
    entry.target.hashable = true := by
  obtain ⟨fields, rfl, hpresent, hentry⟩ := readConditionEntry_eq_ok h
  have hhash : blankOr Value.hashable (entryTarget fields) = true := ht
  have htarget : entry.target = entryTarget fields := by
    rcases hentry with rfl | ⟨predicate, -, rfl⟩ <;> rfl
  rw [htarget]
  simpa [blankOr, hpresent] using hhash

/-- All that a node may lead to can be looked up. -/
structure Links.Hashable (links : Links) : Prop where
  next : ∀ target, links.next = some target → target.hashable = true
  branches : ∀ b ∈ links.branches, b.target.hashable = true
  fallback : blankOr Value.hashable links.fallback = true

theorem Links.Hashable.add {links links' : Links} {entry : ConditionEntry} (h : links.Hashable)
    (he : entry.target.hashable = true) (ha : links.add entry = .ok links') : links'.Hashable := by
  cases entry with
  | branch b =>
    rw [← Except.ok.inj ha]
    refine ⟨h.next, fun b' hb' => ?_, h.fallback⟩
    rcases List.mem_append.mp hb' with hb' | hb'
    · exact h.branches b' hb'
    · rw [List.mem_singleton.mp hb']
      exact he
  | default target =>
    unfold Links.add at ha
    dsimp only at ha
    split_ifs at ha
    · exact nomatch ha
    · rw [← Except.ok.inj ha]
      have htarget : target.hashable = true := he
      exact ⟨h.next, h.branches, by simp [blankOr, htarget]⟩

theorem hashable_of_readLinks {next fallback : Value} {links : Links}
    (h : readLinks next fallback = .ok links) (hn : nextTyped next = true)
    (hf : blankOr Value.hashable fallback = true) : links.Hashable := by
  have hnone : (⟨none, [], fallback⟩ : Links).Hashable :=
    ⟨fun _ h => (nomatch h), fun _ h => (nomatch h), hf⟩
  cases next with
  | null =>
    rw [← Except.ok.inj h]
    exact hnone
  | text s =>
    rw [← Except.ok.inj h]
    refine ⟨fun target htarget => ?_, fun _ h => (nomatch h), hf⟩
    dsimp only at htarget
    split_ifs at htarget
    rw [← Option.some.inj htarget]
    rfl
  | list entries =>
    refine foldlM_keeps Links.Hashable hnone (fun raw hraw links links' hlinks hstep => ?_) h
    obtain ⟨entry, hentry, hadd⟩ := exceptBind_eq_ok.mp hstep
    have htyped : entryTyped raw = true := List.all_eq_true.mp hn raw hraw
    exact hlinks.add (hashable_of_readConditionEntry hentry htyped) hadd
  | _ => exact nomatch h

/-- The links of a typed node can be looked up. -/
theorem hashable_of_readNode {id : String} {raw : Fields Value} {node : DraftNode}
    (h : readNode id raw = .ok node) (ht : nodeTyped (.object raw) = true) {target : Value}
    (htarget : target ∈ node.successors) : target.hashable = true := by
  obtain ⟨p, hp, rfl⟩ := readNode_eq_ok.mp h
  have htyped := nodeTyped_object ht
  have hlinks : p.links.Hashable := hashable_of_readLinks hp.links htyped.next htyped.fallback
  have hsettled : (p.links.settle p.kind).Hashable := by
    unfold Links.settle
    split_ifs with hmove
    · simp only [Bool.and_eq_true] at hmove
      refine ⟨fun target htarget => ?_, fun _ h => (nomatch h), rfl⟩
      rw [← Option.some.inj htarget]
      simpa [blankOr, hmove.1.1.2] using hlinks.fallback
    · exact hlinks
  simp only [NodeOf.successors, NodeParts.node, List.mem_append, Option.mem_toList,
    List.mem_map] at htarget
  rcases htarget with (hnext | ⟨b, hb, rfl⟩) | hfallback
  · exact hsettled.next target hnext
  · exact hsettled.branches b hb
  · split_ifs at hfallback with hpresent
    rw [← Option.some.inj hfallback]
    simpa [blankOr, hpresent] using hsettled.fallback

end Links

/-! ### Drafts and graphs -/

section Draft

variable {draft : Draft} {f : Fault}

theorem Draft.resolves_error {target : Value} (h : draft.resolves target = .error f) :
    target.hashable = false ∧ f.family = .shape := by
  unfold Draft.resolves at h
  split at h
  · exact nomatch h
  · split_ifs at h with hhash
    exact ⟨by simpa using hhash, by rw [← Except.error.inj h]; rfl⟩

theorem Draft.addNodes_error {raws : List Value} {position : Nat}
    (h : draft.addNodes position raws = .error f) :
    ∃ raw ∈ raws, nodeTyped raw = false ∧ (f.family = .shape ∨ f.family = .missing) := by
  induction raws generalizing draft position with
  | nil => exact nomatch h
  | cons raw more ih =>
    rcases exceptBind_eq_error.mp h with hadd | ⟨next, -, h⟩
    · have hadded := draft.added position raw
      rw [hadd] at hadded
      cases hadded with
      | failed hobject hnode hfamily =>
        rw [hobject]
        exact ⟨_, List.mem_cons_self, (readNode_error hnode).resolve_left hfamily⟩
    · obtain ⟨raw', hraw', hfail⟩ := ih h
      exact ⟨raw', List.mem_cons_of_mem _ hraw', hfail⟩

theorem Draft.checkEntry_error {entry : Value} (h : draft.checkEntry entry = .error f) :
    blankOr Value.hashable entry = false ∧ f.family = .shape := by
  unfold Draft.checkEntry at h
  split_ifs at h with hpresent
  rcases exceptBind_eq_error.mp h with hresolve | ⟨known, -, hdone⟩
  · obtain ⟨hhash, hfamily⟩ := Draft.resolves_error hresolve
    exact ⟨by simpa [blankOr, hhash] using hpresent, hfamily⟩
  · cases known <;> exact nomatch hdone

theorem Draft.nodes_checkEntry {draft' : Draft} {entry : Value}
    (h : draft.checkEntry entry = .ok draft') : draft'.nodes = draft.nodes := by
  unfold Draft.checkEntry at h
  split_ifs at h with hpresent
  · rw [← Except.ok.inj h]
    rfl
  · obtain ⟨known, -, h⟩ := exceptBind_eq_ok.mp h
    cases known with
    | true => rw [← Except.ok.inj h]
    | false => rw [← Except.ok.inj h]; rfl

theorem Draft.checkNodes_error (h : draft.checkNodes = .error f) :
    ∃ node ∈ draft.nodes.values, ∃ target ∈ node.successors,
      target.hashable = false ∧ f.family = .shape := by
  rcases exceptBind_eq_error.mp h with hcheck | ⟨_, -, hdone⟩
  · obtain ⟨node, hnode, hcheck⟩ := exists_of_mapM_eq_error hcheck
    rcases exceptBind_eq_error.mp hcheck with hlinks | ⟨_, -, hdone⟩
    · obtain ⟨target, htarget, hlink⟩ := exists_of_mapM_eq_error hlinks
      rcases exceptBind_eq_error.mp hlink with hresolve | ⟨known, -, hdone⟩
      · exact ⟨node, hnode, target, htarget, Draft.resolves_error hresolve⟩
      · cases known <;> exact nomatch hdone
    · exact nomatch hdone
  · exact nomatch hdone

theorem entry_error_of_not_entry {position : Nat} {v : Value}
    (h : Value.entry position v = .error f) : isEntry v = false := by
  unfold Value.entry at h
  unfold isEntry
  split at h
  · rename_i hitems
    rw [hitems]
  · rename_i name value hitems
    rw [hitems]
    cases name with
    | list xs => rfl
    | object fields => rfl
    | _ => exact nomatch h
  · rename_i hlength hitems
    split
    · rename_i name value hpair
      exact absurd (Except.ok.inj (hitems.symm.trans hpair)) (hlength name value)
    · rfl

/-- What cannot be read as a table is none. -/
theorem optionalTable_error_of_not_table {v : Value} (h : optionalTable v = .error f) :
    blankOr isTable v = false := by
  unfold optionalTable at h
  split_ifs at h with hv
  suffices htable : isTable v = false by simp [blankOr, hv, htable]
  cases v with
  | object fields => exact nomatch h
  | list entries =>
    rcases exceptBind_eq_error.mp h with hitems | ⟨items, hitems, h⟩
    · exact nomatch hitems
    · obtain rfl : entries = items := Except.ok.inj hitems
      rcases exceptBind_eq_error.mp h with hfold | ⟨_, -, hdone⟩
      · obtain ⟨item, hitem, state, hstep⟩ := exists_of_foldlM_eq_error hfold
        rcases exceptBind_eq_error.mp hstep with hfail | ⟨_, -, hput⟩
        · exact List.all_eq_false.mpr ⟨item, hitem, by simp [entry_error_of_not_entry hfail]⟩
        · exact nomatch hput
      · exact nomatch hdone
  | _ => rfl

end Draft

/-- What may go wrong apart from a refusal, and only in a document that is not typed. -/
def Stray (data : Fields Value) (f : Fault) : Prop :=
  typed data = false ∧ (f.family = .shape ∨ f.family = .missing ∨ f.family = .content)

/-- A document whose reading fails is refused, or is not typed. -/
theorem refused_of_error {data : Fields Value} {templateId version : Value} {f : Fault}
    (h : readGraph (.object data) templateId version = .error f) : f.IsRefusal ∨ Stray data f := by
  rcases exceptBind_eq_error.mp h with hfields | ⟨fields, hfields, h⟩
  · exact nomatch hfields
  obtain rfl : data = fields := Except.ok.inj hfields
  dsimp only at h
  split at h
  case h_2 => exact .inl ⟨_, _, _, (Except.error.inj h).symm, by simp⟩
  rename_i first others hnodes
  rcases exceptBind_eq_error.mp h with hdraft | ⟨draft, hdraft, h⟩
  · obtain ⟨raw, hraw, hnode, hfamily⟩ := Draft.addNodes_error hdraft
    have hall : nodesTyped (Value.field data "nodes") = false := by
      rw [hnodes]
      exact List.all_eq_false.mpr ⟨raw, hraw, by simp [hnode]⟩
    exact .inr ⟨by simp [typed, hall], by tauto⟩
  rcases exceptBind_eq_error.mp h with hentered | ⟨entered, hentered, h⟩
  · obtain ⟨hentry, hfamily⟩ := Draft.checkEntry_error hentered
    have hentry : blankOr Value.hashable (entryName data) = false := hentry
    exact .inr ⟨by simp [typed, hentry], .inl hfamily⟩
  rcases exceptBind_eq_error.mp h with hchecked | ⟨checked, hchecked, h⟩
  · obtain ⟨node, hnode, target, htarget, hhash, hfamily⟩ := Draft.checkNodes_error hchecked
    rw [Draft.nodes_checkEntry hentered] at hnode
    obtain ⟨⟨id, node⟩, hmem, rfl⟩ := List.mem_map.mp hnode
    have hdrawn : draft.Drawn (first :: others) :=
      Draft.Drawn.addNodes (Draft.drawn_nil []) (fun _ h => h) hdraft
    obtain ⟨-, raw, hraw, hread⟩ := hdrawn.read id node hmem
    have hall : nodesTyped (Value.field data "nodes") = false := by
      rw [hnodes]
      refine List.all_eq_false.mpr ⟨.object raw, hraw, fun ht => ?_⟩
      exact absurd (hashable_of_readNode hread ht htarget) (by simp [hhash])
    exact .inr ⟨by simp [typed, hall], .inl hfamily⟩
  split_ifs at h with hproblems
  · refine .inl ⟨_, _, _, (Except.error.inj h).symm, fun hnone => ?_⟩
    simp [hnone] at hproblems
  · rcases exceptBind_eq_error.mp h with hmetadata | ⟨_, -, hdone⟩
    · have htable := optionalTable_error_of_not_table hmetadata
      have hfamily : f.family = .content ∨ _ := optionalTable_error hmetadata
      exact .inr ⟨by simp [typed, htable], by tauto⟩
    · exact nomatch hdone

theorem family_of_documentFields {document : Value} {f : Fault}
    (h : documentFields document = .error f) : f.family ≠ .service := by
  cases document with
  | object data => exact nomatch h
  | _ =>
    rw [← Except.error.inj h]
    exact fun hfamily => nomatch hfamily

/-- Data of any shape is read, or refused, or gives a fault of no service. -/
theorem refusal_or_family_of_error {document templateId version : Value} {f : Fault}
    (h : readGraph document templateId version = .error f) :
    f.IsRefusal ∨ f.family ≠ .service := by
  cases document with
  | object data =>
    rcases refused_of_error h with hrefusal | ⟨-, hfamily⟩
    · exact .inl hrefusal
    · right
      rcases hfamily with hfamily | hfamily | hfamily <;>
        exact fun hservice => nomatch hfamily.symm.trans hservice
  | _ =>
    rcases exceptBind_eq_error.mp h with hfields | ⟨_, hfields, -⟩
    · exact .inr (family_of_documentFields hfields)
    · exact nomatch hfields

/-! ### Well-formed graphs -/

theorem Accepted.wellFormed {data : Fields Value} {templateId version : Value} {graph : FlowGraph}
    (a : Accepted data templateId version graph) : graph.WellFormed := by
  have hnode {id : String} {node : FlowNode} (h : graph.node? id = some node) :
      ∃ drafted : DraftNode, shapeProblems drafted = [] ∧ node = drafted.mapTargets linkName := by
    obtain ⟨drafted, -, hfit, heq⟩ := a.drafted_of_node? h
    exact ⟨drafted, hfit.shaped, heq⟩
  have hclosed : graph.Closed := closed_of_readGraph (readGraph_eq_ok.mpr ⟨a⟩)
  refine ⟨hclosed, fun hn hkind => ?_, fun hn hbranches => ?_, fun hn hkind => ?_⟩
  · obtain ⟨drafted, hshape, rfl⟩ := hnode hn
    obtain ⟨hended, -, -⟩ := shapeProblems_eq_nil.mp hshape
    rw [NodeOf.successors_mapTargets, hended hkind]
    rfl
  · obtain ⟨drafted, hshape, rfl⟩ := hnode hn
    obtain ⟨-, htested, -⟩ := shapeProblems_eq_nil.mp hshape
    exact htested fun hnone => hbranches (by simp [NodeOf.mapTargets, hnone])
  · obtain ⟨drafted, hshape, rfl⟩ := hnode hn
    obtain ⟨-, -, hanswered⟩ := shapeProblems_eq_nil.mp hshape
    simpa [NodeOf.mapTargets] using hanswered hkind

/-- **A document gives a well-formed graph, or a refusal that names what is wrong**, unless a field is
of a type that the reader cannot work with. -/
theorem wellFormed_or_refused (data : Fields Value) (templateId version : Value) :
    (∃ graph, readGraph (.object data) templateId version = .ok graph ∧ graph.WellFormed) ∨
      ∃ fault, readGraph (.object data) templateId version = .error fault ∧
        (fault.IsRefusal ∨ Stray data fault) := by
  cases h : readGraph (.object data) templateId version with
  | ok graph =>
    obtain ⟨a⟩ := readGraph_eq_ok.mp h
    exact .inl ⟨graph, rfl, a.wellFormed⟩
  | error fault => exact .inr ⟨fault, rfl, refused_of_error h⟩

/-- A message with the number `5` in the place of its buttons. -/
def fiveButtons : Fields Value :=
  [("entryNodeId", .text "a"),
    ("nodes", .list [.object [("id", .text "a"), ("type", .text "message"), ("buttons", .int 5)]])]

/-- **Not every document is accepted or refused**: where a list is expected, a number stops the
reader. -/
theorem not_refused_of_number :
    readGraph (.object fiveButtons) .null .null = .error (.notIterable .int) ∧
      ¬ (Fault.notIterable .int).IsRefusal := by
  have h : (match readGraph (.object fiveButtons) .null .null with
      | .ok _ => false
      | .error fault => decide (fault = .notIterable .int)) = true := by decide +kernel
  refine ⟨?_, ?_⟩
  · cases hread : readGraph (.object fiveButtons) .null .null with
    | ok graph => simp [hread] at h
    | error fault =>
      rw [hread] at h
      rw [of_decide_eq_true h]
  · rintro ⟨summary, templateId, problems, hrefusal, -⟩
    exact nomatch hrefusal

end Template

end Parley
