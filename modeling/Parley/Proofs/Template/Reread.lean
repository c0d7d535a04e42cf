import Mathlib.Tactic.ByContra
import Parley.Proofs.Template.Accepted
import Parley.Template.Writer

/-!
# Parley.Proofs.Template.Reread — what is left of a graph that is written and read again

`FlowNode.reread` is what becomes of a node.  The written form has one place for links, so a node
with a link in `next` and a default link keeps only the default link; and what is blank is not
written at all.

`graph_reread`: the document of a graph that a template gave is accepted, and gives the same graph
with every node reread.  `FlowNode.Lasting node` tells which nodes are the same then.
-/

namespace Parley

namespace Decimal

theorem signed_ne_empty {negative : Bool} {shown : String} (h : shown ≠ "") :
    signed negative shown ≠ "" := by
  unfold signed
  split_ifs <;> simp [h]

theorem Layout.decimal_plain_ne_empty (d : Scientific) : plain.decimal d ≠ "" := by
  unfold Layout.decimal
  dsimp only
  split_ifs <;> simp [plain]

theorem Layout.render_plain_ne_empty (x : Float) : plain.render x ≠ "" := by
  unfold Layout.render
  split
  · simp [plain]
  · exact signed_ne_empty (by simp [plain])
  · refine signed_ne_empty ?_
    split_ifs
    · simp [plain]
    · exact decimal_plain_ne_empty _

end Decimal

namespace Value

theorem quoted_ne_empty (v : Value) : v.quoted ≠ "" := by
  cases v with
  | bool b => cases b <;> simp [quoted]
  | int i =>
    rw [quoted, Int.toString_eq_repr, Int.repr_eq_if]
    split_ifs <;> simp
  | real x => exact Decimal.Layout.render_plain_ne_empty x
  | text s => simp [quoted, Quoting.quote]
  | _ => simp [quoted]

/-- What is present shows. -/
theorem display_ne_empty {v : Value} (h : v.truthy = true) : v.display ≠ "" := by
  cases v with
  | text s =>
    rintro rfl
    exact nomatch h
  | _ => exact quoted_ne_empty _

theorem truthy_text {s : String} (h : s ≠ "") : (text s).truthy = true := by
  simp [truthy, h]

theorem truthy_orElse {a b : Value} (h : b.truthy = true) : (a.orElse b).truthy = true := by
  unfold orElse
  split_ifs with ha
  · exact ha
  · exact h

theorem orElse_of_truthy {a : Value} (h : a.truthy = true) (b : Value) : a.orElse b = a := by
  rw [orElse, if_pos h]

theorem orElse_of_not_truthy {a : Value} (h : a.truthy = false) (b : Value) : a.orElse b = b := by
  rw [orElse, if_neg (by simp [h])]

end Value

namespace Template

open Value (text bool truthy_text truthy_orElse orElse_of_truthy orElse_of_not_truthy)

/-! ### Nodes that templates give -/

namespace NodeOf

/-- What holds of every node that a template gives. -/
structure Composed (node : FlowNode) : Prop where
  named : node.id ≠ ""
  linked : ∀ target ∈ node.successors, target ≠ ""
  known : ∀ branch ∈ node.branches, branch.predicate.matchType ∈ MatchType.known
  direct : node.next.isSome = true → node.branches = []
  settled : node.kind ≠ .condition → node.fallback.isSome = true → node.next.isSome = true
  ended : node.kind = .terminal → node.successors = []
  tested : node.branches ≠ [] → node.kind = .condition
  answered : node.kind = .condition → node.branches ≠ [] ∨ node.fallback.isSome = true
  asked : node.kind = .input → node.variableName.truthy = true
  unasked : node.kind ≠ .input → node.variableName = .null
  typed : node.inputType.truthy = false → node.inputType = Value.field node.metadata "inputType"
  checked : node.validation.getD [] = [] →
    readValidation (Value.field node.metadata "validation") = .ok node.validation

/-- What becomes of the links: a default link hides the one in `next`, and only conditions have
one for a default. -/
def keptLinks (node : FlowNode) : Option String × Option String :=
  match node.fallback with
  | none => (node.next, none)
  | some target => if node.kind = .condition then (none, some target) else (some target, none)

/-- What becomes of a node that is written and read again. -/
def reread (node : FlowNode) : FlowNode :=
  { node with
    next := node.keptLinks.1
    fallback := node.keptLinks.2
    noFallback := .null
    media := if node.media.truthy then node.media else .null }

/-- The node stays the same: it has no default link beside another one, and nothing blank in the
place of its media or of a default link. -/
structure Lasting (node : FlowNode) : Prop where
  single : node.next = none ∨ node.fallback = none
  media : node.media.truthy = true ∨ node.media = .null
  unfilled : node.noFallback = .null

theorem Composed.reread_eq_self {node : FlowNode} (h : node.Composed) :
    node.reread = node ↔ node.Lasting := by
  constructor
  · intro heq
    have hnext : node.keptLinks.1 = node.next := congrArg NodeOf.next heq
    have hfallback : node.keptLinks.2 = node.fallback := congrArg NodeOf.fallback heq
    have hmedia : (if node.media.truthy then node.media else .null) = node.media :=
      congrArg NodeOf.media heq
    refine ⟨?_, ?_, (congrArg NodeOf.noFallback heq).symm⟩
    · cases hlink : node.fallback with
      | none => exact .inr rfl
      | some target =>
        simp only [keptLinks, hlink] at hnext hfallback
        split_ifs at hnext hfallback
        exact .inl hnext.symm
    · split_ifs at hmedia with htruthy
      · exact .inl htruthy
      · exact .inr hmedia.symm
  · rintro ⟨hsingle, hmedia, hunfilled⟩
    have hmedia : (if node.media.truthy then node.media else .null) = node.media := by
      rcases hmedia with htruthy | hnull
      · rw [if_pos htruthy]
      · rw [hnull]
        rfl
    have hlinks : node.keptLinks = (node.next, node.fallback) := by
      unfold keptLinks
      cases hlink : node.fallback with
      | none => rfl
      | some target =>
        have hnone : node.next = none := by simpa [hlink] using hsingle
        have hkind : node.kind = .condition := by
          by_contra hkind
          simpa [hnone] using h.settled hkind (by simp [hlink])
        simp only [hkind, hnone, if_true]
    unfold reread
    simp only [hlinks, hmedia]
    rw [← hunfilled]

theorem mapTargets_linkName (node : FlowNode) :
    (node.mapTargets text).mapTargets linkName = node := by
  have hname : linkName ∘ text = fun s => s := rfl
  have hbranch : ((fun b : Branch Value => (⟨b.predicate, linkName b.target⟩ : Branch String)) ∘
      fun b : Branch String => ⟨b.predicate, text b.target⟩) = fun b => b := rfl
  unfold mapTargets
  simp only [Option.map_map, List.map_map, hname, hbranch, Option.map_id', List.map_id']

theorem successors_reread (node : FlowNode) : node.reread.successors ⊆ node.successors := by
  intro target h
  unfold successors reread keptLinks at h
  unfold successors
  cases hlink : node.fallback with
  | none => simpa [hlink] using h
  | some fallback =>
    by_cases hkind : node.kind = .condition
    · simp [hlink, hkind] at h
      rcases h with h | h <;> simp [h]
    · simp [hlink, hkind] at h
      rcases h with h | h <;> simp [h]

end NodeOf

section Read

variable {draft : Draft} {node : DraftNode}

/-- Branches test something known, and there are none beside a link in `next`. -/
structure Links.Ordered (links : Links) : Prop where
  known : ∀ branch ∈ links.branches, branch.predicate.matchType ∈ MatchType.known
  direct : links.next.isSome = true → links.branches = []

theorem ordered_of_readLinks {next fallback : Value} {links : Links}
    (h : readLinks next fallback = .ok links) : links.Ordered := by
  cases next with
  | null =>
    obtain rfl := Except.ok.inj h
    exact ⟨fun _ h => (nomatch h), fun _ => rfl⟩
  | text s =>
    obtain rfl := Except.ok.inj h
    exact ⟨fun _ h => (nomatch h), fun _ => rfl⟩
  | list entries =>
    have hkept : links.next = none ∧
        ∀ branch ∈ links.branches, branch.predicate.matchType ∈ MatchType.known := by
      refine foldlM_keeps (fun links : Links => links.next = none ∧
        ∀ branch ∈ links.branches, branch.predicate.matchType ∈ MatchType.known)
        ⟨rfl, fun _ h => absurd h List.not_mem_nil⟩ (fun entry _ before after hbefore hstep => ?_) h
      obtain ⟨found, hfound, hadd⟩ := exceptBind_eq_ok.mp hstep
      obtain ⟨fields, -, -, rfl | ⟨predicate, hknown, rfl⟩⟩ := readConditionEntry_eq_ok hfound
      · unfold Links.add at hadd
        dsimp only at hadd
        split_ifs at hadd
        · exact nomatch hadd
        · obtain rfl := Except.ok.inj hadd
          exact hbefore
      · obtain rfl := Except.ok.inj hadd
        refine ⟨hbefore.1, fun other hother => ?_⟩
        rcases List.mem_append.mp hother with hother | hother
        · exact hbefore.2 other hother
        · rw [List.mem_singleton.mp hother]
          exact hknown
    exact ⟨hkept.2, fun hnext => by simp [hkept.1] at hnext⟩
  | _ => exact nomatch h

theorem Links.Ordered.settle {links : Links} (h : links.Ordered) (kind : NodeKind) :
    (links.settle kind).Ordered ∧ (kind ≠ .condition → (links.settle kind).fallback.truthy = true →
      (links.settle kind).branches = [] → (links.settle kind).next.isSome = true) := by
  unfold Links.settle
  split_ifs with hmoved
  · exact ⟨⟨fun _ h => (nomatch h), fun _ => rfl⟩, fun _ hnull => nomatch hnull⟩
  · refine ⟨h, fun hkind hfallback hbranches => ?_⟩
    by_contra hnext
    exact hmoved (by simp [hkind, hfallback, hbranches, Option.not_isSome_iff_eq_none.mp hnext])

/-- A node that was read and fits its draft, with links that lead to names. -/
theorem composed_of_readNode {id : String} {raw : Fields Value} (hid : id ≠ "")
    (hread : readNode id raw = .ok node) (hshape : shapeProblems node = [])
    (hlinked : ∀ target ∈ node.successors, linkName target ≠ "") :
    (node.mapTargets linkName).Composed := by
  obtain ⟨p, hp, rfl⟩ := readNode_eq_ok.mp hread
  obtain ⟨hended, htested, hanswered⟩ := shapeProblems_eq_nil.mp hshape
  obtain ⟨hordered, hsettled⟩ := (ordered_of_readLinks hp.links).settle p.kind
  have hbranches : p.kind ≠ .condition → (p.links.settle p.kind).branches = [] := fun hkind => by
    by_contra hsome
    exact hkind (htested hsome)
  refine
    { named := hid
      linked := fun target htarget => ?_
      known := fun branch hbranch => ?_
      direct := fun hnext => ?_
      settled := fun hkind hfallback => ?_
      ended := fun hkind => ?_
      tested := fun hsome => htested fun hnone => hsome ?_
      answered := fun hkind => ?_
      asked := fun hkind => ?_
      unasked := fun hkind => ?_
      typed := fun hblank => ?_
      checked := fun hblank => ?_ }
  · rw [NodeOf.successors_mapTargets] at htarget
    obtain ⟨link, hlink, rfl⟩ := List.mem_map.mp htarget
    exact hlinked link hlink
  · obtain ⟨found, hfound, rfl⟩ := List.mem_map.mp hbranch
    exact hordered.known found hfound
  · exact List.map_eq_nil_iff.mpr (hordered.direct ((Option.isSome_map ..).symm.trans hnext))
  · have htruthy : (p.links.settle p.kind).fallback.truthy = true := by
      by_contra hnone
      simp [NodeOf.mapTargets, NodeParts.node, hnone] at hfallback
    simpa [NodeOf.mapTargets, NodeParts.node] using
      hsettled hkind htruthy (hbranches hkind)
  · rw [NodeOf.successors_mapTargets, hended hkind]
    rfl
  · exact List.map_eq_nil_iff.mpr hnone
  · simpa [NodeOf.mapTargets] using hanswered hkind
  · have hkind : p.kind = .input := hkind
    show (readVariable id p.kind raw p.metadata).truthy = true
    rw [readVariable, if_pos hkind]
    exact truthy_orElse (truthy_text hid)
  · have hkind : p.kind ≠ .input := hkind
    show readVariable id p.kind raw p.metadata = .null
    rw [readVariable, if_neg hkind]
  · have hblank : ((Value.field raw "inputType").orElse
        (Value.field p.metadata "inputType")).truthy = false := hblank
    show (Value.field raw "inputType").orElse _ = _
    by_cases hown : (Value.field raw "inputType").truthy = true
    · rw [orElse_of_truthy hown, hown] at hblank
      cases hblank
    · exact orElse_of_not_truthy (by simpa using hown) _
  · have hvalidation := hp.validation
    have hblank : p.validation.getD [] = [] := hblank
    show readValidation (Value.field p.metadata "validation") = .ok p.validation
    by_cases hown : (Value.field raw "validation").truthy = true
    · rw [orElse_of_truthy hown] at hvalidation
      unfold readValidation at hvalidation
      split at hvalidation
      · rename_i heq
        rw [heq] at hown
        cases hown
      · rename_i fields heq
        rw [heq] at hown
        rw [← Except.ok.inj hvalidation] at hblank
        have hnil : fields = [] := hblank
        rw [hnil] at hown
        cases hown
      · cases hvalidation
    · rwa [orElse_of_not_truthy (by simpa using hown)] at hvalidation

end Read

/-! ### Written nodes -/

section Write

theorem readKind_name (kind : NodeKind) : readKind (text kind.name) = .ok kind := by
  have hname : Table.get? kindNames (Unicode.lowercase (Unicode.strip
      (optionalText (text kind.name)))) = some kind := by
    cases kind <;> decide +kernel
  unfold readKind
  simp only [hname]

theorem readAction_document (m : Mutation) : readAction m.document = .ok m := by
  obtain ⟨change, name, value⟩ := m
  cases change <;> rfl

theorem lowercase_matchType {m : MatchType} (h : m ∈ MatchType.known) :
    Unicode.lowercase (optionalText (text m.name)) = m.name ∧ m.name ≠ "default" ∧
      m.name ≠ "" := by
  simp only [MatchType.known, List.mem_cons, List.not_mem_nil, or_false] at h
  rcases h with rfl | rfl | rfl | rfl | rfl <;> decide +kernel

theorem readConditionEntry_object {target : String} (h : target ≠ "") (first : String × Value)
    (others : Fields Value) :
    readConditionEntry (.object [("condition", .object (first :: others)),
      ("nextNodeId", text target)]) = readCondition (first :: others) (text target) := by
  have hlink := truthy_text h
  have hpresent : (Value.object (first :: others)).truthy = true := rfl
  unfold readConditionEntry
  simp [Value.field, Table.get?, orElse_of_truthy hlink, hlink, hpresent]

/-- A branch with its link as data. -/
def Branch.raw (b : Branch String) : Branch Value := ⟨b.predicate, text b.target⟩

theorem readConditionEntry_branch {b : Branch String} (h : b.target ≠ "")
    (hknown : b.predicate.matchType ∈ MatchType.known) :
    readConditionEntry b.document = .ok (.branch b.raw) := by
  obtain ⟨hlower, hother, hnamed⟩ := lowercase_matchType hknown
  refine (readConditionEntry_object h _ _).trans ?_
  unfold readCondition
  simp only [Value.field, Table.get?, if_true, Option.getD_some]
  rw [orElse_of_truthy (truthy_text hnamed), hlower]
  simp only [hother, if_false, MatchType.ofName?_name hknown]
  rfl

theorem readConditionEntry_default {target : String} (h : target ≠ "") :
    readConditionEntry (defaultDocument target) = .ok (.default (text target)) := by
  have hlower : Unicode.lowercase (optionalText (text "default")) = "default" := by decide +kernel
  refine (readConditionEntry_object h _ _).trans ?_
  unfold readCondition
  simp only [Value.field, Table.get?, if_true, Option.getD_some]
  rw [orElse_of_truthy (truthy_text (by decide)), hlower, if_pos rfl]

namespace NodeOf

/-- The fields of the written node. -/
def written (node : FlowNode) : Fields Value :=
  [("id", text node.id), ("type", text node.kind.name), ("content", text node.content),
      ("metadata", .object node.metadata)]
    ++ node.linksDocument
    ++ present "variableName" node.variableName
    ++ present "inputType" node.inputType
    ++ present "validation" (.object (node.validation.getD []))
    ++ present "actions" (.list (node.mutations.map Mutation.document))
    ++ present "media" node.media
    ++ present "buttons" (.list node.buttons)

theorem document_eq (node : FlowNode) : node.document = .object node.written := rfl

theorem get?_present (name : String) (v : Value) (other : String) :
    Table.get? (present name v) other = if name = other ∧ v.truthy then some v else none := by
  unfold present
  by_cases hv : v.truthy <;> by_cases hname : name = other <;> simp [hv, hname, Table.get?]

theorem get?_linksDocument (node : FlowNode) {name : String} (h : name ≠ "next") :
    Table.get? node.linksDocument name = none := by
  unfold linksDocument
  split_ifs
  · simp [Table.get?, h.symm]
  · cases node.next <;> simp [Table.get?, h.symm]

/-- What is written where it is present is read as null where it is not. -/
theorem getD_present (v : Value) :
    (if v.truthy = true then some v else none).getD .null = if v.truthy then v else .null := by
  split_ifs <;> rfl

/-- What the fields of a written node read as. -/
structure Shows (node : FlowNode) (fields : Fields Value) : Prop where
  type : Value.field fields "type" = text node.kind.name
  content : Value.field fields "content" = text node.content
  metadata : Value.field fields "metadata" = .object node.metadata
  next : Value.field fields "next" = Value.field node.linksDocument "next"
  variableName : Value.field fields "variableName" =
    if node.variableName.truthy then node.variableName else .null
  inputType : Value.field fields "inputType" =
    if node.inputType.truthy then node.inputType else .null
  validation : Value.field fields "validation" = 
    if (Value.object (node.validation.getD [])).truthy then .object (node.validation.getD [])
    else .null
  actions : Value.field fields "actions" =
    if (Value.list (node.mutations.map Mutation.document)).truthy
    then .list (node.mutations.map Mutation.document) else .null
  media : Value.field fields "media" = if node.media.truthy then node.media else .null
  buttons : Value.field fields "buttons" =
    if (Value.list node.buttons).truthy then .list node.buttons else .null
  /-- The other names that the reader knows are not used. -/
  unused : ∀ name ∈ ["defaultNext", "default_next", "set", "unset", "increment", "variable"],
    Value.field fields name = .null

theorem shows_written (node : FlowNode) : node.Shows node.written := by
  constructor <;>
    simp [written, Value.field, Table.get?_append, Table.get?, get?_present, get?_linksDocument,
      getD_present]

/-- The links that the written node gives. -/
def writtenLinks (node : FlowNode) : Links where
  next := if node.branches = [] ∧ node.fallback = none then node.next.map text else none
  branches := node.branches.map Branch.raw
  fallback := (node.fallback.map text).getD .null

/-- One step through a list of conditions. -/
def addEntry (links : Links) (entry : Value) : Except Fault Links := do
  links.add (← readConditionEntry entry)

theorem readLinks_list (entries : List Value) (fallback : Value) :
    readLinks (.list entries) fallback = entries.foldlM addEntry ⟨none, [], fallback⟩ := rfl

theorem addEntry_branches {branches : List (Branch String)} (links : Links)
    (h : ∀ b ∈ branches, b.target ≠ "" ∧ b.predicate.matchType ∈ MatchType.known) :
    (branches.map Branch.document).foldlM addEntry links =
      .ok { links with branches := links.branches ++ branches.map Branch.raw } := by
  induction branches generalizing links with
  | nil => simp [pure, Except.pure]
  | cons b more ih =>
    obtain ⟨htarget, hknown⟩ := h b List.mem_cons_self
    rw [List.map_cons, List.foldlM_cons, addEntry, readConditionEntry_branch htarget hknown]
    refine (ih _ fun b' hb' => h b' (List.mem_cons_of_mem _ hb')).trans ?_
    simp

theorem Composed.readLinks_document {node : FlowNode} (h : node.Composed) :
    readLinks (Value.field node.linksDocument "next") .null = .ok node.writtenLinks := by
  have hbranches : ∀ b ∈ node.branches, b.target ≠ "" ∧
      b.predicate.matchType ∈ MatchType.known := fun b hb =>
    ⟨h.linked _ (by simpa [successors] using .inr (.inl ⟨b, hb, rfl⟩)), h.known b hb⟩
  unfold linksDocument writtenLinks
  by_cases hlisted : (!node.branches.isEmpty || node.fallback.isSome) = true
  · rw [if_pos hlisted]
    have hnext : ¬ (node.branches = [] ∧ node.fallback = none) := by
      rintro ⟨hnone, hnofallback⟩
      simp [hnone, hnofallback] at hlisted
    rw [if_neg hnext]
    have hfield (entries : Value) : Value.field [("next", entries)] "next" = entries := rfl
    rw [hfield, readLinks_list, List.foldlM_append, addEntry_branches _ hbranches]
    cases hfallback : node.fallback with
    | none => rfl
    | some target =>
      have htarget : target ≠ "" := h.linked _ (by simp [successors, hfallback])
      have hdefault (links : Links) : addEntry links (defaultDocument target) =
          links.add (.default (text target)) := by
        rw [addEntry, readConditionEntry_default htarget]
        rfl
      simp [bind, Except.bind, hdefault, Links.add, Value.truthy, pure, Except.pure]
  · rw [if_neg hlisted]
    have hnone : node.branches = [] ∧ node.fallback = none := by
      simpa using hlisted
    rw [if_pos hnone, hnone.1, hnone.2]
    cases hnext : node.next with
    | none => rfl
    | some target =>
      have htarget : target ≠ "" := h.linked _ (by simp [successors, hnext])
      have hempty : target.isEmpty = false := by simpa using htarget
      show readLinks (text target) .null = _
      unfold readLinks
      simp [hempty]

/-- The parts that the written node is read in. -/
def writtenParts (node : FlowNode) : NodeParts where
  kind := node.kind
  metadata := node.metadata
  content := node.content
  media := .null
  listed := []
  buttons := node.buttons
  links := node.writtenLinks
  validation := node.validation
  mutations := node.mutations

theorem readMutations_written {fields : Fields Value} {node : FlowNode} (h : node.Shows fields) :
    readMutations fields = .ok node.mutations := by
  have hactions : optionalItems (Value.field fields "actions") =
      .ok (node.mutations.map Mutation.document) := by
    rw [h.actions]
    cases node.mutations <;> rfl
  have hread : (node.mutations.map Mutation.document).mapM readAction = .ok node.mutations := by
    rw [List.mapM_map]
    have heach : ∀ m ∈ node.mutations, (readAction ∘ Mutation.document) m = .ok m :=
      fun m _ => readAction_document m
    rw [mapM_eq_ok_of_forall (g := fun m => m) heach, List.map_id']
  unfold readMutations
  rw [h.unused "set" (by simp), h.unused "unset" (by simp), h.unused "increment" (by simp),
    hactions]
  simp [readAssignments, readRemovals, bind, Except.bind, hread]

theorem readValidation_written {fields : Fields Value} {node : FlowNode} (h : node.Shows fields)
    (hc : node.Composed) : readValidation ((Value.field fields "validation").orElse
      (Value.field node.metadata "validation")) = .ok node.validation := by
  rw [h.validation]
  by_cases hblank : node.validation.getD [] = []
  · rw [hblank]
    exact hc.checked hblank
  · have hpresent : (Value.object (node.validation.getD [])).truthy = true := by
      simp [Value.truthy, hblank]
    rw [if_pos hpresent, orElse_of_truthy hpresent]
    cases hvalidation : node.validation with
    | none => simp [hvalidation] at hblank
    | some fields => rfl

theorem Composed.readFrom {node : FlowNode} (h : node.Composed) :
    node.writtenParts.ReadFrom node.written := by
  have hs := node.shows_written
  have hfallback : ownFallback node.written = .null := by
    rw [ownFallback, hs.unused "defaultNext" (by simp), hs.unused "default_next" (by simp)]
    rfl
  refine
    { kind := ?_
      metadata := ?_
      content := ?_
      buttons := ?_
      links := ?_
      validation := readValidation_written hs h
      mutations := readMutations_written hs }
  · rw [hs.type, readKind_name]
    rfl
  · rw [hs.metadata]
    show optionalTable (.object node.metadata) = .ok node.metadata
    cases node.metadata <;> rfl
  · rw [hs.content]
    rfl
  · rw [hs.buttons]
    unfold writtenParts
    cases node.buttons <;> rfl
  · rw [hfallback, hs.next, h.readLinks_document]
    rfl

theorem Composed.settle_writtenLinks {node : FlowNode} (h : node.Composed) :
    node.writtenLinks.settle node.kind =
      ⟨node.keptLinks.1.map text, node.branches.map Branch.raw,
        (node.keptLinks.2.map text).getD .null⟩ := by
  unfold writtenLinks keptLinks
  cases hfallback : node.fallback with
  | none =>
    have hnext : (if node.branches = [] ∧ (none : Option String) = none then node.next.map text
        else none) = node.next.map text := by
      split_ifs with hnone
      · rfl
      · cases hlink : node.next with
        | none => rfl
        | some target => exact absurd ⟨h.direct (by simp [hlink]), rfl⟩ hnone
    rw [hnext]
    simp [Links.settle, Value.truthy]
  | some target =>
    have htarget : target ≠ "" := h.linked _ (by simp [successors, hfallback])
    have htruthy : (text target).truthy = true := truthy_text htarget
    by_cases hkind : node.kind = .condition
    · simp [Links.settle, hkind]
    · have hbranches : node.branches = [] := by
        by_contra hsome
        exact hkind (h.tested hsome)
      simp [Links.settle, hkind, hbranches, htruthy]

theorem Composed.readNode_written {node : FlowNode} (h : node.Composed) :
    readNode node.id node.written = .ok (node.reread.mapTargets text) := by
  have hs := node.shows_written
  refine readNode_eq_ok.mpr ⟨node.writtenParts, h.readFrom, ?_⟩
  have hlinks := h.settle_writtenLinks
  have hvariable : readVariable node.id node.kind node.written node.metadata =
      node.variableName := by
    unfold readVariable
    split_ifs with hkind
    · have hasked := h.asked hkind
      rw [hs.variableName, if_pos hasked, orElse_of_truthy hasked, orElse_of_truthy hasked,
        orElse_of_truthy hasked]
    · exact (h.unasked hkind).symm
  have hinput : (Value.field node.written "inputType").orElse
      (Value.field node.metadata "inputType") = node.inputType := by
    rw [hs.inputType]
    by_cases htyped : node.inputType.truthy = true
    · rw [if_pos htyped, orElse_of_truthy htyped]
    · have hblank : node.inputType.truthy = false := by simpa using htyped
      rw [if_neg htyped, h.typed hblank]
      rfl
  have hmedia : (Value.field node.written "media").orElse .null =
      if node.media.truthy then node.media else .null := by
    rw [hs.media]
    split_ifs with htruthy
    · exact orElse_of_truthy htruthy _
    · rfl
  have hfallback : ∀ target ∈ node.keptLinks.2, (text target).truthy = true := by
    intro target htarget
    have hmem : target ∈ node.reread.successors := by
      have hkept : node.keptLinks.2 = some target := htarget
      simp [successors, reread, hkept]
    exact truthy_text (h.linked target (node.successors_reread hmem))
  unfold NodeParts.node writtenParts
  dsimp only
  rw [hlinks, hvariable, hinput, hmedia]
  unfold reread mapTargets
  cases hkept : node.keptLinks.2 with
  | none => simp [Value.truthy, Branch.raw]
  | some target =>
    have htruthy := hfallback target hkept
    simp [htruthy, Branch.raw]

end NodeOf

end Write

/-! ### Graphs -/

namespace FlowGraph

/-- What holds of every graph that a template gives. -/
structure Composed (graph : FlowGraph) : Prop where
  distinct : graph.nodes.names.Nodup
  composed : ∀ id node, (id, node) ∈ graph.nodes → node.id = id ∧ node.Composed
  linked : ∀ id node, (id, node) ∈ graph.nodes →
    ∀ target ∈ node.successors, graph.contains target = true
  entered : graph.contains graph.entry = true
  versioned : graph.version ≠ ""

/-- What becomes of a graph that is written and read again. -/
def reread (graph : FlowGraph) : FlowGraph :=
  { graph with
    nodes := graph.nodes.map fun field => (field.1, field.2.reread)
    tenantId := graph.tenantId.orElse .null }

/-- The fields of the written graph. -/
def written (graph : FlowGraph) : Fields Value :=
  [("id", text graph.id), ("version", text graph.version), ("tenantId", graph.tenantId),
    ("name", graph.name), ("entryNodeId", text graph.entry),
    ("metadata", .object graph.metadata), ("nodes", .list (graph.nodeList.map NodeOf.document))]

theorem entryName_written (graph : FlowGraph) (h : graph.entry ≠ "") :
    entryName graph.written = text graph.entry := by
  have hentry := truthy_text h
  simp [entryName, written, Value.field, Table.get?, orElse_of_truthy hentry]

/-- The draft that the document of a graph gives. -/
def writtenDraft (graph : FlowGraph) : Draft where
  nodes := graph.nodes.map fun field => (field.1, field.2.reread.mapTargets text)
  problems := []

end FlowGraph

section Graph

variable {data : Fields Value} {templateId version : Value} {graph : FlowGraph}

theorem Accepted.composed (a : Accepted data templateId version graph) : graph.Composed := by
  have hnodes : graph.nodes = a.draft.nodes.map fun field =>
      (field.1, field.2.mapTargets linkName) := congrArg FlowGraph.nodes a.result
  have hdrawn := a.drawn
  have hnamed {name : String} (h : a.draft.nodes.has name = true) : name ≠ "" := by
    obtain ⟨node, hnode⟩ := Option.isSome_iff_exists.mp h
    exact (hdrawn.read name node (Table.mem_of_get? hnode)).1
  have hresolved {node : DraftNode} (h : node ∈ a.draft.nodes.values) {target : Value}
      (ht : target ∈ node.successors) : a.draft.nodes.has (linkName target) = true := by
    obtain ⟨name, rfl, hknown⟩ := Draft.resolves_eq_true ((a.sound.fit node h).linked target ht)
    exact hknown
  have hdrafted {id : String} {node : FlowNode} (h : (id, node) ∈ graph.nodes) :
      ∃ drafted : DraftNode, (id, drafted) ∈ a.draft.nodes ∧
        drafted ∈ a.draft.nodes.values ∧ node = drafted.mapTargets linkName := by
    rw [hnodes] at h
    obtain ⟨⟨name, drafted⟩, hmem, heq⟩ := List.mem_map.mp h
    obtain ⟨rfl, rfl⟩ := Prod.mk.inj heq
    exact ⟨drafted, hmem, List.mem_map_of_mem (f := Prod.snd) hmem, rfl⟩
  refine
    { distinct := ?_
      composed := fun id node h => ?_
      linked := fun id node h target ht => ?_
      entered := a.isSome_node? a.entry_eq.2
      versioned := ?_ }
  · exact a.distinct
  · obtain ⟨drafted, hmem, hvalue, rfl⟩ := hdrafted h
    obtain ⟨hid, raw, -, hread⟩ := hdrawn.read id drafted hmem
    exact ⟨readNode_id hread, composed_of_readNode hid hread (a.sound.fit drafted hvalue).shaped
      fun target ht => hnamed (hresolved hvalue ht)⟩
  · obtain ⟨drafted, -, hvalue, rfl⟩ := hdrafted h
    rw [NodeOf.successors_mapTargets] at ht
    obtain ⟨link, hlink, rfl⟩ := List.mem_map.mp ht
    exact a.isSome_node? (hresolved hvalue hlink)
  · have hversion : graph.version = ((version.orElse (Value.field data "version")).orElse
        (text "1")).display := congrArg FlowGraph.version a.result
    rw [hversion]
    exact Value.display_ne_empty (truthy_orElse rfl)

theorem addNodes_documents {nodes : Fields FlowNode} {draft : Draft} (position : Nat)
    (hdistinct : (draft.nodes.names ++ nodes.names).Nodup)
    (hnodes : ∀ id node, (id, node) ∈ nodes → node.id = id ∧ node.Composed) :
    draft.addNodes position (nodes.map fun field => field.2.document) =
      .ok { draft with nodes := draft.nodes ++
        (nodes.map fun field => (field.1, field.2.reread.mapTargets text)) } := by
  induction nodes generalizing draft position with
  | nil => simp [Draft.addNodes]
  | cons field more ih =>
    obtain ⟨id, node⟩ := field
    obtain ⟨rfl, hnode⟩ := hnodes id node List.mem_cons_self
    have hnew : draft.nodes.has node.id = false := by
      refine Table.has_eq_false_iff.mpr fun hmem => ?_
      exact (List.nodup_append.mp hdistinct).2.2 _ hmem node.id List.mem_cons_self rfl
    have hempty : node.id.isEmpty = false := by simpa using hnode.named
    have hid : Value.field node.written "id" = text node.id := by
      simp [NodeOf.written, Value.field, Table.get?]
    have hadd : draft.addNode position node.document = .ok { draft with
        nodes := draft.nodes ++ [(node.id, node.reread.mapTargets text)] } := by
      rw [NodeOf.document_eq, ← Table.put_of_not_has _ hnew]
      unfold Draft.addNode
      simp only [hid, hempty, hnew, hnode.readNode_written]
      rfl
    have hrest : ((draft.nodes ++ [(node.id, node.reread.mapTargets text)]).names ++
        Table.names more).Nodup := by
      simpa [Table.names] using hdistinct
    rw [List.map_cons, Draft.addNodes, hadd]
    refine (ih (position + 1) hrest fun id' node' hmem =>
      hnodes id' node' (List.mem_cons_of_mem _ hmem)).trans ?_
    simp

theorem FlowGraph.has_writtenDraft (graph : FlowGraph) (id : String) :
    graph.writtenDraft.nodes.has id = graph.contains id := by
  unfold FlowGraph.writtenDraft Table.has FlowGraph.contains Table.has
  rw [Table.get?_map (fun node : FlowNode => node.reread.mapTargets text), Option.isSome_map]

theorem FlowGraph.Composed.entry_ne_empty (h : graph.Composed) : graph.entry ≠ "" := by
  obtain ⟨node, hnode⟩ := Option.isSome_iff_exists.mp h.entered
  obtain ⟨hid, hcomposed⟩ := h.composed _ _ (Table.mem_of_get? hnode)
  exact hid ▸ hcomposed.named

theorem FlowGraph.Composed.sound (h : graph.Composed) :
    graph.writtenDraft.Sound (text graph.entry) := by
  have hresolves {name : String} (hname : graph.contains name = true) :
      graph.writtenDraft.resolves (text name) = .ok true :=
    congrArg Except.ok ((graph.has_writtenDraft name).trans hname)
  refine
    { clean := rfl
      present := truthy_text h.entry_ne_empty
      entered := hresolves h.entered
      fit := fun drafted hdrafted => ?_ }
  · obtain ⟨⟨id, drafted⟩, hmem, rfl⟩ := List.mem_map.mp hdrafted
    obtain ⟨⟨id, node⟩, hnode, heq⟩ := List.mem_map.mp hmem
    obtain ⟨rfl, rfl⟩ := Prod.mk.inj heq
    have hcomposed := (h.composed id node hnode).2
    have hkept := node.successors_reread
    refine ⟨fun target ht => ?_,
      shapeProblems_eq_nil.mpr ⟨fun hkind => ?_, fun hsome => ?_, fun hkind => ?_⟩⟩
    · rw [NodeOf.successors_mapTargets] at ht
      obtain ⟨name, hname, rfl⟩ := List.mem_map.mp ht
      exact hresolves (h.linked id node hnode name (hkept hname))
    · rw [NodeOf.successors_mapTargets]
      rw [hcomposed.ended hkind] at hkept
      rw [List.subset_nil.mp hkept]
      rfl
    · exact hcomposed.tested fun hnone => hsome (by simp [NodeOf.mapTargets, NodeOf.reread, hnone])
    · have hkind : node.kind = .condition := hkind
      have hfallback : node.keptLinks.2 = node.fallback := by
        unfold NodeOf.keptLinks
        cases node.fallback <;> simp [hkind]
      simpa [NodeOf.mapTargets, NodeOf.reread, hfallback] using hcomposed.answered hkind

/-- The document of a graph that a template gave is read as the graph with every node reread. -/
theorem FlowGraph.Composed.readGraph_document (h : graph.Composed) :
    readGraph graph.document .null .null = .ok graph.reread := by
  have hdocument : graph.document = .object graph.written := rfl
  have hdrafted : Draft.addNodes ⟨[], []⟩ 0 (graph.nodeList.map NodeOf.document) =
      .ok graph.writtenDraft := by
    have hlist : graph.nodeList.map NodeOf.document =
        graph.nodes.map fun field => field.2.document := List.map_map
    rw [hlist, addNodes_documents 0 (by simpa [Table.names] using h.distinct) h.composed]
    rfl
  have hid : optionalText (text graph.id) = graph.id := by
    by_cases hblank : graph.id = "" <;> simp [optionalText, Value.truthy, hblank, Value.display]
  rw [hdocument]
  refine readGraph_eq_ok.mpr ⟨
    { raws := graph.nodeList.map NodeOf.document
      draft := graph.writtenDraft
      metadata := graph.metadata
      listed := by simp [FlowGraph.written, Value.field, Table.get?]
      drafted := hdrafted
      sound := graph.entryName_written h.entry_ne_empty ▸ h.sound
      tabled := ?_
      result := ?_ }⟩
  · have hfield : Value.field graph.written "metadata" = .object graph.metadata := by
      simp [FlowGraph.written, Value.field, Table.get?]
    rw [hfield]
    cases graph.metadata <;> rfl
  · have hnodes : graph.writtenDraft.nodes.map (fun field =>
        (field.1, field.2.mapTargets linkName)) = graph.reread.nodes := by
      simp [FlowGraph.writtenDraft, FlowGraph.reread, NodeOf.mapTargets_linkName]
    have hversion := h.versioned
    unfold Draft.graph
    rw [graph.entryName_written h.entry_ne_empty, hnodes]
    simp [FlowGraph.written, Value.field, Table.get?, Value.orElse, Value.truthy, hid, hversion,
      Value.display, linkName, Value.text?, FlowGraph.reread]

/-- **A graph that a template gave can be written and read again**: its document is accepted, id,
version, entry and metadata are the same, and the nodes are those of the graph reread.  They are
the same if each is one that lasts. -/
theorem graph_reread {document : Value} (h : readGraph document templateId version = .ok graph) :
    ∃ again, readGraph graph.document .null .null = .ok again ∧ again.id = graph.id ∧
      again.version = graph.version ∧ again.entry = graph.entry ∧
      again.metadata = graph.metadata ∧
      again.nodes = graph.nodes.map (fun field => (field.1, field.2.reread)) ∧
      (again.nodes = graph.nodes ↔ ∀ node ∈ graph.nodeList, node.Lasting) := by
  obtain ⟨data, rfl⟩ := object_of_readGraph h
  obtain ⟨a⟩ := readGraph_eq_ok.mp h
  have hcomposed := a.composed
  refine ⟨graph.reread, hcomposed.readGraph_document, rfl, rfl, rfl, rfl, rfl, ?_⟩
  have hsame : graph.reread.nodes = graph.nodes ↔
      ∀ field ∈ graph.nodes, (field.1, field.2.reread) = field := by
    have hself := List.map_id' graph.nodes
    exact ⟨fun h => List.map_inj_left.mp (h.trans hself.symm),
      fun h => (List.map_inj_left.mpr h).trans hself⟩
  rw [hsame]
  constructor
  · intro heach node hnode
    obtain ⟨⟨id, node⟩, hmem, rfl⟩ := List.mem_map.mp hnode
    have hreread : node.reread = node := congrArg Prod.snd (heach (id, node) hmem)
    exact (hcomposed.composed id node hmem).2.reread_eq_self.mp hreread
  · rintro hlasting ⟨id, node⟩ hmem
    have hnode : node ∈ graph.nodeList := List.mem_map_of_mem (f := Prod.snd) hmem
    exact congrArg (Prod.mk id)
      ((hcomposed.composed id node hmem).2.reread_eq_self.mpr (hlasting node hnode))

/-- A message that goes on to `c`, and has `b` for a default. -/
def twoWays : Value :=
  .object [("entryNodeId", text "a"), ("nodes", .list [
    .object [("id", text "a"), ("type", text "message"), ("next", text "c"),
      ("defaultNext", text "b")],
    .object [("id", text "b"), ("type", text "end")],
    .object [("id", text "c"), ("type", text "end")]])]

theorem readGraph_twoWays : ∃ graph node, readGraph twoWays .null .null = .ok graph ∧
    node ∈ graph.nodeList ∧ node.next = some "c" ∧ node.fallback = some "b" := by
  have h : ((readGraph twoWays .null .null).toOption.any fun graph => graph.nodeList.any fun node =>
      node.next = some "c" ∧ node.fallback = some "b") = true := by decide +kernel
  obtain ⟨graph, hread, h⟩ := exists_of_any h
  obtain ⟨node, hnode, hlinks⟩ := List.any_eq_true.mp h
  obtain ⟨hnext, hfallback⟩ := of_decide_eq_true hlinks
  exact ⟨graph, node, hread, hnode, hnext, hfallback⟩

theorem graph_reread_twoWays : ∃ graph again, readGraph twoWays .null .null = .ok graph ∧
    readGraph graph.document .null .null = .ok again ∧
    again.nodes = graph.nodes.map fun field => (field.1, field.2.reread) := by
  obtain ⟨graph, node, hread, -⟩ := readGraph_twoWays
  obtain ⟨again, hagain, -, -, -, -, hnodes, -⟩ := graph_reread hread
  exact ⟨graph, again, hread, hagain, hnodes⟩

/-- **Not every graph is the same after it was written and read again**: a message that had a
default link beside another link has lost that one. -/
theorem reread_ne_twoWays : ∃ graph again, readGraph twoWays .null .null = .ok graph ∧
    readGraph graph.document .null .null = .ok again ∧ again.nodes ≠ graph.nodes := by
  obtain ⟨graph, node, hread, hnode, hnext, hfallback⟩ := readGraph_twoWays
  obtain ⟨a⟩ := readGraph_eq_ok.mp hread
  refine ⟨graph, graph.reread, hread, a.composed.readGraph_document, fun hsame => ?_⟩
  obtain ⟨⟨id, node⟩, hmem, rfl⟩ := List.mem_map.mp hnode
  have hkept : ∀ field ∈ graph.nodes, (field.1, field.2.reread) = field :=
    List.map_inj_left.mp (hsame.trans (List.map_id' graph.nodes).symm)
  have hreread : node.reread = node := congrArg Prod.snd (hkept (id, node) hmem)
  rcases ((a.composed.composed id node hmem).2.reread_eq_self.mp hreread).single with hnone | hnone
  · exact nomatch hnext.symm.trans hnone
  · exact nomatch hfallback.symm.trans hnone

end Graph

end Template

end Parley
