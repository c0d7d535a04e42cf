import Parley.Template.Graph

/-!
# Parley.Template.Reader — graphs from template documents

Templates come from several builders, so a field may have more than one name and more than one
shape.  Mistakes in nodes are collected, and a template with any mistake is refused with all of
them.  Data of a shape that nothing is said about is a fault of its own and ends the reading.
-/

namespace Parley.Template

/-- A node as read, before its links are known to lead anywhere. -/
abbrev DraftNode := NodeOf Value

def mistake {α : Type} (wording : String) : Except Fault α := .error (.badValue wording)

/-- The names of node types, in lower case. -/
def kindNames : List (String × NodeKind) :=
  [("message", .message), ("messagenode", .message), ("start", .message),
   ("startnode", .message), ("buttons", .message), ("condition", .condition),
   ("conditionnode", .condition), ("input", .input), ("inputnode", .input), ("capture", .input),
   ("action", .action), ("actionnode", .action), ("terminal", .terminal), ("end", .terminal),
   ("endnode", .terminal)]

/-- The text of a value that may be missing. -/
def optionalText (v : Value) : String := if v.truthy then v.display else ""

def readKind (type : Value) : Except Fault NodeKind :=
  let name := Unicode.lowercase (Unicode.strip (optionalText type))
  match Table.get? kindNames name with
  | some kind => .ok kind
  | none => mistake ("unknown node type '" ++ type.display ++ "'")

/-- The items of a value that may be missing. -/
def optionalItems (v : Value) : Except Fault (List Value) :=
  if v.truthy then v.items else .ok []

/-- The table of a value that may be missing. -/
def optionalTable (v : Value) : Except Fault (Fields Value) :=
  if v.truthy then v.table else .ok []

/-- Text, media and buttons of a content. -/
def readContent (content : Value) : Except Fault (String × Value × List Value) :=
  match content with
  | .null => .ok ("", .null, [])
  | .text s => .ok (s, .null, [])
  | .object fields => do
    let text := (Value.field fields "text").orElse (Value.field fields "message")
    let buttons ← optionalItems (Value.field fields "buttons")
    .ok (optionalText text, Value.field fields "media", buttons)
  | _ => mistake "content must be a string or an object"

/-- One entry of a list of conditions: a branch, or the default link. -/
inductive ConditionEntry
  | branch (branch : Branch Value)
  | default (target : Value)

/-- The text of a condition's value; a missing value is empty. -/
def conditionValue (condition : Fields Value) : String :=
  match condition.get? "value" with
  | none => ""
  | some v => v.display

def readCondition (condition : Fields Value) (target : Value) : Except Fault ConditionEntry :=
  let type := (Value.field condition "type").orElse (Value.field condition "matchType")
  let name := Unicode.lowercase (optionalText type)
  if name = "default" then .ok (.default target)
  else
    match MatchType.ofName? name with
    | none => mistake ("unknown match type '" ++ name ++ "'")
    | some matchType =>
      .ok (.branch ⟨⟨matchType, conditionValue condition,
        (Value.field condition "caseSensitive").truthy⟩, target⟩)

def readConditionEntry (entry : Value) : Except Fault ConditionEntry :=
  match entry with
  | .object fields =>
    let target := (Value.field fields "nextNodeId").orElse (Value.field fields "next_node_id")
    if !target.truthy then mistake "condition entry without nextNodeId"
    else
      let condition := Value.field fields "condition"
      match if condition.truthy then condition else .object [] with
      | .object condition => readCondition condition target
      | _ => mistake "condition must be an object"
  | _ => mistake "condition entries must be objects"

/-- The links of a node while they are being read. -/
structure Links where
  next : Option Value
  branches : List (Branch Value)
  fallback : Value

def Links.add (links : Links) (entry : ConditionEntry) : Except Fault Links :=
  match entry with
  | .branch b => .ok { links with branches := links.branches ++ [b] }
  | .default target =>
    if links.fallback.truthy && !links.fallback.equal target then
      mistake "more than one default successor"
    else .ok { links with fallback := target }

/-- The links in the field `next`, given the default link from elsewhere. -/
def readLinks (next fallback : Value) : Except Fault Links :=
  match next with
  | .null => .ok ⟨none, [], fallback⟩
  | .text s => .ok ⟨if s.isEmpty then none else some (.text s), [], fallback⟩
  | .list entries =>
    entries.foldlM (fun links entry => do links.add (← readConditionEntry entry))
      ⟨none, [], fallback⟩
  | _ => mistake "'next' must be a node id or a list of conditions"

/-- A node that is no condition may give its only link as a default. -/
def Links.settle (links : Links) (kind : NodeKind) : Links :=
  if kind ≠ .condition && links.fallback.truthy && links.next.isNone && links.branches.isEmpty then
    ⟨some links.fallback, [], .null⟩
  else links

def mutationsFrom (change : Change) (fields : Fields Value) : List Mutation :=
  fields.map fun field => ⟨change, field.1, field.2⟩

/-- A field that is an object of variables, or missing. -/
def readAssignments (change : Change) (v : Value) : Except Fault (List Mutation) :=
  match v with
  | .null => .ok []
  | .object fields => .ok (mutationsFrom change fields)
  | _ => mistake ("'" ++ change.name ++ "' must be a mapping")

def readRemovals (v : Value) : Except Fault (List Mutation) :=
  match v with
  | .null => .ok []
  | .list names => .ok (names.map fun name => ⟨.unset, name.display, .null⟩)
  | _ => mistake "'unset' must be a list"

def readAction (action : Value) : Except Fault Mutation :=
  let invalid : Except Fault Mutation := mistake ("invalid action " ++ action.quoted)
  match action with
  | .object fields =>
    match (Value.field fields "op").text?.bind Change.ofName? with
    | none => invalid
    | some change => do
      let name ← Value.require fields "name"
      .ok ⟨change, name.display, Value.field fields "value"⟩
  | _ => invalid

/-- Assignments, removals, increments and listed actions, in this order. -/
def readMutations (raw : Fields Value) : Except Fault (List Mutation) := do
  let assignments ← readAssignments .set (Value.field raw "set")
  let removals ← readRemovals (Value.field raw "unset")
  let increments ← readAssignments .increment (Value.field raw "increment")
  let actions ← (← optionalItems (Value.field raw "actions")).mapM readAction
  .ok (assignments ++ removals ++ increments ++ actions)

def readValidation (v : Value) : Except Fault (Option (Fields Value)) :=
  match v with
  | .null => .ok none
  | .object fields => .ok (some fields)
  | _ => mistake "validation must be an object"

/-- The variable of an input node; without a name of its own it is the node's. -/
def readVariable (id : String) (kind : NodeKind) (raw metadata : Fields Value) : Value :=
  if kind = .input then
    (((Value.field raw "variableName").orElse (Value.field raw "variable")).orElse
      (Value.field metadata "variableName")).orElse (.text id)
  else .null

def readNode (id : String) (raw : Fields Value) : Except Fault DraftNode := do
  let kind ← readKind (Value.field raw "type")
  let metadata ← optionalTable (Value.field raw "metadata")
  let (content, media, buttons) ← readContent (Value.field raw "content")
  let ownButtons := Value.field raw "buttons"
  let buttons ← if ownButtons.truthy then ownButtons.items else pure buttons
  let fallback := (Value.field raw "defaultNext").orElse (Value.field raw "default_next")
  let links := (← readLinks (Value.field raw "next") fallback).settle kind
  let validation ← readValidation
    ((Value.field raw "validation").orElse (Value.field metadata "validation"))
  let mutations ← readMutations raw
  .ok {
    id := id
    kind := kind
    content := content
    metadata := metadata
    next := links.next
    branches := links.branches
    fallback := if links.fallback.truthy then some links.fallback else none
    noFallback := if links.fallback.truthy then .null else links.fallback
    variableName := readVariable id kind raw metadata
    inputType := (Value.field raw "inputType").orElse (Value.field metadata "inputType")
    validation := validation
    mutations := mutations
    media := (Value.field raw "media").orElse media
    buttons := buttons }

/-- Nodes read so far and the mistakes found on the way. -/
structure Draft where
  nodes : Fields DraftNode
  problems : List String

def Draft.problem (draft : Draft) (wording : String) : Draft :=
  { draft with problems := draft.problems ++ [wording] }

/-- Reads the node at a position of the template's list. -/
def Draft.addNode (draft : Draft) (position : Nat) (raw : Value) : Except Fault Draft :=
  let label := "node #" ++ toString position
  match raw with
  | .object fields =>
    match Value.field fields "id" with
    | .text id =>
      if id.isEmpty then .ok (draft.problem (label ++ " has no id"))
      else if draft.nodes.has id then .ok (draft.problem ("duplicate node id '" ++ id ++ "'"))
      else
        match readNode id fields with
        | .ok node => .ok { draft with nodes := draft.nodes.put id node }
        | .error fault =>
          if fault.family = .content then
            .ok (draft.problem ("node '" ++ id ++ "': " ++ fault.message))
          else .error fault
    | _ => .ok (draft.problem (label ++ " has no id"))
  | _ => .ok (draft.problem (label ++ " is not an object"))

def Draft.addNodes : Draft → Nat → List Value → Except Fault Draft
  | draft, _, [] => .ok draft
  | draft, position, raw :: more => do (← draft.addNode position raw).addNodes (position + 1) more

/-- Whether data names a node of the draft. -/
def Draft.resolves (draft : Draft) (target : Value) : Except Fault Bool :=
  match target with
  | .text s => .ok (draft.nodes.has s)
  | v => if v.hashable then .ok false else .error (.unhashable v.kind)

def Draft.checkEntry (draft : Draft) (entry : Value) : Except Fault Draft :=
  if !entry.truthy then .ok (draft.problem "entryNodeId is missing")
  else do
    if ← draft.resolves entry then .ok draft
    else .ok (draft.problem ("entryNodeId '" ++ entry.display ++ "' does not resolve"))

def Draft.checkLink (draft : Draft) (id : String) (target : Value) : Except Fault (List String) := do
  if ← draft.resolves target then .ok []
  else .ok ["node '" ++ id ++ "' points to unknown node '" ++ target.display ++ "'"]

/-- Which links a kind of node must have and must not have. -/
def shapeProblems (node : DraftNode) : List String :=
  match node.kind with
  | .condition =>
    if node.branches.isEmpty && node.fallback.isNone then
      ["condition node '" ++ node.id ++ "' has no predicates and no default"]
    else []
  | .terminal =>
    if node.successors.isEmpty then [] else ["terminal node '" ++ node.id ++ "' declares successors"]
  | kind =>
    if node.branches.isEmpty then []
    else [kind.name ++ " node '" ++ node.id ++ "' declares predicates"]

def Draft.checkNode (draft : Draft) (node : DraftNode) : Except Fault (List String) := do
  let links ← node.successors.mapM (draft.checkLink node.id)
  .ok (links.flatten ++ shapeProblems node)

def Draft.checkNodes (draft : Draft) : Except Fault Draft := do
  let problems ← draft.nodes.values.mapM draft.checkNode
  .ok { draft with problems := draft.problems ++ problems.flatten }

/-- The name behind a link that is known to be one. -/
def linkName (target : Value) : String := (target.text?).getD ""

/-- The fields of a document. -/
def documentFields (document : Value) : Except Fault (Fields Value) := document.members "get"

/-- The graph of a template document.  A given id or version stands in place of the document's. -/
def readGraph (document : Value) (templateId version : Value) : Except Fault FlowGraph := do
  let data ← documentFields document
  let id := optionalText (templateId.orElse (Value.field data "id"))
  match Value.field data "nodes" with
  | .list (first :: others) =>
    let draft ← Draft.addNodes ⟨[], []⟩ 0 (first :: others)
    let entry := (Value.field data "entryNodeId").orElse (Value.field data "entry_node_id")
    let draft ← draft.checkEntry entry
    let draft ← draft.checkNodes
    if !draft.problems.isEmpty then
      .error (.malformedGraph "Template failed validation" id draft.problems)
    else
      let version := (version.orElse (Value.field data "version")).orElse (.text "1")
      .ok {
        id := id
        version := version.display
        entry := linkName entry
        nodes := draft.nodes.map fun field => (field.1, field.2.mapTargets linkName)
        tenantId := (Value.field data "tenantId").orElse (Value.field data "tenant_id")
        name := Value.field data "name"
        metadata := ← optionalTable (Value.field data "metadata") }
  | _ => .error (.malformedGraph "Template has no nodes" id ["nodes must be a non-empty list"])

end Parley.Template
