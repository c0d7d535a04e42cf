import Parley.Template.Graph
import Parley.Time.Reader
import Parley.Value.Integer
import Parley.Document.Writer
import Parley.Digest.Sha256

/-!
# Parley.Conversation.State — where a conversation is

A state is the position of one session in its graph, the variables collected so far, and the nodes
visited so far.  `State.document` writes it as data and `State.ofDocument` reads it back.
-/

namespace Parley.Conversation

open Time (Moment)

/-- Who talks: tenant, user and session. -/
structure SessionKey where
  tenant : Value
  user : Value
  session : Value
  deriving DecidableEq, Inhabited

/-- Text parts joined by a separator; a part that is no text is a fault that names its place. -/
def joinTexts (separator : String) : Nat → List Value → Except Fault (List String)
  | _, [] => .ok []
  | position, .text s :: more => do
    .ok (s :: (← joinTexts separator (position + 1) more))
  | position, v :: _ => .error (.notJoinable position v.kind)

/-- The key as one text. -/
def SessionKey.join (key : SessionKey) : Except Fault String := do
  .ok (":".intercalate (← joinTexts ":" 0 [key.tenant, key.user, key.session]))

/-- The position of a session in its graph.  `version` counts the times it was stored.

A question may keep its answer under a number or a truth value.  `slots` holds these answers, each
with its name as it was first written; a placeholder, a test or a change of a variable names a text
and never comes upon them. -/
structure State where
  flowId : Value
  tenantId : Value
  userId : Value
  sessionId : Value
  currentNodeId : Value
  context : Fields Value
  slots : Table Value (Value × Value) := []
  history : List Value
  startedAt : Moment
  lastUpdatedAt : Moment
  completed : Bool
  version : Int
  deriving DecidableEq

namespace State

/-- The start of a conversation, before its first message. -/
def initial (graph : Template.FlowGraph) (key : SessionKey) (now : Moment) : State where
  flowId := .text graph.id
  tenantId := key.tenant
  userId := key.user
  sessionId := key.session
  currentNodeId := .text graph.entry
  context := []
  history := []
  startedAt := now
  lastUpdatedAt := now
  completed := false
  version := 0

def key (s : State) : SessionKey := ⟨s.tenantId, s.userId, s.sessionId⟩

/-- The state with an answer under a name. -/
def keep (s : State) (name answer : Value) : Except Fault State :=
  match name with
  | .text name => .ok { s with context := s.context.put name answer }
  | name =>
    if name.hashable then
      let written := ((s.slots.get? name.place).map Prod.fst).getD name
      .ok { s with slots := s.slots.put name.place (written, answer) }
    else .error (.unhashable name.kind)

/-- All variables as fields of a document, which have texts for names. -/
def bindings (s : State) : Fields Value :=
  Table.mergeAll s.context
    (s.slots.filterMap fun (_, name, answer) => name.fieldName.toOption.map (·, answer))

/-- The state as data. -/
def document (s : State) : Fields Value :=
  [("flowId", s.flowId), ("tenantId", s.tenantId), ("userId", s.userId),
    ("sessionId", s.sessionId), ("currentNodeId", s.currentNodeId),
    ("context", .object s.bindings), ("history", .list s.history),
    ("startedAt", .text s.startedAt.iso), ("lastUpdatedAt", .text s.lastUpdatedAt.iso),
    ("completed", .bool s.completed), ("version", .int s.version)]

/-- What a state says about position, variables and history. -/
def content (s : State) : Value :=
  .object [("flow_id", s.flowId), ("current_node_id", s.currentNodeId),
    ("context", .object s.bindings), ("history", .list s.history),
    ("completed", .bool s.completed)]

/-- A digest of the content, the same for any order of the variables. -/
def fingerprint (s : State) : String := Digest.Sha256.hexDigest (Document.writeSorted s.content)

/-- Whether the names of the variables are of one kind. -/
def uniform (s : State) : Bool := s.context.isEmpty || s.slots.isEmpty

/-- The fingerprint as it is taken.  The variables are put in order for it, and texts and numbers have
none between them; and the content is written, which has its limits. -/
def signature (s : State) : Except Fault String :=
  if s.uniform then (Document.composeSorted s.content).map Digest.Sha256.hexDigest
  else .error (.notOrdered "<" "str" "int")

/-- How many calls a copy takes: two for each list and object inside one another, and some for the
state itself. -/
def copyCalls (s : State) : Nat := 2 * (Value.object s.document).nesting + 4

/-- A state of its own with the same content. -/
def copy (s : State) : Except Fault State :=
  if s.copyCalls ≤ Limits.calls then .ok s else .error (.tooDeep "")

theorem copy_eq_ok {s t : State} : s.copy = .ok t ↔ s.copyCalls ≤ Limits.calls ∧ t = s := by
  unfold copy
  split
  · rename_i h
    exact ⟨fun ht => ⟨h, (Except.ok.inj ht).symm⟩, fun ⟨_, ht⟩ => congrArg Except.ok ht.symm⟩
  · rename_i h
    exact ⟨fun ht => (nomatch ht), fun ⟨h', _⟩ => absurd h' h⟩

theorem isLimit_of_copy {s : State} {f : Fault} (h : s.copy = .error f) : f.isLimit = true := by
  unfold copy at h
  split at h
  · exact nomatch h
  · exact Except.error.inj h ▸ rfl

/-- What the state of a turn that may have none is copied to. -/
theorem mapM_copy_eq_ok {before copied : Option State} (h : before.mapM copy = .ok copied) :
    copied = before ∧ before.mapM copy = .ok before := by
  cases before with
  | none => exact ⟨(Except.ok.inj h).symm, rfl⟩
  | some s =>
    obtain ⟨t, ht, hsome⟩ := exceptMap_eq_ok.mp (show s.copy.map some = .ok copied from h)
    obtain ⟨-, rfl⟩ := copy_eq_ok.mp ht
    exact ⟨hsome.symm, congrArg (Except.map some) ht⟩

theorem isLimit_of_mapM_copy {before : Option State} {f : Fault}
    (h : before.mapM copy = .error f) : f.isLimit = true := by
  cases before with
  | none => exact nomatch h
  | some s => exact isLimit_of_copy (exceptMap_eq_error.mp (show s.copy.map some = .error f from h))

theorem unlessLimited_copy (s : State) : UnlessLimited (· = s) s.copy :=
  .of_cases (fun _ h => (copy_eq_ok.mp h).2) fun _ h => isLimit_of_copy h

/-- A time in data; a missing one is now. -/
def readTime (now : Moment) (v : Value) : Except Fault Moment :=
  if !v.truthy then .ok now
  else
    match v with
    | .text s => Time.readMoment s
    | _ => .error (.wrongArgument "fromisoformat: argument must be str")

/-- A field of given type that may be missing. -/
def fieldOr (fields : Fields Value) (name : String) (default : Value) : Value :=
  (fields.get? name).getD default

/-- The state that data denotes. -/
def ofFields (now : Moment) (fields : Fields Value) : Except Fault State := do
  let flowId ← Value.require fields "flowId"
  let tenantId ← Value.require fields "tenantId"
  let userId ← Value.require fields "userId"
  let sessionId ← Value.require fields "sessionId"
  let currentNodeId ← Value.require fields "currentNodeId"
  let context ← ((Value.field fields "context").orElse (.object [])).table
  let history ← ((Value.field fields "history").orElse (.list [])).items
  let startedAt ← readTime now (Value.field fields "startedAt")
  let lastUpdatedAt ← readTime now (Value.field fields "lastUpdatedAt")
  let version ← (fieldOr fields "version" (.int 0)).integer
  .ok {
    flowId := flowId
    tenantId := tenantId
    userId := userId
    sessionId := sessionId
    currentNodeId := currentNodeId
    context := context
    history := history
    startedAt := startedAt
    lastUpdatedAt := lastUpdatedAt
    completed := (Value.field fields "completed").truthy
    version := version }

/-- What the lack of a field by its name means for each shape of data. -/
def subscriptFault (v : Value) (name : String) : Fault :=
  match v with
  | .list _ => .badSubscript .list "str"
  | .text _ => .badSubscript .text "str"
  | .object _ => .missingField name
  | v => .notSubscriptable v.kind

/-- The state that any data denotes. -/
def ofDocument (now : Moment) (v : Value) : Except Fault State :=
  match v with
  | .object fields => ofFields now fields
  | v => .error (subscriptFault v "flowId")

end State

end Parley.Conversation
