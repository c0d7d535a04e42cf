import Parley.Conversation.State

/-!
# Parley.Conversation.Reply — what one message brings about

A reply holds the messages for the user, the new state, the nodes entered on the way, and whether
something went wrong.
-/

namespace Parley.Conversation

/-- A message for the user. -/
structure OutputMessage where
  text : Value
  media : Value
  buttons : List Value
  deriving DecidableEq

def OutputMessage.document (m : OutputMessage) : Value :=
  .object ([("text", m.text)]
    ++ (if m.media.truthy then [("media", m.media)] else [])
    ++ (if m.buttons.isEmpty then [] else [("buttons", .list m.buttons)]))

/-- A node with a lead stage, entered at a place of the history. -/
structure StageTransition where
  nodeId : String
  stageId : String
  historyIndex : Int
  deriving DecidableEq, Repr

def StageTransition.document (t : StageTransition) : Value :=
  .list [.text t.nodeId, .text t.stageId, .int t.historyIndex]

/-- The outcome of one message. -/
structure Reply where
  outputs : List OutputMessage
  state : State
  degraded : Bool
  error : Option String
  visited : List String
  stages : List StageTransition
  /-- Whether an answer was taken; none if no question consumed the message. -/
  captured : Option Bool
  deriving DecidableEq

namespace Reply

/-- The reply that does nothing. -/
def idle (state : State) : Reply := ⟨[], state, false, none, [], [], none⟩

def completed (r : Reply) : Bool := r.state.completed

def texts (r : Reply) : List Value := r.outputs.map OutputMessage.text

/-- The reply as data. -/
def fields (r : Reply) : Fields Value :=
  [("outputs", .list (r.outputs.map (·.document))), ("degraded", .bool r.degraded),
    ("error_text", .ofOption r.error), ("visited", .list (r.visited.map .text)),
    ("stages", .list (r.stages.map (·.document))),
    ("captured", (r.captured.map Value.bool).getD .null), ("completed", .bool r.completed),
    ("state", .object r.state.document)]

/-- The reply after something went wrong inside a node. -/
def degrade (r : Reply) (wording : String) : Reply :=
  { r with degraded := true, error := some wording }

/-- The reply that ends the conversation. -/
def finish (r : Reply) : Reply := { r with state := { r.state with completed := true } }

def setContext (r : Reply) (context : Fields Value) : Reply :=
  { r with state := { r.state with context := context } }

def touch (r : Reply) (now : Time.Moment) : Reply :=
  { r with state := { r.state with lastUpdatedAt := now } }

end Reply

end Parley.Conversation
