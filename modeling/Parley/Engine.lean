import Parley.Action
import Parley.Capability
import Parley.Conversation.Interpreter

/-!
# Parley.Engine — ways to process one message

An engine turns a message into a reply.  It gets a state and returns another one; it stores nothing.
`baseline` is the plain interpreter.
-/

namespace Parley

open Template (FlowGraph)
open Conversation (State SessionKey Reply Interpreter)
open Time (Clocked)

/-- What an engine is asked: a message for a conversation, and the abilities to use. -/
structure Message where
  graph : FlowGraph
  state : Option State
  text : Option String
  session : Option SessionKey
  modules : List Capability

/-- A way to process a message. -/
abbrev Engine (σ : Type) := Message → Action σ Reply

namespace Engine

variable {σ : Type} [Clocked σ]

/-- The interpreter on a message. -/
def interpret (i : Interpreter) (m : Message) : Action σ Reply := do
  Action.ofExcept (i.step m.graph m.state m.text m.session (← Action.now))

def baselineFault (cause : Fault) : Fault :=
  .baselineFailed ("Baseline step failed: " ++ cause.message)

/-- The plain interpreter; what it cannot handle is a failure of the baseline. -/
def baseline (i : Interpreter) : Engine σ := fun m => (interpret i m).mapFault baselineFault

end Engine

end Parley
