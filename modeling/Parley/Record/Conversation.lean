import Parley.Complexity.Analysis
import Parley.Conversation.Reply
import Parley.Record.Source
import Parley.Routing.Policy
import Parley.Template.Reader

/-!
# Parley.Record.Conversation — conversations and their parts from documents
-/

namespace Parley.Record

open Conversation (SessionKey StageTransition State)
open Template (FlowGraph)
open Time (Moment)

def sessionKey : Value → SessionKey
  | .list [tenant, user, session] => ⟨tenant, user, session⟩
  | _ => ⟨.null, .null, .null⟩

def stageTransition : Value → StageTransition
  | .list [node, stage, .int index] => ⟨node.text?.getD "", stage.text?.getD "", index⟩
  | _ => ⟨"", "", 0⟩

def capability (v : Value) : Except Fault Capability :=
  member Capability.ofName? "CapabilityTag" v

def capabilities (v : Value) : Except Fault (List Capability) :=
  (Source.itemsOf v).mapM capability

/-- A graph from its document, with a name and a version that may be given beside it. -/
def flowGraph (s : Source) : Except Fault FlowGraph :=
  Template.readGraph (s.get "template") (s.get "template_id") (s.get "version")

/-- A state with some of its fields replaced. -/
def replaceFields (now : Moment) (state : State) (fields : Fields Value) : Except Fault State := do
  let kept := if fields.has "context" then [] else state.slots
  let texts := { state with slots := [] }
  .ok { ← State.ofFields now (Table.mergeAll texts.document fields) with slots := kept }

/-- The verdict of an analysis: as it was given, or from the graph. -/
def assessment (g : FlowGraph) (v : Value) : Except Fault (Routing.Assessment Number) :=
  match v with
  | .object s => do
    .ok ⟨Source.number s "score" 0,
      ← member Complexity.RiskLevel.ofName? "RiskLevel" (Source.get s "risk"),
      ← capabilities (Source.get s "modules")⟩
  | _ => do
    let a ← Complexity.analyze .default g none
    .ok ⟨a.score, a.risk, a.modules⟩

end Parley.Record
