import Parley.Document.Writer
import Parley.Enhanced.Engine
import Parley.Http
import Parley.Stages.Dispatcher

/-!
# Parley.Rehearsal.Stage — trying a part of the service out

A stage holds the part that is rehearsed, a clock of its own, and a script: what the services around
will answer, in order.  Calls of services are noted.  Stand-ins take the place of modules.
-/

namespace Parley.Rehearsal

open Time (Clock Clocked)

/-- A part of the service, a clock, the lines that the script still has, and the calls so far. -/
structure Stage (α : Type) where
  clock : Clock
  script : List Value
  calls : List Value
  part : α

namespace Stage

variable {α : Type}

instance : Clocked (Stage α) where
  clock := Stage.clock
  setClock w c := { w with clock := c }

instance : Holds (Stage α) α where
  part := Stage.part
  replace w a := { w with part := a }

/-- Takes the next line of the script. -/
def nextLine : Action (Stage α) (Option Value) :=
  Action.ofState fun w => (w.script.head?, { w with script := w.script.tail })

def note (call : Value) : Action (Stage α) Unit :=
  Action.change fun w => { w with calls := w.calls ++ [call] }

end Stage

/-- The response that a line of a script stands for. -/
def responseOf (line : Fields Value) : Except Http.Failure Http.Response :=
  match Value.field line "fail" with
  | .text wording => .error (.connection wording)
  | _ =>
    let json := Value.field line "json"
    let body := match Value.field line "text" with
      | .text s => s
      | _ => if json.isNull then "" else Document.write json
    let status := match Value.field line "status" with
      | .int i => i
      | _ => 200
    .ok ⟨status, body⟩

/-- The response of a service whose script has come to its end. -/
def noResponse : Except Http.Failure Http.Response := .ok ⟨500, ""⟩

/-- A service that answers by the script. -/
def scripted {α : Type} : Http.Transport (Stage α) where
  send request := do
    Stage.note (.list [.text "POST", .text request.url, request.body,
      .ofOption request.authorization])
    match ← Stage.nextLine with
    | some (.object line) => return responseOf line
    | _ => return noResponse

/-- A service that cannot be reached. -/
def noService {σ : Type} : Http.Transport σ := ⟨fun _ => Action.result (.error (.connection ""))⟩

/-- A lead system that notes the advances, and fails for some stages. -/
def recordingLeads {α : Type} (failing : List String) : Stages.LeadClient (Stage α) where
  advance a := do
    Stage.note a.document
    if failing.contains a.stageId then Action.fail (.surprise "advance refused")

/-- Ways in which a module misbehaves. -/
inductive Mischief
  | missingField | ownFault | slow | failsAfter | idle
  deriving DecidableEq, Repr

def Mischief.ofName (name : String) : Mischief :=
  match name with
  | "key_error" => missingField
  | "module_error" => ownFault
  | "slow" => slow
  | "after_error" => failsAfter
  | _ => idle

/-- A module that misbehaves. -/
def Mischief.module {σ : Type} [Clocked σ] (m : Mischief) (tag : Capability) :
    Enhanced.Module σ where
  tag := tag
  before _ _ :=
    match m with
    | missingField => Action.fail (.missingField "oops")
    | ownFault => Action.fail (.moduleFailed "custom" "broken")
    | slow => do
      Action.wait (.ofNumber 60)
      return none
    | _ => return none
  after _ _ :=
    match m with
    | failsAfter => Action.fail (.surprise "after failed")
    | _ => return ()

end Parley.Rehearsal
