import Parley.Record.Shape
import Parley.Time.Stamp
import Parley.Outcomes.Collector

/-!
# Parley.Service.Query — the documents and the named texts of calls
-/

namespace Parley.Service

open Record (Checked Shape)
open Time (Moment)

/-- A field that has to be there. -/
def required {α : Type} (fields : Fields Value) (name : String) (shape : Shape α) : Checked α :=
  Checked.under (.text name) <|
    match fields.get? name with
    | some v => shape.read v
    | none => .wrong .missing

/-- A field that may be missing. -/
def optional {α : Type} (fields : Fields Value) (name : String) (shape : Shape α) (default : α) :
    Checked α :=
  match fields.get? name with
  | some v => (shape.read v).under (.text name)
  | none => .sound default

/-- Null, or a value of a shape. -/
def orNull {α : Type} (shape : Shape α) : Shape (Option α) where
  write a := (a.map shape.write).getD .null
  read
    | .null => .sound none
    | v => (shape.read v).map some

/-- The fields of a call's document. -/
def bodyFields {α : Type} (body : Value) (read : Fields Value → Checked α) : Checked α :=
  Checked.under (.text "body") <|
    match body with
    | .null => .wrong .missing
    | .object fields => read fields
    | _ => .wrong .notFields

/-- A template as it is handed in. -/
structure TemplateRequest where
  nodes : List (Fields Value)
  entryNodeId : String
  version : Option String
  name : Option String
  tenantId : Option String
  metadata : Fields Value

def TemplateRequest.read (body : Value) : Checked TemplateRequest :=
  bodyFields body fun fields =>
    TemplateRequest.mk <$> required fields "nodes" (.listOf .table)
      <*> required fields "entryNodeId" .text <*> optional fields "version" .textOrNone none
      <*> optional fields "name" .textOrNone none <*> optional fields "tenantId" .textOrNone none
      <*> optional fields "metadata" .table []

/-- The template's document, without the fields that are null. -/
def TemplateRequest.document (t : TemplateRequest) : Value :=
  let given (name : String) (s : Option String) : Fields Value :=
    match s with
    | some s => [(name, .text s)]
    | none => []
  .object ([("nodes", .list (t.nodes.map .object)), ("entryNodeId", .text t.entryNodeId)]
    ++ given "version" t.version ++ given "name" t.name ++ given "tenantId" t.tenantId
    ++ [("metadata", .object t.metadata)])

/-- A message as it is handed in. -/
structure MessageRequest where
  tenantId : String
  userId : String
  sessionId : String
  templateId : String
  text : Option String
  priorState : Option (Fields Value)

def MessageRequest.read (body : Value) : Checked MessageRequest :=
  bodyFields body fun fields =>
    MessageRequest.mk <$> required fields "tenant_id" .text <*> required fields "user_id" .text
      <*> required fields "session_id" .text <*> required fields "template_id" .text
      <*> optional fields "message" .textOrNone none
      <*> optional fields "prior_state" (orNull .table) none

/-! ### Named texts -/

def moment : Shape (Option Moment) where
  write m := (m.map fun m => Value.text m.iso).getD .null
  read
    | .text s => (Checked.ofOption .noMomentText (Time.readStamp? s)).map some
    | _ => .wrong .noMomentText

def path : Shape (Option Path) where
  write p := (p.map fun p => Value.text p.name).getD .null
  read v := (Checked.ofOption .noMember (v.text?.bind Path.ofName?)).map some

/-- A named text of a call. -/
def named {α : Type} (query : Fields String) (name : String) (shape : Shape α) (default : α) :
    Checked α :=
  match query.get? name with
  | some s => ((shape.read (.text s)).under (.text name)).under (.text "query")
  | none => .sound default

def filter (query : Fields String) : Checked Outcomes.Filter :=
  (fun engine template start finish => ⟨engine, start, finish, template, none⟩)
    <$> named query "engine" path none <*> named query "template_id" Shape.textOrNone none
    <*> named query "from" moment none <*> named query "to" moment none

end Parley.Service
