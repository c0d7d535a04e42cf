import Parley.Fault
import Parley.Record.Field

/-!
# Parley.Record.Source — documents that are asked for their fields

A source is asked for a field in the shape that is needed.  An absent field, and one of another
shape, is the empty text, the empty list, and so on.
-/

namespace Parley.Record

/-- The fields of a document. -/
abbrev Source := Fields Value

namespace Source

/-- The fields of a value; only a document has some. -/
def ofValue (v : Value) : Source := v.object?.getD []

def get (s : Source) (name : String) : Value := Value.field s name

def getOr (s : Source) (name : String) (default : Value) : Value :=
  (Table.get? s name).getD default

def text? (s : Source) (name : String) : Option String := (s.get name).text?
def text (s : Source) (name : String) : String := (s.text? name).getD ""
def fields (s : Source) (name : String) : Source := ofValue (s.get name)

/-- The items of a value; only a list has some. -/
def itemsOf : Value → List Value
  | .list items => items
  | _ => []

def items (s : Source) (name : String) : List Value := itemsOf (s.get name)
def texts (s : Source) (name : String) : List String := (s.items name).filterMap Value.text?
def flag (s : Source) (name : String) : Bool := (s.get name).truthy

/-- A flag that is raised unless the source says otherwise. -/
def flagOrRaised (s : Source) (name : String) : Bool := (s.getOr name (.bool true)).truthy

def number (s : Source) (name : String) (default : Number) : Number :=
  (s.get name).number?.getD default

def int (s : Source) (name : String) (default : Int) : Int := (int? (s.get name)).getD default

end Source

/-- A member of an enumeration by its name. -/
def member {α : Type} (ofName? : String → Option α) (enumeration : String) (v : Value) :
    Except Fault α :=
  match v.text?.bind ofName? with
  | some a => .ok a
  | none => .error (.notAMember v.quoted enumeration)

def roundedReal (places : Nat) : Value → Value
  | .real x => .ofNumber ((Number.real x).roundTo places)
  | v => v

/-- Figures with fewer places: a real, or the reals in a list or a document. -/
def rounded (places : Nat) : Value → Value
  | .object fields => .object (fields.map fun (name, v) => (name, roundedReal places v))
  | .list items => .list (items.map (roundedReal places))
  | v => roundedReal places v

/-- A fault as a document: the name of its class, and for a fault of the service its wording. -/
def faultDocument (f : Fault) : Fields Value :=
  let wording : String × Value := ("message", .text f.message)
  ("error", .text f.label) ::
    match f with
    | .malformedGraph _ id problems =>
      [wording, ("template_id", .text id), ("problems", .list (problems.map .text))]
    | .transient _ attempts => [wording, ("attempts", .int attempts)]
    | .sessionKeyRequired => [wording]
    | f => if f.family = .service then [wording] else []

end Parley.Record
