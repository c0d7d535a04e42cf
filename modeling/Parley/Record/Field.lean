import Parley.Value

/-!
# Parley.Record.Field — records with named fields

Configurations and figures are records whose fields have names in documents.  From the list of the
fields come both directions: `document` writes every field, and `overlay` replaces those that a
document has.
-/

namespace Parley.Record

/-- A field of a record of type `γ`, which can refuse values for a reason of type `ε`. -/
structure NamedField (ε γ : Type) where
  name : String
  read : γ → Value
  write : Value → γ → Except ε γ

section Document

variable {ε γ : Type}

/-- Every field of a record. -/
def document (fields : List (NamedField ε γ)) (c : γ) : Value :=
  .object (fields.map fun f => (f.name, f.read c))

/-- A record with the fields that a document has in place of its own. -/
def overlay (fields : List (NamedField ε γ)) (values : Fields Value) (base : γ) : Except ε γ :=
  fields.foldlM (fun c f =>
    match values.get? f.name with
    | some v => f.write v c
    | none => .ok c) base

theorem overlay_nil (fields : List (NamedField ε γ)) (base : γ) :
    overlay fields [] base = .ok base := by
  unfold overlay
  induction fields with
  | nil => rfl
  | cons f fields ih => exact ih

end Document

section Kinds

variable {ε γ : Type}

/-- A field that keeps its value when it is offered one of another shape. -/
def fieldOf {α : Type} (name : String) (toValue : α → Value) (ofValue? : Value → Option α)
    (get : γ → α) (set : γ → α → γ) : NamedField ε γ :=
  ⟨name, fun c => toValue (get c), fun v c => .ok (((ofValue? v).map (set c)).getD c)⟩

def numberField (name : String) : (γ → Number) → (γ → Number → γ) → NamedField ε γ :=
  fieldOf name .ofNumber Value.number?

/-- A number that may be missing. -/
def numberOrNoneField (name : String) :
    (γ → Option Number) → (γ → Option Number → γ) → NamedField ε γ :=
  fieldOf name (fun n => (n.map Value.ofNumber).getD .null) fun v => some v.number?

def int? (v : Value) : Option Int :=
  match v.number? with
  | some (.int i) => some i
  | _ => none

def intField (name : String) : (γ → Int) → (γ → Int → γ) → NamedField ε γ :=
  fieldOf name .int int?

def flagField (name : String) : (γ → Bool) → (γ → Bool → γ) → NamedField ε γ :=
  fieldOf name .bool fun v => some v.truthy

def textField (name : String) : (γ → String) → (γ → String → γ) → NamedField ε γ :=
  fieldOf name .text Value.text?

def tableField (name : String) : (γ → Fields Value) → (γ → Fields Value → γ) → NamedField ε γ :=
  fieldOf name .object Value.object?

/-- Texts in their order, each once. -/
def sortedTexts (texts : List String) : List String :=
  (texts.mergeSort fun a b => !(b < a)).eraseDups

def texts? : Value → Option (List String)
  | .list items => some (items.filterMap Value.text?)
  | _ => none

/-- A set of texts. -/
def textsField (name : String) : (γ → List String) → (γ → List String → γ) → NamedField ε γ :=
  fieldOf name (fun texts => .list ((sortedTexts texts).map .text)) texts?

end Kinds

end Parley.Record
