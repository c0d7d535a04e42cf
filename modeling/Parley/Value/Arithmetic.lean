import Parley.Fault

/-!
# Parley.Value.Arithmetic — sums, iteration and tables of dynamic values

What can be done with a value depends on its shape; what cannot be done is a fault that names the
shapes involved.
-/

namespace Parley.Value

def tooLargeForReal : Fault := .tooLarge "int too large to convert to float"

/-- Numbers add up, text and lists are joined; nothing else can be added. -/
def plus (a b : Value) : Except Fault Value :=
  match a, b with
  | text s, text t => .ok (text (s ++ t))
  | list xs, list ys => .ok (list (xs ++ ys))
  | _, _ =>
    match a.number?, b.number? with
    | some (.int m), some (.int n) => .ok (int (m + n))
    | some (.int m), some (.real y) =>
      if Decimal.intFitsFloat m then .ok (real (Decimal.floatOfInt m + y))
      else .error tooLargeForReal
    | some (.real x), some (.int n) =>
      if Decimal.intFitsFloat n then .ok (real (x + Decimal.floatOfInt n))
      else .error tooLargeForReal
    | some (.real x), some (.real y) => .ok (real (x + y))
    | _, _ => .error (.cannotAdd a.kind b.kind)

/-- The items of a value: of a list, the characters of text, the names of an object. -/
def items : Value → Except Fault (List Value)
  | list xs => .ok xs
  | text s => .ok (s.toList.map fun c => text c.toString)
  | object fields => .ok (fields.map fun field => text field.1)
  | v => .error (.notIterable v.kind)

/-- Lists and objects cannot name a field. -/
def hashable : Value → Bool
  | list _ | object _ => false
  | _ => true

/-- The field name that a value stands for: text is itself, any other scalar its written form in a
document. -/
def fieldName : Value → Except Fault String
  | null => .ok "null"
  | bool b => .ok (if b then "true" else "false")
  | int i => .ok (toString i)
  | real x => .ok (Decimal.Layout.json.render x)
  | text s => .ok s
  | v => .error (.unhashable v.kind)

/-- The value that stands for all scalars that name the same thing: truth values and whole doubles are
integers. -/
def place : Value → Value
  | bool b => int (if b then 1 else 0)
  | real x =>
    match Decimal.Float64.ofFloat x with
    | .finite b =>
      let (num, den) := b.ratio
      if num % den = 0 then int (if b.negative then -(num / den) else num / den) else real x
    | _ => real x
  | v => v

/-- One entry of a table: a sequence of a name and a value. -/
def entry (position : Nat) (v : Value) : Except Fault (String × Value) :=
  match v.items with
  | .error _ => .error (.entryNotSequence position)
  | .ok [name, value] => name.fieldName.map (·, value)
  | .ok other => .error (.entryLength position other.length)

/-- A table from an object or from a sequence of entries; later entries win. -/
def table (v : Value) : Except Fault (Fields Value) :=
  match v with
  | object fields => .ok fields
  | v => do
    let items ← v.items
    let step (state : Nat × Fields Value) (item : Value) : Except Fault (Nat × Fields Value) := do
      let (name, value) ← entry state.1 item
      .ok (state.1 + 1, state.2.put name value)
    let (_, fields) ← items.foldlM step (0, [])
    .ok fields

/-- The fields behind a value whose members are asked for. -/
def members (v : Value) (member : String) : Except Fault (Fields Value) :=
  match v with
  | object fields => .ok fields
  | v => .error (.noMember v.kind member)

/-- A field that has to be there. -/
def require (fields : Fields Value) (name : String) : Except Fault Value :=
  match fields.get? name with
  | some v => .ok v
  | none => .error (.missingField name)

end Parley.Value
