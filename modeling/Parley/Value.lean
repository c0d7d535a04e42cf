import Parley.Number
import Parley.Table

/-!
# Parley.Value — dynamic data

Templates, conversation contexts and stored records hold data of any shape.  `Value` is that shape:
scalars, lists, and objects whose fields keep the order in which they were first written.
-/

namespace Parley

/-- Fields in the order of their first writing; no name occurs twice. -/
abbrev Fields (α : Type) := Table String α

/-- Data of any shape. -/
inductive Value
  | null
  | bool (value : Bool)
  | int (value : Int)
  | real (value : Float)
  | text (value : String)
  | list (items : List Value)
  | object (fields : List (String × Value))
  deriving Inhabited

/-- The shapes of data. -/
inductive Kind
  | null | bool | int | real | text | list | object
  deriving DecidableEq, Repr

namespace Value

mutual

/-- Equality of shape, order and bits: `1` and `1.0` differ, and so do two orders of fields. -/
def eqv : Value → Value → Bool
  | null, null => true
  | bool a, bool b => a = b
  | int a, int b => a = b
  | real a, real b => a = b
  | text a, text b => a = b
  | list a, list b => eqvList a b
  | object a, object b => eqvFields a b
  | _, _ => false

def eqvList : List Value → List Value → Bool
  | [], [] => true
  | a :: as, b :: bs => eqv a b && eqvList as bs
  | _, _ => false

def eqvFields : List (String × Value) → List (String × Value) → Bool
  | [], [] => true
  | (k, a) :: as, (l, b) :: bs => k = l && eqv a b && eqvFields as bs
  | _, _ => false

end

mutual

theorem eq_of_eqv : ∀ {a b : Value}, eqv a b = true → a = b
  | null, null, _ => rfl
  | bool a, bool b, h => by simpa [eqv] using h
  | int a, int b, h => by simpa [eqv] using h
  | real a, real b, h => by simpa [eqv] using h
  | text a, text b, h => by simpa [eqv] using h
  | list a, list b, h => congrArg list (eq_of_eqvList (by simpa [eqv] using h))
  | object a, object b, h => congrArg object (eq_of_eqvFields (by simpa [eqv] using h))
  | null, bool _, h | null, int _, h | null, real _, h | null, text _, h | null, list _, h
  | null, object _, h | bool _, null, h | bool _, int _, h | bool _, real _, h | bool _, text _, h
  | bool _, list _, h | bool _, object _, h | int _, null, h | int _, bool _, h | int _, real _, h
  | int _, text _, h | int _, list _, h | int _, object _, h | real _, null, h | real _, bool _, h
  | real _, int _, h | real _, text _, h | real _, list _, h | real _, object _, h
  | text _, null, h | text _, bool _, h | text _, int _, h | text _, real _, h | text _, list _, h
  | text _, object _, h | list _, null, h | list _, bool _, h | list _, int _, h
  | list _, real _, h | list _, text _, h | list _, object _, h | object _, null, h
  | object _, bool _, h | object _, int _, h | object _, real _, h | object _, text _, h
  | object _, list _, h => by simp [eqv] at h

theorem eq_of_eqvList : ∀ {a b : List Value}, eqvList a b = true → a = b
  | [], [], _ => rfl
  | a :: as, b :: bs, h => by
    have h' : eqv a b = true ∧ eqvList as bs = true := by simpa [eqvList] using h
    rw [eq_of_eqv h'.1, eq_of_eqvList h'.2]
  | [], _ :: _, h | _ :: _, [], h => by simp [eqvList] at h

theorem eq_of_eqvFields : ∀ {a b : List (String × Value)}, eqvFields a b = true → a = b
  | [], [], _ => rfl
  | (k, a) :: as, (l, b) :: bs, h => by
    have h' : (k = l ∧ eqv a b = true) ∧ eqvFields as bs = true := by simpa [eqvFields] using h
    rw [h'.1.1, eq_of_eqv h'.1.2, eq_of_eqvFields h'.2]
  | [], _ :: _, h | _ :: _, [], h => by simp [eqvFields] at h

end

mutual

theorem eqv_refl : ∀ a : Value, eqv a a = true
  | null => rfl
  | bool _ | int _ | real _ | text _ => by simp [eqv]
  | list items => by simpa [eqv] using eqvList_refl items
  | object fields => by simpa [eqv] using eqvFields_refl fields

theorem eqvList_refl : ∀ a : List Value, eqvList a a = true
  | [] => rfl
  | a :: as => by simp [eqvList, eqv_refl a, eqvList_refl as]

theorem eqvFields_refl : ∀ a : List (String × Value), eqvFields a a = true
  | [] => rfl
  | (k, a) :: as => by simp [eqvFields, eqv_refl a, eqvFields_refl as]

end

instance : DecidableEq Value := fun a b =>
  if h : eqv a b = true then isTrue (eq_of_eqv h)
  else isFalse fun e => h (e ▸ eqv_refl a)

def kind : Value → Kind
  | null => .null
  | bool _ => .bool
  | int _ => .int
  | real _ => .real
  | text _ => .text
  | list _ => .list
  | object _ => .object

/-- What counts as present: not null, false, zero, nor empty. -/
def truthy : Value → Bool
  | null => false
  | bool b => b
  | int i => i ≠ 0
  | real x => !(x == 0)
  | text s => !s.isEmpty
  | list items => !items.isEmpty
  | object fields => !fields.isEmpty

/-- The value itself if it counts as present, else the other one. -/
def orElse (a b : Value) : Value := if a.truthy then a else b

def isNull : Value → Bool
  | null => true
  | _ => false

/-- A number behind a value; truth values count as zero and one. -/
def number? : Value → Option Number
  | bool b => some (.int (if b then 1 else 0))
  | int i => some (.int i)
  | real x => some (.real x)
  | _ => none

def ofNumber : Number → Value
  | .int i => int i
  | .real x => real x

def text? : Value → Option String
  | text s => some s
  | _ => none

def object? : Value → Option (Fields Value)
  | object fields => some fields
  | _ => none

/-- A field of an object, null where it is missing. -/
def field (fields : Fields Value) (name : String) : Value := (fields.get? name).getD null

def ofOption : Option String → Value
  | none => null
  | some s => text s

mutual

/-- Equality of content: numbers by exact value, objects whatever the order of their fields. -/
def equal : Value → Value → Bool
  | null, null => true
  | text a, text b => a = b
  | list a, list b => equalList a b
  | object a, object b => a.length = b.length && within a b
  | bool a, b => scalar (.int (if a then 1 else 0)) b
  | int a, b => scalar (.int a) b
  | real a, b => scalar (.real a) b
  | _, _ => false
where
  scalar (a : Number) (b : Value) : Bool :=
    match b.number? with
    | some n => a.same n
    | none => false

def equalList : List Value → List Value → Bool
  | [], [] => true
  | a :: as, b :: bs => equal a b && equalList as bs
  | _, _ => false

/-- Each field has an equal field of its name among the others. -/
def within : List (String × Value) → List (String × Value) → Bool
  | [], _ => true
  | (k, a) :: rest, others =>
    (match Table.get? others k with
      | some b => equal a b
      | none => false) && within rest others

end

end Value

end Parley
