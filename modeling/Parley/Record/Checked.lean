import Parley.Value

/-!
# Parley.Record.Checked — values that were checked from end to end

A check names everything that is wrong with a value, not only the first thing.  `Checked` has the
flaws of both parts when two parts are put together.
-/

namespace Parley.Record

/-- What can be wrong with a value. -/
inductive Mistake
  | missing
  | notText | notInteger | brokenInteger | noIntegerText | notFinite
  | notNumber | noNumberText | notFlag | noFlagText
  | notList | notTable | notFields | noMember | noMomentText
  deriving DecidableEq, Repr

def Mistake.name : Mistake → String
  | missing => "missing"
  | notText => "string_type"
  | notInteger => "int_type"
  | brokenInteger => "int_from_float"
  | noIntegerText => "int_parsing"
  | notFinite => "finite_number"
  | notNumber => "float_type"
  | noNumberText => "float_parsing"
  | notFlag => "bool_type"
  | noFlagText => "bool_parsing"
  | notList => "list_type"
  | notTable => "dict_type"
  | notFields => "model_attributes_type"
  | noMember => "enum"
  | noMomentText => "datetime_from_date_parsing"

/-- A mistake and the way to it from the outside. -/
structure Flaw where
  place : List Value
  mistake : Mistake
  deriving DecidableEq

def Flaw.document (f : Flaw) : Value := .list [.list f.place, .text f.mistake.name]

/-- A sound value, or everything that is wrong with it. -/
inductive Checked (α : Type)
  | sound (value : α)
  | flawed (flaws : List Flaw)

namespace Checked

variable {α β : Type}

def wrong (m : Mistake) : Checked α := flawed [⟨[], m⟩]

def flaws : Checked α → List Flaw
  | sound _ => []
  | flawed fs => fs

def map (f : α → β) : Checked α → Checked β
  | sound a => sound (f a)
  | flawed fs => flawed fs

/-- Puts two parts together. -/
def apply (f : Checked (α → β)) (x : Checked α) : Checked β :=
  match f, x with
  | sound f, sound a => sound (f a)
  | f, x => flawed (f.flaws ++ x.flaws)

instance : Applicative Checked where
  pure := sound
  seq f x := f.apply (x ())

/-- The flaws of a part as flaws of the whole. -/
def under (place : Value) : Checked α → Checked α
  | sound a => sound a
  | flawed fs => flawed (fs.map fun f => { f with place := place :: f.place })

def ofOption (m : Mistake) : Option α → Checked α
  | some a => sound a
  | none => wrong m

/-- The items of a list, each checked in its place. -/
def items (check : Value → Checked α) : Nat → List Value → Checked (List α)
  | _, [] => sound []
  | position, v :: more =>
    List.cons <$> (check v).under (.int position) <*> items check (position + 1) more

theorem flaws_apply (f : Checked (α → β)) (x : Checked α) :
    (f.apply x).flaws = f.flaws ++ x.flaws := by
  cases f <;> cases x <;> simp [apply, flaws]

theorem flaws_map (f : α → β) (x : Checked α) : (x.map f).flaws = x.flaws := by
  cases x <;> rfl

end Checked

end Parley.Record
