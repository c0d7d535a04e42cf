import Parley.Fault

/-!
# Parley.Value.Limits — how long numbers and how deep data may be

A whole number has a text, and a text denotes one, only up to a number of digits.  Whoever goes
through data takes a call for each list or object that he is inside of, and the calls run out at
some depth.  Both limits are those of a process as it starts; the calls that led to a place are left
out of account, so that each place has all of them.
-/

namespace Parley

namespace Limits

/-- The digits of the longest numbers that have a text. -/
def digits : Nat := 4300

/-- How many calls may be inside one another. -/
def calls : Nat := 1000

/-- How many lists and objects may be inside one another for whoever takes a call for each. -/
def room : Nat := calls - 1

/-- How many digits a whole number has, its sign aside. -/
def digitCount (i : Int) : Nat := (Nat.toDigits 10 i.natAbs).length

end Limits

namespace Value

mutual

/-- Goes through a value as whoever writes it does, with room for so many lists and objects. -/
def walk (doing : String) (room : Nat) : Value → Except Fault Unit
  | int i => if Limits.digitCount i ≤ Limits.digits then .ok () else .error (.tooLong none)
  | list items =>
    match room with
    | 0 => .error (.tooDeep doing)
    | room + 1 => walkList doing room items
  | object fields =>
    match room with
    | 0 => .error (.tooDeep doing)
    | room + 1 => walkFields doing room fields
  | null | bool _ | real _ | text _ => .ok ()

def walkList (doing : String) (room : Nat) : List Value → Except Fault Unit
  | [] => .ok ()
  | a :: as => do
    walk doing room a
    walkList doing room as

def walkFields (doing : String) (room : Nat) : List (String × Value) → Except Fault Unit
  | [] => .ok ()
  | (_, a) :: as => do
    walk doing room a
    walkFields doing room as

end

mutual

/-- No number is longer than the limit. -/
def brief : Value → Bool
  | int i => Limits.digitCount i ≤ Limits.digits
  | list items => briefList items
  | object fields => briefFields fields
  | null | bool _ | real _ | text _ => true

def briefList : List Value → Bool
  | [] => true
  | a :: as => brief a && briefList as

def briefFields : List (String × Value) → Bool
  | [] => true
  | (_, a) :: as => brief a && briefFields as

end

mutual

/-- How many lists and objects are inside one another. -/
def nesting : Value → Nat
  | list items => nestingList items + 1
  | object fields => nestingFields fields + 1
  | null | bool _ | int _ | real _ | text _ => 0

def nestingList : List Value → Nat
  | [] => 0
  | a :: as => max (nesting a) (nestingList as)

def nestingFields : List (String × Value) → Nat
  | [] => 0
  | (_, a) :: as => max (nesting a) (nestingFields as)

end

/-- What is being done when a value is put into a text. -/
def showing : String := " while getting the repr of an object"

/-- The value inside a message, if the limits allow it. -/
def shown (v : Value) : Except Fault String :=
  (v.walk showing Limits.room).map fun _ => v.display

/-! ### What is within the limits -/

section Walk

variable {doing : String}

mutual

theorem walk_eq_ok : ∀ {v : Value} {room : Nat},
    v.walk doing room = .ok () ↔ v.brief = true ∧ v.nesting ≤ room
  | null, _ | bool _, _ | real _, _ | text _, _ => by simp [walk, brief, nesting]
  | int i, _ => by
    unfold walk brief nesting
    split <;> simp_all
  | list items, 0 => by simp [walk, nesting]
  | list items, room + 1 => by simpa [walk, brief, nesting] using walkList_eq_ok
  | object fields, 0 => by simp [walk, nesting]
  | object fields, room + 1 => by simpa [walk, brief, nesting] using walkFields_eq_ok

theorem walkList_eq_ok : ∀ {items : List Value} {room : Nat},
    walkList doing room items = .ok () ↔ briefList items = true ∧ nestingList items ≤ room
  | [], _ => by simp [walkList, briefList, nestingList]
  | a :: as, room => by
    rw [walkList, exceptBind_eq_ok]
    simp only [briefList, nestingList, Bool.and_eq_true, Nat.max_le]
    rw [and_and_and_comm, ← walk_eq_ok, ← walkList_eq_ok]
    exact ⟨fun ⟨_, h, hrest⟩ => ⟨h, hrest⟩, fun ⟨h, hrest⟩ => ⟨(), h, hrest⟩⟩

theorem walkFields_eq_ok : ∀ {fields : List (String × Value)} {room : Nat},
    walkFields doing room fields = .ok () ↔
      briefFields fields = true ∧ nestingFields fields ≤ room
  | [], _ => by simp [walkFields, briefFields, nestingFields]
  | (_, a) :: as, room => by
    rw [walkFields, exceptBind_eq_ok]
    simp only [briefFields, nestingFields, Bool.and_eq_true, Nat.max_le]
    rw [and_and_and_comm, ← walk_eq_ok, ← walkFields_eq_ok]
    exact ⟨fun ⟨_, h, hrest⟩ => ⟨h, hrest⟩, fun ⟨h, hrest⟩ => ⟨(), h, hrest⟩⟩

end

mutual

/-- A walk is ended by a limit and by nothing else. -/
theorem isLimit_of_walk : ∀ {v : Value} {room : Nat} {f : Fault},
    v.walk doing room = .error f → f.isLimit = true
  | null, _, _, h | bool _, _, _, h | real _, _, _, h | text _, _, _, h => by simp [walk] at h
  | int i, _, _, h => by
    unfold walk at h
    split at h
    · exact nomatch h
    · exact Except.error.inj h ▸ rfl
  | list items, 0, _, h | object fields, 0, _, h => Except.error.inj h ▸ rfl
  | list items, room + 1, _, h =>
    isLimit_of_walkList (show walkList doing room items = _ from h)
  | object fields, room + 1, _, h =>
    isLimit_of_walkFields (show walkFields doing room fields = _ from h)

theorem isLimit_of_walkList : ∀ {items : List Value} {room : Nat} {f : Fault},
    walkList doing room items = .error f → f.isLimit = true
  | [], _, _, h => nomatch h
  | _ :: _, _, _, h => by
    rw [walkList, exceptBind_eq_error] at h
    rcases h with h | ⟨_, -, h⟩
    · exact isLimit_of_walk h
    · exact isLimit_of_walkList h

theorem isLimit_of_walkFields : ∀ {fields : List (String × Value)} {room : Nat} {f : Fault},
    walkFields doing room fields = .error f → f.isLimit = true
  | [], _, _, h => nomatch h
  | (_, _) :: _, _, _, h => by
    rw [walkFields, exceptBind_eq_error] at h
    rcases h with h | ⟨_, -, h⟩
    · exact isLimit_of_walk h
    · exact isLimit_of_walkFields h

end

theorem map_walk_eq_ok {α : Type} {v : Value} {room : Nat} {a b : α} :
    (v.walk doing room).map (fun _ => a) = .ok b ↔
      (v.brief = true ∧ v.nesting ≤ room) ∧ b = a := by
  rw [← walk_eq_ok]
  cases v.walk doing room with
  | ok => exact ⟨fun h => ⟨rfl, (Except.ok.inj h).symm⟩, fun ⟨_, h⟩ => congrArg Except.ok h.symm⟩
  | error f => exact ⟨fun h => (nomatch h), fun ⟨h, _⟩ => nomatch h⟩

theorem isLimit_of_map_walk {α : Type} {v : Value} {room : Nat} {a : α} {f : Fault}
    (h : (v.walk doing room).map (fun _ => a) = .error f) : f.isLimit = true := by
  cases hwalk : v.walk doing room with
  | ok => rw [hwalk] at h; exact nomatch h
  | error g =>
    rw [hwalk] at h
    exact Except.error.inj h ▸ isLimit_of_walk hwalk

end Walk

/-- So many lists, each the only item of the next one. -/
def piled : Nat → Value
  | 0 => .null
  | n + 1 => .list [piled n]

/-- Values of every depth there are. -/
theorem nesting_piled : ∀ n, (piled n).nesting = n
  | 0 => rfl
  | n + 1 => by simp [piled, nesting, nestingList, nesting_piled n]

theorem shown_eq_ok {v : Value} {s : String} :
    v.shown = .ok s ↔ (v.brief = true ∧ v.nesting ≤ Limits.room) ∧ s = v.display := map_walk_eq_ok

/-- What keeps a value from being shown is a limit. -/
theorem isLimit_of_shown {v : Value} {f : Fault} (h : v.shown = .error f) : f.isLimit = true :=
  isLimit_of_map_walk h

end Value

end Parley
