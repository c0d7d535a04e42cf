import Parley.Time.Clock

/-!
# Parley.Action — what is done in time

An action works on a world, may fail, and may pause.  It is a tree: between two pauses it looks at
the world and changes it without anyone else having a turn.  `Action.run` does an action alone, so
that a pause only turns the clock; several actions at a time are the matter of `Parley.Schedule`.
`Action.within` gives an action a limit: a pause that would reach the limit ends it there, and no
handler of faults sees that.
-/

namespace Parley

open Time (Clock Clocked Moment Seconds)

/-- A world with a part of type `α` in it. -/
class Holds (σ α : Type) where
  part : σ → α
  replace : σ → α → σ

instance {σ ρ : Type} : Holds (σ × ρ) σ where
  part := Prod.fst
  replace w a := (a, w.2)

instance {σ ρ : Type} [Clocked σ] : Clocked (σ × ρ) where
  clock w := Clocked.clock w.1
  setClock w c := (Clocked.setClock w.1 c, w.2)

/-- What ends a pause: something in the world, or a reading of the clock. -/
structure Wake (σ : Type) where
  ready : σ → Bool
  limit : Option Seconds

/-- An action on a world of type `σ`. -/
inductive Action (σ α : Type) : Type
  | finished (outcome : Except Fault α)
  | look (next : σ → Action σ α)
  | put (world : σ) (next : Action σ α)
  | pause (wake : Wake σ) (next : Action σ α)

namespace Action

variable {σ τ α β : Type}

def result (a : α) : Action σ α := finished (.ok a)

/-- Ends with a fault. -/
def fail (f : Fault) : Action σ α := finished (.error f)

/-- The result of a computation that needs no world. -/
def ofExcept (outcome : Except Fault α) : Action σ α := finished outcome

/-- One action after the other; a fault of the first one ends both. -/
def andThen : Action σ α → (α → Action σ β) → Action σ β
  | finished (.ok a), f => f a
  | finished (.error e), _ => finished (.error e)
  | look next, f => look fun w => (next w).andThen f
  | put w next, f => put w (next.andThen f)
  | pause wake next, f => pause wake (next.andThen f)

instance : Monad (Action σ) where
  pure := result
  bind := andThen

/-- A computation that needs no world, among actions. -/
instance : MonadLift (Except Fault) (Action σ) := ⟨ofExcept⟩

@[simp] theorem bind_eq (x : Action σ α) (f : α → Action σ β) : x >>= f = x.andThen f := rfl
@[simp] theorem pure_eq (a : α) : (pure a : Action σ α) = finished (.ok a) := rfl

theorem result_andThen (a : α) (f : α → Action σ β) : (result a).andThen f = f a := rfl
theorem fail_andThen (e : Fault) (f : α → Action σ β) : (fail e).andThen f = fail e := rfl

/-- The outcome of an action as a value. -/
def attempt : Action σ α → Action σ (Except Fault α)
  | finished outcome => finished (.ok outcome)
  | look next => look fun w => (next w).attempt
  | put w next => put w next.attempt
  | pause wake next => pause wake next.attempt

/-- Goes on with a handler after a fault. -/
def recover (x : Action σ α) (handler : Fault → Action σ α) : Action σ α :=
  x.attempt.andThen fun
    | .ok a => result a
    | .error f => handler f

/-- Replaces the fault that an action ends with. -/
def mapFault (x : Action σ α) (f : Fault → Fault) : Action σ α :=
  x.recover fun fault => fail (f fault)

/-- An action, and then another one whether the first one failed or not. -/
def ensuring (x : Action σ α) (close : Action σ Unit) : Action σ α :=
  x.attempt.andThen fun outcome => close.andThen fun _ => finished outcome

/-! ### The world -/

/-- A computation on the world. -/
def ofState (f : σ → α × σ) : Action σ α := look fun w => put (f w).2 (result (f w).1)

def world : Action σ σ := look result
def change (f : σ → σ) : Action σ Unit := ofState fun w => ((), f w)

/-- A part of the world. -/
def view (α : Type) [Holds σ α] : Action σ α := look fun w => result (Holds.part w)

/-- A computation on a part of the world. -/
def onPart {α : Type} [Holds σ α] (f : α → β × α) : Action σ β :=
  ofState fun w => ((f (Holds.part w)).1, Holds.replace w (f (Holds.part w)).2)

/-- Changes a part of the world. -/
def update {α : Type} [Holds σ α] (f : α → α) : Action σ Unit := onPart fun a : α => ((), f a)

/-- A computation on a part of the world that may fail. -/
def tryPart {α : Type} [Holds σ α] (f : α → Except Fault β × α) : Action σ β :=
  (onPart f).andThen ofExcept

/-- An action on what `get` shows of a world as an action on the world. -/
def through (get : τ → σ) (set : τ → σ → τ) : Action σ α → Action τ α
  | finished outcome => finished outcome
  | look next => look fun w => (next (get w)).through get set
  | put part next => look fun w => put (set w part) (next.through get set)
  | pause wake next => pause ⟨fun w => wake.ready (get w), wake.limit⟩ (next.through get set)

/-- An action on a part of the world as an action on the world. -/
def inside [Holds τ σ] (x : Action σ α) : Action τ α := x.through Holds.part Holds.replace

/-- Does an action that has something of its own beside the world, which nobody else sees. -/
def withOwn {ρ : Type} (own : ρ) : Action (σ × ρ) α → Action σ (α × ρ)
  | finished outcome => finished (outcome.map fun a => (a, own))
  | look next => look fun w => (next (w, own)).withOwn own
  | put (w, own) next => put w (next.withOwn own)
  | pause wake next => pause ⟨fun w => wake.ready (w, own), wake.limit⟩ (next.withOwn own)

/-! ### Time -/

/-- Lets others have a turn. -/
def giveWay : Action σ Unit := pause ⟨fun _ => true, none⟩ (result ())

section Clock

variable [Clocked σ]

def clock : Action σ Clock := look fun w => result (Clocked.clock w)
def reading : Action σ Seconds := look fun w => result (Clocked.clock w).reading
def now : Action σ Moment := look fun w => result (Clocked.clock w).now

/-- Waits for some seconds. -/
def wait (span : Seconds) : Action σ Unit :=
  look fun w =>
    if span ≤ 0 then giveWay
    else pause ⟨fun _ => false, some ((Clocked.clock w).reading + span)⟩ (result ())

end Clock

end Action

/-- Whether a pause that only a reading ends is over before a limit. -/
def Wake.endsBefore {σ : Type} (wake : Wake σ) (limit : Seconds) : Bool :=
  match wake.limit with
  | some reading => reading < limit
  | none => false

/-- The world when a pause is over for an action that is alone. -/
def Wake.awaited {σ : Type} [Clocked σ] (wake : Wake σ) (w : σ) : σ :=
  if wake.ready w then w
  else
    match wake.limit with
    | some reading => Clocked.setClock w ((Clocked.clock w).turnTo reading)
    | none => w

namespace Action

variable {σ α β : Type} [Clocked σ]

/-- Does an action alone. -/
def run : Action σ α → σ → Except Fault α × σ
  | finished outcome, w => (outcome, w)
  | look next, w => (next w).run w
  | put w next, _ => next.run w
  | pause wake next, w => next.run (wake.awaited w)

/-- What came of an action with a limit. -/
inductive Timed (α : Type)
  | done (value : α)
  | failed (cause : Fault)
  /-- The limit was reached after these seconds. -/
  | late (elapsed : Seconds)

def Timed.ofOutcome : Except Fault α → Timed α
  | .ok a => .done a
  | .error f => .failed f

/-- Ends an action when the clock, which stood at `start`, reads `limit`. -/
def upTo (start limit : Seconds) : Action σ α → Action σ (Timed α)
  | finished outcome => finished (.ok (.ofOutcome outcome))
  | look next => look fun w => (next w).upTo start limit
  | put w next => put w (next.upTo start limit)
  | pause wake next =>
    if wake.endsBefore limit then pause wake (next.upTo start limit)
    else
      pause { wake with limit := some limit } (look fun w =>
        if wake.ready w then next.upTo start limit
        else finished (.ok (.late ((Clocked.clock w).reading - start))))

/-- Runs an action for at most `span` seconds; without time nothing is started.  The action is a
task of its own, so others have a turn before it starts and two turns after it ends. -/
def within (span : Seconds) (x : Action σ α) : Action σ (Timed α) :=
  look fun w =>
    let start := (Clocked.clock w).reading
    let body := if span ≤ 0 then result (.late 0) else x.upTo start (start + span)
    giveWay.andThen fun _ => body.andThen fun outcome =>
      giveWay.andThen fun _ => giveWay.andThen fun _ => result outcome

end Action

end Parley
