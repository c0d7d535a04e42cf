import Parley.Action

/-!
# Parley.Schedule — several actions at a time

Actions of one world take turns: each runs to its next pause, and then the one that has been ready
for longest has its turn.  When none is ready, the clock turns to the first reading that ends a
pause.  So what happens between two pauses of an action happens as a whole.
-/

namespace Parley

open Time (Clocked Seconds)

variable {σ α : Type}

/-- An action that ended, or what is left of it at a pause. -/
inductive Segment (σ α : Type)
  | ended (outcome : Except Fault α)
  | paused (wake : Wake σ) (rest : Action σ α)

/-- Runs an action to its next pause. -/
def Action.segment : Action σ α → σ → Segment σ α × σ
  | finished outcome, w => (.ended outcome, w)
  | look next, w => (next w).segment w
  | put w next, _ => next.segment w
  | pause wake next, w => (.paused wake next, w)

/-- An action at a pause. -/
structure Parked (σ α : Type) where
  id : Nat
  wake : Wake σ
  rest : Action σ α

/-- Whether a reading ends the pause.  Readings closer than a billionth of a second are one. -/
def Parked.due (p : Parked σ α) (reading : Seconds) : Bool :=
  match p.wake.limit with
  | some limit => limit < reading + .ofNumber (.real 1e-9)
  | none => false

/-- Actions that share a world: those that are ready, in the order of their turns, those at a pause,
and the outcomes of the others. -/
structure Schedule (σ α : Type) where
  world : σ
  ready : List (Nat × Action σ α)
  parked : List (Parked σ α)
  outcomes : List (Nat × Except Fault α)

namespace Schedule

/-- A world without actions. -/
def new (world : σ) : Schedule σ α := ⟨world, [], [], []⟩

/-- Adds an action; its turn comes last. -/
def spawn (s : Schedule σ α) (id : Nat) (action : Action σ α) : Schedule σ α :=
  { s with ready := s.ready ++ [(id, action)] }

def outcome? (s : Schedule σ α) (id : Nat) : Option (Except Fault α) :=
  (s.outcomes.find? (·.1 = id)).map (·.2)

/-- Makes some of the actions at a pause ready. -/
def release (s : Schedule σ α) (released : Parked σ α → Bool) : Schedule σ α :=
  { s with
    ready := s.ready ++ (s.parked.filter released).map fun p => (p.id, p.rest)
    parked := s.parked.filter fun p => !released p }

/-- Puts an action that had its turn in its place. -/
def place (s : Schedule σ α) (id : Nat) : Segment σ α → Schedule σ α
  | .ended outcome => { s with outcomes := s.outcomes ++ [(id, outcome)] }
  | .paused wake rest =>
    if wake.ready s.world then s.spawn id rest
    else { s with parked := s.parked ++ [⟨id, wake, rest⟩] }

/-- The turn of one action.  Those whose pause it ends go before it. -/
def turn (s : Schedule σ α) (id : Nat) (action : Action σ α) (others : List (Nat × Action σ α)) :
    Schedule σ α :=
  let (segment, world) := action.segment s.world
  ({ s with world := world, ready := others }.release fun p => p.wake.ready world).place id segment

/-- Gives turns until no action is ready, but not more than a number of turns. -/
def settle : Nat → Schedule σ α → Schedule σ α
  | 0, s => s
  | turns + 1, s =>
    match s.ready with
    | [] => s
    | (id, action) :: others => settle turns (s.turn id action others)

/-- The first reading that ends a pause. -/
def nextLimit (s : Schedule σ α) : Option Seconds :=
  s.parked.foldl (fun first p =>
    match first, p.wake.limit with
    | some a, some b => if b < a then some b else some a
    | none, limit => limit
    | first, none => first) none

section Clock

variable [Clocked σ]

/-- Turns the clock, which ends pauses. -/
def ring (s : Schedule σ α) (reading : Seconds) : Schedule σ α :=
  { s with world := Clocked.setClock s.world ((Clocked.clock s.world).turnTo reading) }.release
    (·.due reading)

/-- Gives turns and turns the clock until some actions have ended or nothing can happen, but not
more than a number of times. -/
def await (ids : List Nat) : Nat → Schedule σ α → Schedule σ α
  | 0, s => s
  | turns + 1, s =>
    if ids.all fun id => (s.outcome? id).isSome then s
    else
      match s.ready with
      | (id, action) :: others => await ids turns (s.turn id action others)
      | [] =>
        match s.nextLimit with
        | some reading => await ids turns (s.ring reading)
        | none => s

end Clock

end Schedule

end Parley
