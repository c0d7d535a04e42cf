import Parley.Engine
import Parley.Rehearsal.Stage
import Parley.World

/-!
# Parley.Rehearsal.Desk — a whole service on the stage, with engines that fail as the script says

The script tells an enhanced engine how to behave in each call; past its end the engine behaves well.
A baseline does well, fails, or claims stage visits that never were.  The stage of a whole service
holds a desk: how the baseline behaves, and the state of the conversation that is tried out.
-/

namespace Parley.Rehearsal

open Conversation (StageTransition State)
open Time (Clocked)

/-- How an engine behaves in one call. -/
inductive Behaviour
  | plain
  | fails (cause : Fault)
  | late (seconds : Number)
  | degraded (error : Option String)
  deriving DecidableEq

def Behaviour.ofValue (v : Value) : Behaviour :=
  match v with
  | .text "timeout" => fails (.moduleTimeout "enhanced_capture" (.real 2) (.real 2))
  | .text "module_error" => fails (.moduleFailed "dynamic_navigation" "bad target")
  | .text "runtime" => fails (.surprise "surprise")
  | .text "slow" => late 60
  | .text "degraded" => degraded (some "module glitch")
  | .text "degraded_silent" => degraded none
  | v =>
    match v.number? with
    | some n => late n
    | none => plain

/-- A message whose state somebody has spoilt. -/
def spoilt (m : Message) : Message :=
  { m with state := m.state.map fun s =>
      { s with
        context := s.context.put "half_written" (.bool true)
        history := s.history ++ [.text "scribble"] } }

/-- An engine that behaves in some way.  Unless it behaves well, it spoils its state first. -/
def Behaviour.engine {σ : Type} [Clocked σ] (b : Behaviour) (real : Engine σ) : Engine σ := fun m =>
  match b with
  | plain => real m
  | fails cause => Action.fail cause
  | late seconds => do
    Action.wait (.ofNumber seconds)
    real (spoilt m)
  | degraded error => do
    let reply ← real (spoilt m)
    return { reply with degraded := true, error := error }

/-- An engine that behaves by the script. -/
def scriptedEngine {α : Type} (real : Engine (Stage α)) : Engine (Stage α) := fun m => do
  match ← Stage.nextLine with
  | some line => (Behaviour.ofValue line).engine real m
  | none => real m

/-- How a baseline behaves. -/
inductive BaselineMode
  | well | fails
  | forges (stages : List StageTransition)
  deriving DecidableEq

/-- A baseline that behaves as the world says. -/
def stagedBaseline {σ : Type} [Holds σ BaselineMode] (real : Engine σ) : Engine σ := fun m => do
  match ← Action.view BaselineMode with
  | .well => real m
  | .fails => Action.fail (.baselineFailed "boom")
  | .forges stages =>
    let reply ← real m
    return { reply with stages := stages }

structure Desk where
  mode : BaselineMode
  held : Option State

def Desk.empty : Desk := ⟨.well, none⟩

instance : Holds (Stage Desk) BaselineMode where
  part w := w.part.mode
  replace w m := { w with part := { w.part with mode := m } }

instance : Holds (World (Stage Desk)) Desk where
  part w := w.surroundings.part
  replace w d := { w with surroundings := { w.surroundings with part := d } }

end Parley.Rehearsal
