import Parley.Recovery.Fallback

/-!
# Parley.Recovery.Guard — the enhanced path with the baseline behind it

The enhanced engine has a time limit.  Its reply counts only if it is not degraded; everything else
leads to a recovery.  The enhanced engine may write to the state that it is handed, so it is handed a
copy, and the recovery starts from the original.
-/

namespace Parley.Recovery

open Conversation (Reply State)
open Time (Clocked Seconds)

/-! ### State objects -/

/-- The state objects of a turn.  The address of an object is its place. -/
abbrev Objects := List (Option State)

/-- A world with a state object that an engine is handed. -/
abbrev Handed (ε : Type) := ε × Option State

namespace Objects

/-- The objects of a turn: the state that it starts with, and a copy. -/
def ofTurn (before copied : Option State) : Objects := [before, copied]

def original : Nat := 0
def copy : Nat := 1

/-- What an object holds. -/
def read (objects : Objects) (address : Nat) : Option State := objects[address]?.join

/-- Hands an object to an action that works in the surroundings. -/
def hand {ε α : Type} (address : Nat) (x : Action (Handed ε) α) : Action (World ε × Objects) α :=
  x.through (fun w => (w.1.surroundings, read w.2 address))
    (fun w handed => ({ w.1 with surroundings := handed.1 }, w.2.set address handed.2))

end Objects

/-- An engine with a limit, and the recovery behind it.  The engine may write to its object. -/
structure Guard (ε : Type) where
  primary : Engine (Handed ε)
  manager : Manager ε
  limit : Number

/-- A reply, the path that it came by, and the recovery if there was one. -/
structure Guarded where
  reply : Reply
  path : Path
  recovered : Option Recovered

/-- The name under which the limit of the whole engine is reported. -/
def wholeEngine : String := "enhanced_engine"

/-- A failure of the enhanced path as an incident. -/
def incidentOf (f : Fault) : Incident :=
  match f with
  | .moduleTimeout .. => .ofFault .moduleTimeout f
  | .moduleFailed .. => .ofFault .moduleError f
  | f => .ofFault .unknownError f

/-- A degraded reply as an incident. -/
def degradedIncident (reply : Reply) : Incident :=
  let wording := match reply.error with
    | none | some "" => "degraded result"
    | some wording => wording
  .ofFault .degradedResult (.moduleFailed "interpreter" wording)

namespace Guard

variable {ε : Type} [Clocked ε]

/-- A guard with a limit of its own, or with the manager's; zero means no limit of its own.  The
engine leaves its object alone. -/
def new (primary : Engine ε) (manager : Manager ε) (limit : Option Number) : Guard ε :=
  let own := limit.getD 0
  ⟨fun m => Action.inside (primary m), manager,
    if own.isZero then manager.config.enhancedTimeoutSeconds else own⟩

def lateIncident (g : Guard ε) : Incident :=
  .ofFault .moduleTimeout (.moduleTimeout wholeEngine g.limit g.limit)

/-- Does a message by the baseline. -/
def fallBack (g : Guard ε) (c : FallbackContext) (o : FallbackOptions) (i : Incident) :
    Action (World ε) Guarded := do
  let r ← g.manager.recover c i o
  return ⟨r.reply, .baseline, some r⟩

/-- Takes the reply of the enhanced engine if it counts, or else falls back. -/
def conclude (g : Guard ε) (c : FallbackContext) (o : FallbackOptions) :
    Action.Timed Reply → Action (World ε) Guarded
  | .late _ => g.fallBack c o g.lateIncident
  | .failed f => g.fallBack c o (incidentOf f)
  | .done reply =>
    if reply.degraded then g.fallBack c o (degradedIncident reply)
    else return ⟨reply, .enhanced, none⟩

/-- Does a message by the enhanced engine on a copy of the state, or else by the baseline on the
state itself.  Gives also what has become of that state. -/
def runKeeping (g : Guard ε) (c : FallbackContext) (modules : List Capability)
    (o : FallbackOptions) : Action (World ε) (Guarded × Option State) := do
  let copied ← Action.ofExcept (c.before.mapM State.copy)
  let (outcome, objects) ← (Action.within (Seconds.ofNumber g.limit)
    (Objects.hand Objects.copy (g.primary ({ c with before := copied }.message modules)))).withOwn
      (Objects.ofTurn c.before copied)
  let before := Objects.read objects Objects.original
  return (← g.conclude { c with before := before } o outcome, before)

/-- Does a message by the enhanced engine, or else by the baseline. -/
def run (g : Guard ε) (c : FallbackContext) (modules : List Capability)
    (o : FallbackOptions) : Action (World ε) Guarded := do
  return (← g.runKeeping c modules o).1

/-- Does a message; the session is that of the state, or else the one given. -/
def step (g : Guard ε) (m : Message) : Action (World ε) Reply := do
  match (m.state.map (·.key)).or m.session with
  | none => Action.fail .sessionKeyRequired
  | some key => return (← g.run ⟨m.graph, key, m.graph.id, m.state, m.text⟩ m.modules {}).reply

end Guard

end Parley.Recovery
