import Parley.Engine

/-!
# Parley.Enhanced.Engine — the interpreter with modules around it

A module sees a message before the interpreter does, and may reply in its place; and it sees the
reply afterwards.  Each module is called under a time limit.  The first reply that a module gives
stands in place of the interpreter's.  Whatever goes wrong is a failure of a module or of the
interpreter.
-/

namespace Parley.Enhanced

open Conversation (Interpreter Reply)
open Time (Clocked Seconds)

/-- An addition to the interpreter. -/
structure Module (σ : Type) where
  tag : Capability
  /-- The reply in place of the interpreter's, or none. -/
  before : Interpreter → Message → Action σ (Option Reply)
  after : Message → Reply → Action σ Unit

variable {σ : Type} [Clocked σ]

/-- A fault that already names a module stays; any other one is laid to the module called. -/
def moduleFault (name : String) (cause : Fault) : Fault :=
  match cause with
  | .moduleFailed .. | .moduleTimeout .. => cause
  | f => .moduleFailed name f.message

/-- Calls a module under a limit. -/
def callModule {α : Type} (limit : Number) (tag : Capability) (call : Action σ α) :
    Action σ α := do
  match ← Action.within (Seconds.ofNumber limit) call with
  | .done a => return a
  | .failed cause => Action.fail (moduleFault tag.name cause)
  | .late elapsed => Action.fail (.moduleTimeout tag.name limit elapsed.toNumber)

/-- The modules of an engine, the interpreter they surround, and the limit for each call. -/
structure Setup (σ : Type) where
  modules : List (Module σ)
  interpreter : Interpreter
  moduleTimeout : Number

namespace Setup

/-- The modules for some abilities, in the order in which they are called. -/
def select (s : Setup σ) (tags : List Capability) : List (Module σ) :=
  (Capability.order.filter (tags.contains ·)).filterMap fun tag =>
    s.modules.find? (·.tag = tag)

/-- The first reply that a module gives. -/
def before (s : Setup σ) (m : Message) : List (Module σ) → Action σ (Option Reply)
  | [] => return none
  | module :: more => do
    match ← callModule s.moduleTimeout module.tag (module.before s.interpreter m) with
    | some reply => return some reply
    | none => s.before m more

def after (s : Setup σ) (m : Message) (reply : Reply) : List (Module σ) → Action σ Unit
  | [] => return ()
  | module :: more => do
    callModule s.moduleTimeout module.tag (module.after m reply)
    s.after m reply more

def interpreterFault (cause : Fault) : Fault := .moduleFailed "interpreter" cause.message

/-- The enhanced way to process a message. -/
def engine (s : Setup σ) : Engine σ := fun m => do
  let active := s.select m.modules
  let reply ← match ← s.before m active with
    | some reply => pure reply
    | none => (Engine.interpret s.interpreter m).mapFault interpreterFault
  s.after m reply active
  return reply

end Setup

end Parley.Enhanced
