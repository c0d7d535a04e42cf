import Parley.Enhanced.Engine
import Parley.Unicode.Words

/-!
# Parley.Enhanced.Navigation — moving about by keywords

Some phrases take a conversation back to the question before, to its start, or to a node that a
template names.  A node that was visited too often of late is not gone to again.
-/

namespace Parley.Enhanced

open Conversation (Interpreter Reply State)
open Template (FlowGraph)
open Time (Clocked)

/-- The phrases, and how often a node may be visited within the latest part of the history. -/
structure NavigationConfig where
  keywords : Fields Value
  loopWindow : Int
  maxVisitsInWindow : Number

def backAction : String := "back"
def restartAction : String := "restart"

def defaultKeywords : Fields Value :=
  [("back", .text backAction), ("go back", .text backAction), ("menu", .text restartAction),
   ("main menu", .text restartAction), ("restart", .text restartAction),
   ("start over", .text restartAction)]

def NavigationConfig.default : NavigationConfig := ⟨defaultKeywords, 10, 2⟩

/-- The form in which a template's phrase is known. -/
def keywordPhrase (phrase : String) : String := Unicode.lowercase (Unicode.strip phrase)

/-- The fields of an optional table of settings. -/
def settingsTable (v : Value) (member : String) : Except Fault (Fields Value) :=
  if v.truthy then v.members member else .ok []

/-- The phrases of the configuration and of the template, which come later and win. -/
def keywordsFor (config : NavigationConfig) (graph : FlowGraph) : Except Fault (Fields Value) := do
  let navigation ← settingsTable (Value.field graph.metadata "navigation") "get"
  let own ← settingsTable (Value.field navigation "keywords") "items"
  .ok (config.keywords.mergeAll
    (own.map fun entry => (keywordPhrase entry.1, .text entry.2.display)))

/-- The form in which a message is compared with the phrases. -/
def messagePhrase (text : String) : String :=
  Unicode.stripIf (fun c => c = ' ' || c = '.' || c = '!' || c = '?')
    (Unicode.singleSpaced (Unicode.lowercase text))

/-- The latest node of a history that waits for a message and is not the current one. -/
def lastQuestion (graph : FlowGraph) (current : Value) :
    (latestFirst : List Value) → Except Fault (Option Value)
  | [] => .ok none
  | id :: earlier => do
    match ← graph.lookup id with
    | some node =>
      if node.isBlocking && !id.equal current then .ok (some id)
      else lastQuestion graph current earlier
    | none => lastQuestion graph current earlier

def missingTarget (action : Value) : Fault :=
  .moduleFailed Capability.dynamicNavigation.name
    ("navigation target '" ++ action.display ++ "' does not exist")

/-- The node that an action leads to, if any. -/
def resolveTarget (graph : FlowGraph) (state : State) (action : Value) :
    Except Fault (Option Value) :=
  if action = .text restartAction then .ok (some (.text graph.entry))
  else if action = .text backAction then
    lastQuestion graph state.currentNodeId state.history.dropLast.reverse
  else do
    match ← graph.lookup action with
    | some _ => .ok (some action)
    | none => .error (missingTarget action)

/-- The last `window` entries; all of them for zero, and for a negative window all but the first
ones. -/
def latest {α : Type} (window : Int) (xs : List α) : List α :=
  if 0 < window then xs.drop (xs.length - window.toNat) else xs.drop (-window).toNat

/-- The node was visited too often of late. -/
def isCircular (config : NavigationConfig) (state : State) (target : Value) : Bool :=
  let visits := (latest config.loopWindow state.history).countP (·.equal target)
  config.maxVisitsInWindow.less (.int visits)

/-- The node that a message asks for, with the state it is asked in. -/
def navigationTarget (config : NavigationConfig) (m : Message) :
    Except Fault (Option (State × Value)) :=
  match m.state, m.text with
  | some state, some text =>
    if state.completed || text.isEmpty then .ok none
    else do
      match (← keywordsFor config m.graph).get? (messagePhrase text) with
      | none | some .null => .ok none
      | some action =>
        match ← resolveTarget m.graph state action with
        | none => .ok none
        | some target =>
          if isCircular config state target then .ok none else .ok (some (state, target))
  | _, _ => .ok none

section Module

variable {σ : Type} [Clocked σ]

def navigate (config : NavigationConfig) (i : Interpreter) (m : Message) :
    Action σ (Option Reply) := do
  match ← Action.ofExcept (navigationTarget config m) with
  | none => return none
  | some (state, target) =>
    return some (← Action.ofExcept (i.advance m.graph state target (← Action.now)))

/-- Lets users move about by keywords. -/
def navigationModule (config : NavigationConfig) : Module σ where
  tag := .dynamicNavigation
  before := navigate config
  after _ _ := Action.result ()

end Module

end Parley.Enhanced
