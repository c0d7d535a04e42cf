import Parley.Enhanced.Answer
import Parley.Enhanced.Engine
import Parley.Http

/-!
# Parley.Enhanced.Capture — answers that have to be well formed

At a question with a type or validation rules, an answer is normalized and checked.  One that fails
is asked for again, up to a number of times; after that it is taken as it is.
-/

namespace Parley.Enhanced

open Conversation (Interpreter Reply State)
open Template (FlowNode)
open Time (Clocked)

/-- How often an answer is asked for, where attempts are counted, and what is said. -/
structure CaptureConfig where
  maxAttempts : Number
  attemptsKey : String
  messages : Fields Value

def defaultMessages : Fields Value :=
  [("email", .text "Please enter a valid email address."),
   ("phone", .text "Please enter a valid phone number."),
   ("number", .text "Please enter a number."),
   ("name", .text "Please enter your name using letters only."),
   ("pattern", .text "That doesn't look right, please try again.")]

def CaptureConfig.default : CaptureConfig := ⟨3, "_capture_attempts", defaultMessages⟩

/-- A service that normalizes answers, at an address. -/
structure Normalizer (σ : Type) where
  baseUrl : String
  transport : Http.Transport σ

def callFault : Fault := .moduleFailed Capability.enhancedCapture.name "normalizer call failed: <http>"

/-- Asks the service about an answer. -/
def Normalizer.normalize {σ : Type} (n : Normalizer σ) (node : FlowNode) (answer : String) :
    Action σ (Fields Value) := do
  let body := Value.object [("inputType", node.inputType), ("value", .text answer),
    ("nodeId", .text node.id)]
  match ← n.transport.post ⟨Http.trimUrl n.baseUrl ++ "/normalize", body, none⟩ with
  | .error _ => Action.fail callFault
  | .ok response =>
    let document ← Action.ofExcept response.document
    Action.ofExcept (document.members "get")

/-- An answer after all checks: its value, what was not met, and what the service said. -/
structure Checked where
  value : String
  verdict : Verdict
  message : Value

/-- The verdict after a service's word on an answer that passed the checks. -/
def serviceVerdict (answer : Fields Value) : Verdict :=
  if ((answer.get? "valid").getD (.bool true)).truthy then none else some (.text "pattern")

/-- Normalizes and checks an answer; the service is asked only about one that passes. -/
def checkFully {σ : Type} (normalizer : Option (Normalizer σ)) (node : FlowNode) (text : String) :
    Action σ Checked := do
  let value := normalizeAnswer node.inputType text
  let rules := match node.validation with
    | some fields => Value.object fields
    | none => Value.null
  let verdict ← Action.ofExcept (checkAnswer node.inputType value rules)
  match normalizer, verdict with
  | some service, none =>
    let answer ← service.normalize node value
    let normalized ← Action.ofExcept ((answer.get? "value").getD (.text value)).shown
    return ⟨normalized, serviceVerdict answer, Value.field answer "message"⟩
  | _, _ => return ⟨value, verdict, .null⟩

/-- What is said when an answer is asked for again: the service's words, the question's own, or those
for what was not met. -/
def repromptText (config : CaptureConfig) (node : FlowNode) (reason message : Value) :
    Except Fault Value := do
  let own := message.orElse (Value.field (node.validation.getD []) "message")
  if own.truthy then .ok own
  else
    let reason := reason.orElse (.text "pattern")
    if !reason.hashable then .error (.unhashable reason.kind)
    else
      let known := match reason with
        | .text name => Value.field config.messages name
        | _ => .null
      if known.truthy then .ok known else Value.require config.messages "pattern"

/-- Asks again, and notes the attempt in a copy of the state. -/
def reprompt (config : CaptureConfig) (node : FlowNode) (state : State) (reason message : Value)
    (attempts : Fields Value) (count : Value) : Except Fault Reply := do
  let noted := Value.object (attempts.put node.id count)
  let working ← state.copy
  let text ← repromptText config node reason message
  .ok { Reply.idle { working with context := working.context.put config.attemptsKey noted } with
    outputs := [⟨text, .null, node.buttons⟩]
    captured := some false }

/-- The attempts counted so far, by node. -/
def attemptsOf (config : CaptureConfig) (state : State) : Except Fault (Fields Value) :=
  ((Value.field state.context config.attemptsKey).orElse (.object [])).table

/-- The variables without the attempts at a node. -/
def forgetAttempts (config : CaptureConfig) (node : FlowNode) (attempts context : Fields Value) :
    Fields Value :=
  let rest := attempts.erase node.id
  if rest.isEmpty then context.erase config.attemptsKey
  else context.put config.attemptsKey (.object rest)

/-- Whether a further attempt is granted after these. -/
def grantsAttempt (config : CaptureConfig) (count : Value) : Except Fault Bool :=
  match count.number? with
  | some n => .ok (n < config.maxAttempts)
  | none => .error (.notOrdered "<" count.kind.name "int")

/-- The question that a message answers, if its answer is to be checked. -/
def questionAt (m : Message) : Except Fault (Option (FlowNode × State × String)) :=
  match m.state, m.text with
  | some state, some text =>
    if state.completed then .ok none
    else do
      match ← m.graph.lookup state.currentNodeId with
      | some node =>
        if node.kind = .input && (node.inputType.truthy || (node.validation.getD []) ≠ []) then
          .ok (some (node, state, text))
        else .ok none
      | none => .ok none
  | _, _ => .ok none

section Module

variable {σ : Type} [Clocked σ]

/-- Takes an answer as the message. -/
def takeAnswer (i : Interpreter) (m : Message) (state : State) (value : String) :
    Action σ Reply :=
  Engine.interpret i { m with state := some state, text := some value, session := none }

def capture (config : CaptureConfig) (normalizer : Option (Normalizer σ)) (i : Interpreter)
    (m : Message) : Action σ (Option Reply) := do
  match ← Action.ofExcept (questionAt m) with
  | none => return none
  | some (node, state, text) =>
    let checked ← checkFully normalizer node text
    let attempts ← Action.ofExcept (attemptsOf config state)
    let accept (value : String) : Action σ (Option Reply) := do
      let working ← Action.ofExcept state.copy
      let context := forgetAttempts config node attempts working.context
      return some (← takeAnswer i m { working with context := context } value)
    match checked.verdict with
    | none => accept checked.value
    | some reason =>
      let count ← Action.ofExcept (((attempts.get? node.id).getD (.int 0)).plus (.int 1))
      if ← Action.ofExcept (grantsAttempt config count) then
        return some (← Action.ofExcept
          (reprompt config node state reason checked.message attempts count))
      else accept (Unicode.strip text)

/-- Checks the answers to questions. -/
def captureModule (config : CaptureConfig) (normalizer : Option (Normalizer σ)) : Module σ where
  tag := .enhancedCapture
  before := capture config normalizer
  after _ _ := Action.result ()

end Module

end Parley.Enhanced
