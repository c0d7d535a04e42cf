import Parley.Template.Predicate
import Parley.Template.Placeholder
import Parley.Value.Arithmetic

/-!
# Parley.Template.Graph — conversation graphs

A graph is a table of nodes that name each other, so that loops are possible.  `NodeOf Target` is a
node whose links are of type `Target`: any data while a template is being read, names of nodes once
it has been accepted.
-/

namespace Parley.Template

/-- What a node does. -/
inductive NodeKind
  | message | condition | input | action | terminal
  deriving DecidableEq, Repr

def NodeKind.name : NodeKind → String
  | message => "message"
  | condition => "condition"
  | input => "input"
  | action => "action"
  | terminal => "terminal"

/-- The node waits for a message. -/
def NodeKind.isBlocking : NodeKind → Bool
  | condition | input => true
  | _ => false

/-- A test and the node that it leads to. -/
structure Branch (Target : Type) where
  predicate : Predicate
  target : Target
  deriving DecidableEq, Repr

/-- Ways to change a variable. -/
inductive Change
  | set | unset | increment
  deriving DecidableEq, Repr

def Change.name : Change → String
  | set => "set"
  | unset => "unset"
  | increment => "increment"

def Change.ofName? : String → Option Change
  | "set" => some set
  | "unset" => some unset
  | "increment" => some increment
  | _ => none

/-- A change of one variable. -/
structure Mutation where
  change : Change
  name : String
  value : Value
  deriving DecidableEq

/-- A node with links of type `Target`. -/
structure NodeOf (Target : Type) where
  id : String
  kind : NodeKind
  content : String
  metadata : Fields Value
  next : Option Target
  branches : List (Branch Target)
  /-- Where a condition goes when no branch is taken. -/
  fallback : Option Target
  /-- What a template gives in the place of a default link that it does not have: null, or blanks. -/
  noFallback : Value
  /-- The variable that an answer is stored in, null for nodes that take none. -/
  variableName : Value
  inputType : Value
  validation : Option (Fields Value)
  mutations : List Mutation
  media : Value
  buttons : List Value

/-- A node of an accepted graph. -/
abbrev FlowNode := NodeOf String

namespace NodeOf

variable {Target : Type}

def isBlocking (node : NodeOf Target) : Bool := node.kind.isBlocking

/-- The lead stage that a visit of the node reaches, if any. -/
def stage (node : NodeOf Target) : Option String :=
  let stage := (Value.field node.metadata "salesStageId").orElse
    (Value.field node.metadata "sales_stage_id")
  if stage.truthy then some stage.display else none

/-- All links of the node in the order in which they are tried. -/
def successors (node : NodeOf Target) : List Target :=
  node.next.toList ++ node.branches.map Branch.target ++ node.fallback.toList

/-- The content with its variables filled in. -/
def render (node : NodeOf Target) (context : Fields Value) : String :=
  renderText node.content context

/-- Fills in the variables of the content. -/
def fill (node : NodeOf Target) (context : Fields Value) : Except Fault String :=
  fillIn node.content context

theorem unlessLimited_fill (node : NodeOf Target) (context : Fields Value) :
    UnlessLimited (· = node.render context) (node.fill context) :=
  .of_cases (fun _ h => eq_renderText_of_fillIn h) fun _ h => isLimit_of_fillIn h

/-- The node with its links taken over by a function. -/
def mapTargets {Other : Type} (f : Target → Other) (node : NodeOf Target) : NodeOf Other :=
  { node with
    next := node.next.map f
    branches := node.branches.map fun b => ⟨b.predicate, f b.target⟩
    fallback := node.fallback.map f }

theorem successors_mapTargets {Other : Type} (f : Target → Other) (node : NodeOf Target) :
    (node.mapTargets f).successors = node.successors.map f := by
  simp only [successors, mapTargets, List.map_append, List.map_map]
  cases node.next <;> cases node.fallback <;> simp [Function.comp_def]

end NodeOf

/-- An accepted template. -/
structure FlowGraph where
  id : String
  version : String
  entry : String
  nodes : Fields FlowNode
  tenantId : Value
  name : Value
  metadata : Fields Value

namespace FlowGraph

def node? (graph : FlowGraph) (id : String) : Option FlowNode := graph.nodes.get? id

def contains (graph : FlowGraph) (id : String) : Bool := graph.nodes.has id

def nodeList (graph : FlowGraph) : List FlowNode := graph.nodes.values

def size (graph : FlowGraph) : Nat := graph.nodes.length

def successors (graph : FlowGraph) (id : String) : List String :=
  match graph.node? id with
  | some node => node.successors
  | none => []

/-- The node that any data names: only text names nodes, and lists and objects name nothing at
all. -/
def lookup (graph : FlowGraph) (id : Value) : Except Fault (Option FlowNode) :=
  match id with
  | .text s => .ok (graph.node? s)
  | v => if v.hashable then .ok none else .error (.unhashable v.kind)

end FlowGraph

end Parley.Template
