import Parley.Complexity.Search
import Parley.Scalar

/-!
# Parley.Complexity.Signals — measurements of a graph's shape
-/

namespace Parley.Complexity

open Template (FlowGraph FlowNode NodeKind)

/-- Measurements of a graph. -/
structure Signals where
  nodeCount : Nat
  inputCount : Nat
  conditionCount : Nat
  blockingInputFraction : Number
  branchingFactor : Number
  maxChainLength : Nat
  maxSequentialInputs : Nat
  hasCycles : Bool
  hasLeadStages : Bool
  usesVariables : Bool
  deriving DecidableEq

/-- A share of a whole; zero if there is no whole. -/
def share (part whole : Nat) : Number :=
  if whole = 0 then .real 0 else .real (Number.quotient (.int part) (.int whole))

/-- The node's text may hold variables. -/
def mayHoldVariables (node : FlowNode) : Bool :=
  !node.mutations.isEmpty || (node.content.toList.contains '{' && node.content.toList.contains '}')

def countKind (graph : FlowGraph) (kind : NodeKind) : Nat :=
  graph.nodeList.countP (·.kind = kind)

/-- The shape of a graph. -/
def measure (graph : FlowGraph) : Signals :=
  let nodes := graph.nodeList
  let inputs := countKind graph .input
  let conditions := nodes.filter (·.kind = .condition)
  let found := exploreAll graph
  { nodeCount := nodes.length
    inputCount := inputs
    conditionCount := conditions.length
    blockingInputFraction := share inputs nodes.length
    branchingFactor :=
      share ((conditions.map (·.branches.length)).foldr (· + ·) 0) conditions.length
    maxChainLength := highest (chains graph found).values
    maxSequentialInputs := highest (questionRuns graph found).values
    hasCycles := !found.backLinks.isEmpty
    hasLeadStages := nodes.any (·.stage.isSome)
    usesVariables := 0 < inputs || nodes.any mayHoldVariables }

def Signals.document (s : Signals) : Value :=
  .object [("node_count", .int s.nodeCount), ("input_count", .int s.inputCount),
    ("condition_count", .int s.conditionCount),
    ("blocking_input_fraction", .ofNumber s.blockingInputFraction),
    ("branching_factor", .ofNumber s.branchingFactor),
    ("max_chain_length", .int s.maxChainLength),
    ("max_sequential_inputs", .int s.maxSequentialInputs), ("has_cycles", .bool s.hasCycles),
    ("has_lead_stages", .bool s.hasLeadStages), ("uses_variables", .bool s.usesVariables)]

end Parley.Complexity
