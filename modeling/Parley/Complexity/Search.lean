import Parley.Template.Graph

/-!
# Parley.Complexity.Search — a graph explored in depth

The nodes that can be reached from the entry are explored in depth, links in their order.  A search
keeps the nodes that are being explored, and takes one step for each link and one to end each node: a
link to a node that is being explored leads back, a link to a new node is followed at once, and a node
without links left is noted.
-/

namespace Parley.Complexity

open Template (FlowGraph)

/-- The first occurrences of each value, in order. -/
def distinct {α : Type} [DecidableEq α] (xs : List α) : List α :=
  xs.foldl (fun seen x => if x ∈ seen then seen else seen ++ [x]) []

/-- The nodes that a node links to, each once. -/
def children (graph : FlowGraph) (id : String) : List String := distinct (graph.successors id)

/-- What was found: nodes in the order in which their exploration ended, and links that lead
back. -/
structure Explored where
  postorder : List String
  backLinks : List (String × String)
  deriving DecidableEq, Repr

/-- A node being explored, and the nodes that it links to and that were not looked at yet. -/
structure Visit where
  id : String
  rest : List String
  deriving DecidableEq, Repr

/-- A search under way: the nodes being explored, each reached from the one after it, and what was
found so far. -/
structure Search where
  path : List Visit
  found : Explored
  deriving DecidableEq, Repr

namespace Search

/-- At the entry of a graph. -/
def start (graph : FlowGraph) : Search := ⟨[⟨graph.entry, children graph graph.entry⟩], ⟨[], []⟩⟩

/-- Looks at the next link of the node reached last, or ends that node when there is none. -/
def step (graph : FlowGraph) (s : Search) : Search :=
  match s.path with
  | [] => s
  | ⟨id, []⟩ :: below => ⟨below, { s.found with postorder := s.found.postorder ++ [id] }⟩
  | ⟨id, child :: rest⟩ :: below =>
    let path := ⟨id, rest⟩ :: below
    if child ∈ path.map Visit.id then
      ⟨path, { s.found with backLinks := s.found.backLinks ++ [(id, child)] }⟩
    else if child ∈ s.found.postorder then ⟨path, s.found⟩
    else ⟨⟨child, children graph child⟩ :: path, s.found⟩

/-- So many steps, or fewer if the search is over. -/
def run (graph : FlowGraph) : Nat → Search → Search
  | 0, s => s
  | steps + 1, s => run graph steps (s.step graph)

end Search

/-- One step for each node and each of its links. -/
def effort (graph : FlowGraph) : Nat :=
  (graph.nodes.names.map fun id => (children graph id).length + 1).foldr (· + ·) 0

/-- Explores a graph from its entry. -/
def exploreAll (graph : FlowGraph) : Explored :=
  (Search.run graph (effort graph) (Search.start graph)).found

/-- The children of a node that a search has explored before it, other than by links that lead
back. -/
def forwardChildren (graph : FlowGraph) (found : Explored) (known : Fields Nat) (id : String) :
    List String :=
  (children graph id).filter fun child => (id, child) ∉ found.backLinks && known.has child

def highest (values : List Nat) : Nat := values.foldl max 0

/-- Notes the height of a node, which depends on the highest of its children. -/
def noteHeight (graph : FlowGraph) (found : Explored) (height : String → Nat → Nat)
    (known : Fields Nat) (id : String) : Fields Nat :=
  known.put id (height id (highest ((forwardChildren graph found known id).filterMap known.get?)))

/-- The heights of all nodes, from the ends of the graph up. -/
def heights (graph : FlowGraph) (found : Explored) (height : String → Nat → Nat) : Fields Nat :=
  found.postorder.foldl (noteHeight graph found height) []

/-- A chain is one node longer than what follows it. -/
def chainHeight (_ : String) (below : Nat) : Nat := 1 + below

/-- A question lengthens a row of questions; a condition or an end breaks it. -/
def runHeight (graph : FlowGraph) (id : String) (below : Nat) : Nat :=
  match graph.node? id with
  | none => 0
  | some node =>
    match node.kind with
    | .condition | .terminal => 0
    | .input => 1 + below
    | .message | .action => below

/-- The length of the longest chain from each node, chains that lead back aside. -/
def chains (graph : FlowGraph) (found : Explored) : Fields Nat := heights graph found chainHeight

/-- The number of questions in a row from each node on. -/
def questionRuns (graph : FlowGraph) (found : Explored) : Fields Nat :=
  heights graph found (runHeight graph)

end Parley.Complexity
