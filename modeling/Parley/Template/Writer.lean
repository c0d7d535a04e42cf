import Parley.Template.Graph

/-!
# Parley.Template.Writer — graphs as template documents

The written form uses one name and one shape for each field, and leaves out what a node does not
have.
-/

namespace Parley.Template

open Value (text bool)

def Predicate.document (p : Predicate) : Value :=
  .object [("type", text p.matchType.name), ("value", text p.value),
    ("caseSensitive", bool p.caseSensitive)]

def Branch.document (b : Branch String) : Value :=
  .object [("condition", b.predicate.document), ("nextNodeId", text b.target)]

def defaultDocument (target : String) : Value :=
  .object [("condition", .object [("type", text "default")]), ("nextNodeId", text target)]

def Mutation.document (m : Mutation) : Value :=
  .object [("op", text m.change.name), ("name", text m.name), ("value", m.value)]

namespace NodeOf

/-- The links: a list of conditions, or the one link of a node without conditions. -/
def linksDocument (node : FlowNode) : Fields Value :=
  if !node.branches.isEmpty || node.fallback.isSome then
    [("next", .list (node.branches.map Branch.document
      ++ node.fallback.toList.map defaultDocument))]
  else
    match node.next with
    | some target => [("next", text target)]
    | none => []

def present (name : String) (v : Value) : Fields Value := if v.truthy then [(name, v)] else []

def document (node : FlowNode) : Value :=
  .object ([("id", text node.id), ("type", text node.kind.name), ("content", text node.content),
      ("metadata", .object node.metadata)]
    ++ node.linksDocument
    ++ present "variableName" node.variableName
    ++ present "inputType" node.inputType
    ++ present "validation" (.object (node.validation.getD []))
    ++ present "actions" (.list (node.mutations.map Mutation.document))
    ++ present "media" node.media
    ++ present "buttons" (.list node.buttons))

end NodeOf

/-- The document of a graph. -/
def FlowGraph.document (graph : FlowGraph) : Value :=
  .object [("id", text graph.id), ("version", text graph.version), ("tenantId", graph.tenantId),
    ("name", graph.name), ("entryNodeId", text graph.entry),
    ("metadata", .object graph.metadata), ("nodes", .list (graph.nodeList.map NodeOf.document))]

end Parley.Template
