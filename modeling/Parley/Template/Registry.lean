import Parley.Template.Reader
import Parley.Document.Writer
import Parley.Digest.Sha1

/-!
# Parley.Template.Registry — templates in use

A registry keeps template documents and the graphs read from them, one graph for each version that
was in use.  A template that is refused is never put in use.
-/

namespace Parley.Template

/-- How many digits of a content hash make a version. -/
def versionDigits : Nat := 12

/-- A version that depends on nothing but the document's content. -/
def contentVersion (document : Value) : String :=
  String.ofList ((Digest.Sha1.hexDigest (Document.writeSorted document)).toList.take versionDigits)

/-- The version that a document declares, else the one of its content. -/
def documentVersion (document : Value) : Except Fault String := do
  let declared := Value.field (← documentFields document) "version"
  .ok (if declared.truthy then declared.display else contentVersion document)

/-- Documents, graphs by template and version, and the version in use of each template. -/
structure Registry where
  documents : Fields Value
  graphs : Table (String × String) FlowGraph
  active : Fields String

namespace Registry

def empty : Registry := ⟨[], [], []⟩

/-- Keeps a document without reading it. -/
def putDocument (r : Registry) (templateId : String) (document : Value) : Registry :=
  { r with documents := r.documents.put templateId document }

def activeVersion (r : Registry) (templateId : String) : Option String := r.active.get? templateId

/-- Puts a graph in use. -/
def activate (r : Registry) (templateId version : String) (graph : FlowGraph) : Registry :=
  { r with
    graphs := r.graphs.put (templateId, version) graph
    active := r.active.put templateId version }

/-- Drops the graph of the version in use if another version takes its place. -/
def retire (r : Registry) (templateId version : String) : Registry :=
  match r.active.get? templateId with
  | none => r
  | some previous =>
    if previous.isEmpty || previous = version then r
    else { r with graphs := r.graphs.erase (templateId, previous) }

def stamped (document : Value) (version : String) : Except Fault Value := do
  .ok (.object (Table.put (← document.table) "version" (.text version)))

/-- Reads a template and puts it in use under a given version, or its own. -/
def register (r : Registry) (templateId : String) (document : Value) (version : Option String) :
    Except Fault (FlowGraph × Registry) := do
  let version ← match version with
    | none | some "" => documentVersion document
    | some v => pure v
  let graph ← readGraph document (.text templateId) (.text version)
  let stored ← stamped document version
  .ok (graph, (r.putDocument templateId stored).activate templateId version graph)

/-- The graph of a template as its document now stands. -/
def fetch (r : Registry) (templateId : String) : Except Fault (FlowGraph × Registry) :=
  match r.documents.get? templateId with
  | none | some .null => .error (.unknownTemplate templateId)
  | some document => do
    let version ← documentVersion document
    match r.graphs.get? (templateId, version) with
    | some graph => .ok (graph, r)
    | none =>
      let graph ← readGraph document (.text templateId) (.text version)
      .ok (graph, (r.retire templateId version).activate templateId version graph)

end Registry

end Parley.Template
