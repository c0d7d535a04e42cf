import Mathlib.Data.List.Induction
import Parley.Proofs.Template.Reread
import Parley.Proofs.Template.Served

/-!
# Parley.Proofs.Template.Activation — the template that was registered last is the one in use

A `Registration` is a document that can be registered, with the version that it gets and the graph that
is read from it under this version; a document without one is refused.  Whether there is one depends on
the document and the given version alone.

A registry keeps documents, graphs and versions in three tables.  `InUse` says how they agree on a
template.  `serves_latest`: whatever is registered and fetched in whatever order, the graph and the
version in use are those of the latest registration of the template, and what is refused changes
nothing.
-/

namespace Parley.Template

open Registry (versionFor)

/-! ### Registrations -/

/-- A document that can be registered, the version that was given for it, the version that it gets, and
its graph under this version. -/
structure Registration (templateId : String) where
  document : Value
  given : Option String
  version : String
  graph : FlowGraph
  versioned : versionFor document given = .ok version
  accepted : readGraph document (.text templateId) (.text version) = .ok graph

/-- The registration of a document, if it is accepted. -/
def Registration.of? (templateId : String) (document : Value) (given : Option String) :
    Option (Registration templateId) :=
  match versioned : versionFor document given with
  | .error _ => none
  | .ok version =>
    match accepted : readGraph document (.text templateId) (.text version) with
    | .error _ => none
    | .ok graph => some ⟨document, given, version, graph, versioned, accepted⟩

/-- A version always has a name: a declared one counts as missing if it has none. -/
theorem documentVersion_ne_empty {document : Value} {version : String}
    (h : documentVersion document = .ok version) : version ≠ "" := by
  obtain ⟨data, -, h⟩ := exceptBind_eq_ok.mp h
  rw [← Except.ok.inj h]
  split_ifs with hdeclared
  · exact Value.display_ne_empty hdeclared
  · exact Registry.contentVersion_ne_empty document

theorem versionFor_ne_empty {document : Value} {given : Option String} {version : String}
    (h : versionFor document given = .ok version) : version ≠ "" := by
  unfold versionFor at h
  split at h
  · exact documentVersion_ne_empty h
  · exact documentVersion_ne_empty h
  · rename_i hnamed
    exact fun hversion => hnamed ((Except.ok.inj h).trans hversion)

/-- A graph has the version that it is asked for. -/
theorem version_of_readGraph {document templateId : Value} {version : String} {graph : FlowGraph}
    (hversion : version ≠ "") (h : readGraph document templateId (.text version) = .ok graph) :
    graph.version = version := by
  obtain ⟨data, rfl⟩ := object_of_readGraph h
  obtain ⟨accepted⟩ := readGraph_eq_ok.mp h
  rw [accepted.result]
  simp [Draft.graph, Value.orElse, Value.truthy_text hversion, Value.display]

namespace Registration

variable {templateId : String} {document : Value} {given : Option String}

theorem of?_eq (reg : Registration templateId) :
    of? templateId reg.document reg.given = some reg := by
  obtain ⟨document, given, version, graph, versioned, accepted⟩ := reg
  unfold of?
  split
  · rename_i hfault
    exact nomatch hfault.symm.trans versioned
  · rename_i version' hversion
    obtain rfl : version' = version := Except.ok.inj (hversion.symm.trans versioned)
    split
    · rename_i hfault
      exact nomatch hfault.symm.trans accepted
    · rename_i graph' hgraph
      obtain rfl : graph' = graph := Except.ok.inj (hgraph.symm.trans accepted)
      rfl

theorem exists_of_of? {reg : Registration templateId} (h : of? templateId document given = some reg) :
    reg.document = document ∧ reg.given = given := by
  unfold of? at h
  split at h
  · exact nomatch h
  · split at h
    · exact nomatch h
    · rw [← Option.some.inj h]
      exact ⟨rfl, rfl⟩

end Registration

namespace Registry

variable {r r' : Registry} {templateId : String} {document : Value} {given : Option String}
  {version : String} {graph : FlowGraph}

/-- A document with a registration is registered. -/
theorem register_of_registration (r : Registry) (reg : Registration templateId) :
    ∃ stored, stamped reg.document reg.version = .ok stored ∧
      r.register templateId reg.document reg.given =
        .ok (reg.graph, (r.putDocument templateId stored).activate templateId reg.version reg.graph) := by
  obtain ⟨document, given, version, graph, versioned, accepted⟩ := reg
  obtain ⟨data, rfl⟩ := object_of_readGraph accepted
  refine ⟨_, rfl, ?_⟩
  unfold versionFor at versioned
  unfold register
  split at versioned
  · simp only [versioned, bind, Except.bind, accepted]
    rfl
  · simp only [versioned, bind, Except.bind, accepted]
    rfl
  · obtain rfl := Except.ok.inj versioned
    simp only [bind, Except.bind, pure, Except.pure, accepted]
    rfl

/-- What is registered has a registration. -/
theorem registration_of_register (h : r.register templateId document given = .ok (graph, r')) :
    ∃ reg, Registration.of? templateId document given = some reg ∧ reg.graph = graph := by
  obtain ⟨version, -, hversion, hread, -⟩ := register_eq_ok h
  let reg : Registration templateId := ⟨document, given, version, graph, hversion, hread⟩
  exact ⟨reg, reg.of?_eq, rfl⟩

/-! ### Tables that agree -/

/-- The stored document, the graph that is kept, and the active version belong together. -/
structure InUse (r : Registry) (templateId version : String) (graph : FlowGraph) : Prop where
  documented : ∃ stored, r.documents.get? templateId = some stored ∧ stored ≠ .null ∧
    documentVersion stored = .ok version
  kept : r.graphs.get? (templateId, version) = some graph
  active : r.active.get? templateId = some version

/-- The template was never put in use. -/
structure Unused (r : Registry) (templateId : String) : Prop where
  documented : r.documents.get? templateId = none
  active : r.active.get? templateId = none

/-- A graph in use is fetched as it is kept, so that fetching changes nothing. -/
theorem InUse.fetch (h : r.InUse templateId version graph) :
    r.fetch templateId = .ok (graph, r) := by
  obtain ⟨stored, hstored, hnull, hversion⟩ := h.documented
  unfold Registry.fetch
  split
  · rename_i hnone
    exact nomatch hstored.symm.trans hnone
  · rename_i hsome
    exact absurd (Option.some.inj (hstored.symm.trans hsome)) hnull
  · rename_i document _ hsome
    obtain rfl := Option.some.inj (hstored.symm.trans hsome)
    simp only [hversion, bind, Except.bind, h.kept]

theorem Unused.fetch (h : r.Unused templateId) :
    r.fetch templateId = .error (.unknownTemplate templateId) := by
  unfold Registry.fetch
  rw [h.documented]

section Put

variable {stored : Value} {other : String}

/-- **A registration puts its graph in use**, whatever was kept under its version before. -/
theorem inUse_put (hstored : stamped document version = .ok stored) (hversion : version ≠ "") :
    ((r.putDocument templateId stored).activate templateId version graph).InUse
      templateId version graph := by
  obtain ⟨hnull, hown⟩ := documentVersion_stamped hstored hversion
  exact ⟨⟨stored, Table.get?_put_self _ _ _, hnull, hown⟩, Table.get?_put_self _ _ _,
    Table.get?_put_self _ _ _⟩

/-- Other templates are in use as before. -/
theorem InUse.put_of_ne {v : String} {g : FlowGraph} (h : r.InUse other v g)
    (hother : other ≠ templateId) :
    ((r.putDocument templateId stored).activate templateId version graph).InUse other v g := by
  obtain ⟨document, hdocument, hknown⟩ := h.documented
  have hname : (other, v) ≠ (templateId, version) := fun heq => hother (congrArg Prod.fst heq)
  exact ⟨⟨document, (Table.get?_put_of_ne _ _ hother).trans hdocument, hknown⟩,
    (Table.get?_put_of_ne _ _ hname).trans h.kept, (Table.get?_put_of_ne _ _ hother).trans h.active⟩

theorem Unused.put_of_ne (h : r.Unused other) (hother : other ≠ templateId) :
    ((r.putDocument templateId stored).activate templateId version graph).Unused other :=
  ⟨(Table.get?_put_of_ne _ _ hother).trans h.documented,
    (Table.get?_put_of_ne _ _ hother).trans h.active⟩

end Put

/-! ### Series of requests -/

/-- What is asked of a registry. -/
inductive Request
  | register (templateId : String) (document : Value) (given : Option String)
  | get (templateId : String)

/-- The graph that a request asks for, and the registry after it; what fails leaves the registry as it
was. -/
def conclude (r : Registry) (outcome : Except Fault (FlowGraph × Registry)) :
    Except Fault FlowGraph × Registry :=
  match outcome with
  | .ok (graph, r') => (.ok graph, r')
  | .error f => (.error f, r)

/-- The answer to a request, and the registry after it. -/
def handle (r : Registry) : Request → Except Fault FlowGraph × Registry
  | .register templateId document given => r.conclude (r.register templateId document given)
  | .get templateId => r.conclude (r.fetch templateId)

/-- The registry after one request after the other. -/
def after (r : Registry) (requests : List Request) : Registry :=
  requests.foldl (fun r request => (r.handle request).2) r

/-- The registration of a template that a request makes. -/
def Request.registration? (templateId : String) : Request → Option (Registration templateId)
  | .register id document given =>
    if id = templateId then Registration.of? templateId document given else none
  | .get _ => none

/-- The latest registration of a template. -/
def latest (templateId : String) (requests : List Request) : Option (Registration templateId) :=
  (requests.filterMap (Request.registration? templateId)).getLast?

theorem after_concat (r : Registry) (requests : List Request) (request : Request) :
    r.after (requests ++ [request]) = ((r.after requests).handle request).2 := by
  simp [after, List.foldl_append]

theorem latest_concat (templateId : String) (requests : List Request) (request : Request) :
    latest templateId (requests ++ [request]) =
      (request.registration? templateId).or (latest templateId requests) := by
  unfold latest
  rw [List.filterMap_append]
  cases h : request.registration? templateId with
  | none => simp [h]
  | some reg => simp [h]

/-- The tables agree with the latest registration of a template. -/
def Agrees (r : Registry) (templateId : String) : Option (Registration templateId) → Prop
  | none => r.Unused templateId
  | some reg => r.InUse templateId reg.version reg.graph

theorem agrees_empty (templateId : String) : empty.Agrees templateId none := ⟨rfl, rfl⟩

/-- The graph of the latest registration, if there is one. -/
def served (templateId : String) : Option (Registration templateId) → Except Fault FlowGraph
  | none => .error (.unknownTemplate templateId)
  | some reg => .ok reg.graph

/-- What is in use is fetched from the table of graphs, and the registry stays as it is. -/
theorem Agrees.handle_get {last : Option (Registration templateId)} (h : r.Agrees templateId last) :
    r.handle (.get templateId) = (served templateId last, r) := by
  rw [Registry.handle]
  cases last with
  | none =>
    rw [Unused.fetch h]
    rfl
  | some reg =>
    rw [InUse.fetch h]
    rfl

/-- What is refused leaves the registry as it is. -/
theorem handle_register_of_refused (h : Registration.of? templateId document given = none) :
    ∃ f, r.handle (.register templateId document given) = (.error f, r) := by
  rw [handle]
  cases hregister : r.register templateId document given with
  | ok found =>
    obtain ⟨reg, hreg, -⟩ := registration_of_register hregister
    exact nomatch h.symm.trans hreg
  | error f => exact ⟨f, rfl⟩

theorem handle_register (r : Registry) (reg : Registration templateId) :
    ∃ stored, stamped reg.document reg.version = .ok stored ∧
      r.handle (.register templateId reg.document reg.given) = (.ok reg.graph,
        (r.putDocument templateId stored).activate templateId reg.version reg.graph) := by
  obtain ⟨stored, hstored, hregister⟩ := register_of_registration r reg
  refine ⟨stored, hstored, ?_⟩
  rw [handle, hregister]
  rfl

/-- **Every request keeps the tables in agreement** with what was registered last. -/
theorem Agrees.handle {latest : (templateId : String) → Option (Registration templateId)}
    (h : ∀ templateId, r.Agrees templateId (latest templateId)) (request : Request)
    (templateId : String) :
    (r.handle request).2.Agrees templateId
      ((request.registration? templateId).or (latest templateId)) := by
  cases request with
  | get id =>
    rw [(h id).handle_get]
    exact h templateId
  | register id document given =>
    cases hreg : Registration.of? id document given with
    | none =>
      have hnone : (Request.register id document given).registration? templateId = none := by
        unfold Request.registration?
        dsimp only
        split_ifs with hid
        · exact hid ▸ hreg
        · rfl
      obtain ⟨f, hrefused⟩ := handle_register_of_refused (r := r) hreg
      rw [hrefused, hnone]
      exact h templateId
    | some reg =>
      obtain ⟨rfl, rfl⟩ := Registration.exists_of_of? hreg
      obtain ⟨stored, hstored, hhandle⟩ := handle_register r reg
      rw [hhandle]
      by_cases hid : id = templateId
      · subst hid
        rw [Request.registration?, if_pos rfl, hreg]
        exact inUse_put hstored (versionFor_ne_empty reg.versioned)
      · rw [Request.registration?, if_neg hid]
        have hother : templateId ≠ id := fun heq => hid heq.symm
        have hbefore := h templateId
        revert hbefore
        cases latest templateId with
        | none => exact fun hunused => Unused.put_of_ne hunused hother
        | some last => exact fun hinUse => InUse.put_of_ne hinUse hother

theorem agrees_after (requests : List Request) (templateId : String) :
    (empty.after requests).Agrees templateId (latest templateId requests) := by
  induction requests using List.reverseRecOn generalizing templateId with
  | nil => exact agrees_empty templateId
  | append_singleton requests request ih =>
    rw [after_concat, latest_concat]
    exact Agrees.handle ih request templateId

/-- **The template that was registered last is in use.**  After any series of requests, a template
without a registration is unknown; else the graph that is fetched is the one that was read from the
document of its latest registration, under the version of this registration, which is the active one.
A document is registered if and only if it has a registration, and then its graph comes back; if it is
refused, the registry stays as it is. -/
theorem serves_latest (requests : List Request) (templateId : String) :
    ((empty.after requests).handle (.get templateId)).1 =
        served templateId (latest templateId requests) ∧
      (empty.after requests).activeVersion templateId =
        (latest templateId requests).map Registration.version ∧
      (∀ reg, latest templateId requests = some reg → reg.graph.version = reg.version) ∧
      ∀ document given, match Registration.of? templateId document given with
        | some reg =>
          ((empty.after requests).handle (.register templateId document given)).1 = .ok reg.graph
        | none => ∃ f, (empty.after requests).handle (.register templateId document given) =
          (.error f, empty.after requests) := by
  have hagrees := agrees_after requests templateId
  refine ⟨?_, ?_, fun reg _ => ?_, fun document given => ?_⟩
  · rw [hagrees.handle_get]
  · revert hagrees
    cases latest templateId requests with
    | none => exact fun hunused => hunused.active
    | some reg => exact fun hinUse => hinUse.active
  · exact version_of_readGraph (versionFor_ne_empty reg.versioned) reg.accepted
  · cases hreg : Registration.of? templateId document given with
    | none => exact handle_register_of_refused hreg
    | some reg =>
      obtain ⟨rfl, rfl⟩ := Registration.exists_of_of? hreg
      obtain ⟨stored, -, hhandle⟩ := handle_register (empty.after requests) reg
      dsimp only
      rw [hhandle]

end Registry

end Parley.Template
