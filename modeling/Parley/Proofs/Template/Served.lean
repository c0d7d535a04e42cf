import Parley.Proofs.Template.Accepted
import Parley.Template.Registry

/-!
# Parley.Proofs.Template.Served — what a registry answers

To fetch a graph changes the registry, which remembers what it read; but it does not change what the
registry answers.  A registry all of whose graphs are closed answers with closed graphs.
-/

namespace Parley.Template.Registry

/-- What the registry answers for a template. -/
def serves (r : Registry) (templateId : String) : Except Fault FlowGraph :=
  (r.fetch templateId).map Prod.fst

/-- All graphs that the registry keeps are closed. -/
def Closed (r : Registry) : Prop := ∀ name graph, r.graphs.get? name = some graph → graph.Closed

variable {r r' : Registry} {templateId version : String} {graph : FlowGraph}

theorem serves_of_fetch (h : r.fetch templateId = .ok (graph, r')) :
    r.serves templateId = .ok graph := by
  unfold serves
  rw [h]
  rfl

theorem documents_retire : (r.retire templateId version).documents = r.documents := by
  unfold retire
  split
  · rfl
  · split_ifs <;> rfl

theorem get?_retire {other : String × String} (h : other.1 ≠ templateId) :
    (r.retire templateId version).graphs.get? other = r.graphs.get? other := by
  unfold retire
  split
  · rfl
  · split_ifs
    · rfl
    · exact Table.get?_erase_of_ne _ fun heq => h (by rw [heq])

/-- A fetch that succeeds: the document, its version, and the graph that was kept or is now read. -/
theorem fetch_eq_ok (h : r.fetch templateId = .ok (graph, r')) :
    ∃ document version, r.documents.get? templateId = some document ∧ document ≠ .null ∧
      documentVersion document = .ok version ∧
      (r.graphs.get? (templateId, version) = some graph ∧ r' = r ∨
        r.graphs.get? (templateId, version) = none ∧
          readGraph document (.text templateId) (.text version) = .ok graph ∧
          r' = (r.retire templateId version).activate templateId version graph) := by
  unfold fetch at h
  split at h
  · cases h
  · cases h
  · rename_i document hnull hdocument
    obtain ⟨version, hversion, h⟩ := exceptBind_eq_ok.mp h
    refine ⟨document, version, hdocument, hnull, hversion, ?_⟩
    split at h
    · rename_i kept hkept
      obtain ⟨rfl, rfl⟩ := Prod.mk.inj (Except.ok.inj h)
      exact .inl ⟨hkept, rfl⟩
    · rename_i hnone
      obtain ⟨read, hread, h⟩ := exceptBind_eq_ok.mp h
      obtain ⟨rfl, rfl⟩ := Prod.mk.inj (Except.ok.inj h)
      exact .inr ⟨hnone, hread, rfl⟩

/-- The graph of a document: the one that was kept of this version, or else the one to be read. -/
def graphOf (r : Registry) (templateId : String) (document : Value) : Except Fault FlowGraph := do
  let version ← documentVersion document
  match r.graphs.get? (templateId, version) with
  | some graph => .ok graph
  | none => readGraph document (.text templateId) (.text version)

/-- The answer is found in documents and graphs alone. -/
theorem serves_of_document {document : Value} (h : r.documents.get? templateId = some document)
    (hnull : document ≠ .null) : r.serves templateId = r.graphOf templateId document := by
  unfold serves fetch
  rw [h]
  split
  · rename_i hnone
    exact nomatch hnone
  · rename_i hsome
    exact absurd (Option.some.inj hsome) hnull
  · rename_i document' _ hsome
    rw [← Option.some.inj hsome]
    unfold graphOf
    cases documentVersion document with
    | error fault => rfl
    | ok version =>
      simp only [bind, Except.bind]
      cases r.graphs.get? (templateId, version) with
      | some graph => rfl
      | none =>
        dsimp only
        cases readGraph document (.text templateId) (.text version) <;> rfl

theorem serves_of_unknown (h : ∀ document, r.documents.get? templateId = some document →
    document = .null) : r.serves templateId = .error (.unknownTemplate templateId) := by
  unfold serves fetch
  split
  · rfl
  · rfl
  · rename_i document hnull hsome
    exact absurd (h document hsome) hnull

theorem graphOf_congr {document : Value}
    (h : ∀ version, r'.graphs.get? (templateId, version) = r.graphs.get? (templateId, version)) :
    r'.graphOf templateId document = r.graphOf templateId document := by
  unfold graphOf
  simp only [h]

/-- The answer for a template depends on its own document and graphs alone. -/
theorem serves_congr (hdocument : r'.documents.get? templateId = r.documents.get? templateId)
    (hgraphs : ∀ version,
      r'.graphs.get? (templateId, version) = r.graphs.get? (templateId, version)) :
    r'.serves templateId = r.serves templateId := by
  by_cases hknown : ∃ document, r.documents.get? templateId = some document ∧ document ≠ .null
  · obtain ⟨document, hsome, hnull⟩ := hknown
    rw [serves_of_document (hdocument.trans hsome) hnull, serves_of_document hsome hnull,
      graphOf_congr hgraphs]
  · have hunknown (document : Value) (h : r.documents.get? templateId = some document) :
        document = .null :=
      Decidable.byContradiction fun hnull => hknown ⟨document, h, hnull⟩
    rw [serves_of_unknown hunknown, serves_of_unknown (hdocument ▸ hunknown)]

theorem graphOf_eq {document : Value} (h : documentVersion document = .ok version)
    (hr : r.graphs.get? (templateId, version) = some graph ∨
      r.graphs.get? (templateId, version) = none ∧
        readGraph document (.text templateId) (.text version) = .ok graph) :
    r.graphOf templateId document = .ok graph := by
  unfold graphOf
  rcases hr with hkept | ⟨hnone, hread⟩
  · simp only [h, bind, Except.bind, hkept]
  · simp only [h, bind, Except.bind, hnone, hread]

/-- **Fetching changes no answer.** -/
theorem serves_fetch (h : r.fetch templateId = .ok (graph, r')) : r'.serves = r.serves := by
  obtain ⟨document, version, hdocument, hnull, hversion, ⟨-, rfl⟩ | ⟨hnone, hread, rfl⟩⟩ :=
    fetch_eq_ok h
  · rfl
  have hdocuments : ((r.retire templateId version).activate templateId version graph).documents =
      r.documents := documents_retire
  funext other
  by_cases ho : other = templateId
  · subst ho
    have hkept : ((r.retire other version).activate other version graph).graphs.get?
        (other, version) = some graph := Table.get?_put_self _ _ _
    rw [serves_of_document (hdocuments ▸ hdocument) hnull, serves_of_document hdocument hnull,
      graphOf_eq hversion (.inl hkept), graphOf_eq hversion (.inr ⟨hnone, hread⟩)]
  · have hgraphs (v : String) :
        ((r.retire templateId version).activate templateId version graph).graphs.get? (other, v) =
          r.graphs.get? (other, v) :=
      (Table.get?_put_of_ne _ _ fun heq => ho (congrArg Prod.fst heq)).trans (get?_retire ho)
    exact serves_congr (congrArg (Table.get? · other) hdocuments) hgraphs

/-- A registry of closed graphs answers with closed graphs. -/
theorem Closed.serves (h : r.Closed) (hs : r.serves templateId = .ok graph) : graph.Closed := by
  unfold Registry.serves at hs
  cases hfetch : r.fetch templateId with
  | error fault =>
    rw [hfetch] at hs
    exact nomatch hs
  | ok found =>
    obtain ⟨graph', r'⟩ := found
    rw [hfetch] at hs
    obtain rfl : graph' = graph := Except.ok.inj hs
    obtain ⟨document, version, -, -, -, ⟨hkept, -⟩ | ⟨-, hread, -⟩⟩ := fetch_eq_ok hfetch
    · exact h _ _ hkept
    · exact closed_of_readGraph hread

theorem closed_empty : empty.Closed := fun _ _ h => nomatch h

theorem Closed.retire (h : r.Closed) (templateId version : String) :
    (r.retire templateId version).Closed := by
  unfold Registry.retire
  split
  · exact h
  · rename_i previous _
    split_ifs
    · exact h
    · intro name graph hgraph
      by_cases hname : name = (templateId, previous)
      · rw [hname] at hgraph
        have hnone : (r.graphs.erase (templateId, previous)).get? (templateId, previous) = none :=
          Table.get?_erase_self _ _
        exact nomatch hnone.symm.trans hgraph
      · exact h name graph ((Table.get?_erase_of_ne _ hname).symm.trans hgraph)

theorem Closed.activate (h : r.Closed) (hg : graph.Closed) (templateId version : String) :
    (r.activate templateId version graph).Closed := by
  intro name kept hkept
  by_cases hname : name = (templateId, version)
  · rw [hname] at hkept
    have hself : (r.graphs.put (templateId, version) graph).get? (templateId, version) =
        some graph := Table.get?_put_self _ _ _
    rwa [← Option.some.inj (hself.symm.trans hkept)]
  · exact h name kept ((Table.get?_put_of_ne _ _ hname).symm.trans hkept)

theorem Closed.fetch (h : r.Closed) (hfetch : r.fetch templateId = .ok (graph, r')) :
    r'.Closed := by
  obtain ⟨document, version, -, -, -, ⟨-, rfl⟩ | ⟨-, hread, rfl⟩⟩ := fetch_eq_ok hfetch
  · exact h
  · exact (h.retire templateId version).activate (closed_of_readGraph hread) templateId version

/-! ### Registering -/

/-- The version of a document that is registered: the given one, or else its own. -/
def versionFor (document : Value) (given : Option String) : Except Fault String :=
  match given with
  | none | some "" => documentVersion document
  | some v => .ok v

section Register

variable {document stored : Value} {given : Option String}

/-- A template that is registered is accepted, and put in use under its version. -/
theorem register_eq_ok (h : r.register templateId document given = .ok (graph, r')) :
    ∃ version stored, versionFor document given = .ok version ∧
      readGraph document (.text templateId) (.text version) = .ok graph ∧
      stamped document version = .ok stored ∧
      r' = (r.putDocument templateId stored).activate templateId version graph := by
  have hput {version : String} (hversion : (do
      let read ← readGraph document (.text templateId) (.text version)
      let stored ← stamped document version
      .ok (read, (r.putDocument templateId stored).activate templateId version read) :
        Except Fault (FlowGraph × Registry)) = .ok (graph, r')) :
      ∃ stored, readGraph document (.text templateId) (.text version) = .ok graph ∧
        stamped document version = .ok stored ∧
        r' = (r.putDocument templateId stored).activate templateId version graph := by
    obtain ⟨read, hread, hversion⟩ := exceptBind_eq_ok.mp hversion
    obtain ⟨stored, hstored, hversion⟩ := exceptBind_eq_ok.mp hversion
    obtain ⟨rfl, rfl⟩ := Prod.mk.inj (Except.ok.inj hversion)
    exact ⟨stored, hread, hstored, rfl⟩
  unfold Registry.register at h
  split at h
  · obtain ⟨version, hversion, h⟩ := exceptBind_eq_ok.mp h
    obtain ⟨stored, hstored⟩ := hput h
    exact ⟨version, stored, hversion, hstored⟩
  · obtain ⟨version, hversion, h⟩ := exceptBind_eq_ok.mp h
    obtain ⟨stored, hstored⟩ := hput h
    exact ⟨version, stored, hversion, hstored⟩
  · rename_i v _
    obtain ⟨stored, hstored⟩ := hput h
    exact ⟨v, stored, by simp [versionFor], hstored⟩

/-- Only templates that are accepted are put in use. -/
theorem Closed.register (h : r.Closed)
    (hregister : r.register templateId document given = .ok (graph, r')) : r'.Closed := by
  obtain ⟨version, stored, -, hread, -, rfl⟩ := register_eq_ok hregister
  have hput : (r.putDocument templateId stored).Closed := h
  exact hput.activate (closed_of_readGraph hread) templateId version

/-- A document declares the version that it is stamped with. -/
theorem documentVersion_stamped (h : stamped document version = .ok stored) (hv : version ≠ "") :
    stored ≠ .null ∧ documentVersion stored = .ok version := by
  obtain ⟨fields, -, h⟩ := exceptBind_eq_ok.mp h
  rw [← Except.ok.inj h]
  refine ⟨fun hnull => (nomatch hnull), ?_⟩
  have hfield : Value.field (fields.put "version" (.text version)) "version" = .text version := by
    unfold Value.field
    rw [Table.get?_put_self]
    rfl
  have htruthy : (Value.text version).truthy = true := by simp [Value.truthy, hv]
  show Except.ok (ε := Fault) (if _ then _ else _) = .ok version
  rw [hfield, if_pos htruthy]
  rfl

/-- **What is registered is served**, if its version has a name. -/
theorem serves_register (h : r.register templateId document given = .ok (graph, r'))
    (hv : ∀ version, versionFor document given = .ok version → version ≠ "") :
    r'.serves templateId = .ok graph := by
  obtain ⟨version, stored, hversion, -, hstored, rfl⟩ := register_eq_ok h
  obtain ⟨hnull, hown⟩ := documentVersion_stamped hstored (hv version hversion)
  rw [serves_of_document (Table.get?_put_self _ _ _) hnull]
  exact graphOf_eq hown (.inl (Table.get?_put_self _ _ _))

/-- Other templates are served as before. -/
theorem serves_register_of_ne (h : r.register templateId document given = .ok (graph, r'))
    {other : String} (ho : other ≠ templateId) : r'.serves other = r.serves other := by
  obtain ⟨version, stored, -, -, -, rfl⟩ := register_eq_ok h
  refine serves_congr (Table.get?_put_of_ne _ _ ho) fun v => ?_
  exact Table.get?_put_of_ne _ _ fun heq => ho (congrArg Prod.fst heq)

/-- The version of a document's content has a name. -/
theorem contentVersion_ne_empty (document : Value) : contentVersion document ≠ "" := by
  have hdigest : (Digest.Sha1.hexDigest (Document.writeSorted document)).toList.length = 40 := by
    unfold Digest.Sha1.hexDigest Digest.hexText Digest.Sha1.digest Digest.hexOfByte Digest.bigBytes
    simp [Digest.littleBytes]
  intro h
  have hlength := congrArg (List.length ∘ String.toList) h
  simp only [contentVersion, Function.comp_apply, String.toList_ofList, List.length_take, hdigest]
    at hlength
  exact absurd hlength (by decide)

end Register

end Parley.Template.Registry
