import Mathlib.Order.Lattice.Nat
import Parley.Proofs.Complexity.Heights

/-!
# Parley.Proofs.Complexity.Longest — the longest chain and the longest path

A `SimplePath` goes from the entry along links and meets no node twice.  The longest chain is one of
them, since a path forward meets no node twice (`nodup_of_forward`), and it is as long as any that
keeps to links forward.  `chain_of_readGraph`: it lies between the distance of the farthest node and
the longest simple path, and is the latter if the entry leads to no circle, whatever the order of the
links.  With a circle the order matters, and the longest simple path may be missed
(`not_longest_walk`).
-/

namespace Parley.Complexity

open Template (FlowGraph)
open Relation (ReflTransGen TransGen)

/-- A path from the entry that meets no node twice. -/
def SimplePath (graph : FlowGraph) (ids : List String) : Prop :=
  EntryPath graph (Links graph) ids ∧ ids.Nodup

section Longest

variable {graph graph' : FlowGraph} {found : Explored} {id : String} {ids : List String}

theorem Reachable.mem_names (hg : graph.Closed) (hid : Reachable graph id) :
    id ∈ graph.nodes.names := by
  cases hid with
  | refl => exact mem_names_of_isSome hg.entered
  | tail _ hlink => exact hlink.mem_names hg

theorem EntryPath.reachable (hpath : EntryPath graph (Links graph) ids) :
    ∀ id ∈ ids, Reachable graph id := by
  obtain ⟨hhead, hchain⟩ := hpath
  obtain ⟨more, rfl⟩ := List.head?_eq_some_iff.mp hhead
  exact reachable_of_isChain .refl hchain

theorem EntryPath.links (hpath : EntryPath graph (Forward graph found) ids) :
    EntryPath graph (Links graph) ids :=
  ⟨hpath.1, hpath.2.imp fun _ _ hlink => hlink.1⟩

/-- A path forward goes down in the order of the nodes noted, and meets none twice. -/
theorem simplePath_of_forward (h : Surveyed graph found)
    (hpath : EntryPath graph (Forward graph found) ids) : SimplePath graph ids := by
  refine ⟨hpath.links, ?_⟩
  have hdown : ids.IsChain fun a b => found.postorder.idxOf b < found.postorder.idxOf a :=
    hpath.2.imp_of_mem_imp fun a b ha _ hlink =>
      h.idxOf_lt (hpath.links.reachable a ha) (.single hlink)
  have : IsTrans String fun a b => found.postorder.idxOf b < found.postorder.idxOf a :=
    ⟨fun _ _ _ hab hbc => Nat.lt_trans hbc hab⟩
  refine (List.isChain_iff_pairwise.mp hdown).imp fun {a b} hlt heq => ?_
  rw [heq] at hlt
  exact Nat.lt_irrefl _ hlt

/-- Each node that can be reached is at the end of a path forward. -/
theorem exists_forward_path (h : Surveyed graph found) (hid : Reachable graph id) :
    ∃ ids, EntryPath graph (Forward graph found) ids ∧ ids.getLast? = some id := by
  obtain ⟨more, hchain, hlast⟩ :=
    List.exists_isChain_cons_of_relationReflTransGen (h.spanned id hid)
  refine ⟨graph.entry :: more, ⟨rfl, hchain⟩, ?_⟩
  rw [List.getLast?_eq_getLast_of_ne_nil (List.cons_ne_nil _ _), hlast]

/-- No simple path has more nodes than the graph. -/
theorem SimplePath.length_le (hg : graph.Closed) (hpath : SimplePath graph ids) :
    ids.length ≤ graph.nodes.names.length :=
  (List.subperm_of_subset hpath.2 fun id hid =>
    (hpath.1.reachable id hid).mem_names hg).length_le

/-- There is a longest simple path. -/
theorem exists_longest (hg : graph.Closed) :
    ∃ longest, IsGreatest {n | ∃ ids, SimplePath graph ids ∧ ids.length = n} longest := by
  have hnonempty : {n | ∃ ids, SimplePath graph ids ∧ ids.length = n}.Nonempty :=
    ⟨1, [graph.entry], ⟨⟨rfl, List.isChain_singleton _⟩, List.nodup_singleton _⟩, rfl⟩
  have hbounded : BddAbove {n | ∃ ids, SimplePath graph ids ∧ ids.length = n} := by
    refine ⟨graph.nodes.names.length, ?_⟩
    rintro n ⟨ids, hpath, rfl⟩
    exact hpath.length_le hg
  exact ⟨_, Nat.sSup_mem hnonempty hbounded, fun n hn => le_csSup hbounded hn⟩

/-- Without circles no path meets a node twice. -/
theorem simplePath_iff (h : Surveyed graph found)
    (hcircle : ∀ id, Reachable graph id → ¬ TransGen (Links graph) id id) :
    SimplePath graph ids ↔ EntryPath graph (Forward graph found) ids := by
  refine ⟨fun hpath => ?_, simplePath_of_forward h⟩
  rw [forward_eq_links h hcircle]
  exact hpath.1

/-- Graphs with the same entry and the same links have the same simple paths. -/
theorem simplePath_congr (hentry : graph'.entry = graph.entry)
    (hlinks : ∀ id child, Links graph' id child ↔ Links graph id child) :
    SimplePath graph' = SimplePath graph := by
  have hsame : Links graph' = Links graph := by
    funext id child
    exact propext (hlinks id child)
  funext ids
  rw [SimplePath, SimplePath, EntryPath, EntryPath, hentry, hsame]

theorem circles_congr (hentry : graph'.entry = graph.entry)
    (hlinks : ∀ id child, Links graph' id child ↔ Links graph id child)
    (hcircle : ∀ id, Reachable graph id → ¬ TransGen (Links graph) id id) :
    ∀ id, Reachable graph' id → ¬ TransGen (Links graph') id id := by
  have hsame : Links graph' = Links graph := by
    funext id child
    exact propext (hlinks id child)
  intro id hid
  rw [Reachable, hentry, hsame] at hid
  rw [hsame]
  exact hcircle id hid

theorem isGreatest_simple (h : Surveyed graph (exploreAll graph))
    (hcircle : ∀ id, Reachable graph id → ¬ TransGen (Links graph) id id) :
    IsGreatest {n | ∃ ids, SimplePath graph ids ∧ ids.length = n}
      (measure graph).maxChainLength := by
  have hpaths : {n | ∃ ids, SimplePath graph ids ∧ ids.length = n} =
      {n | ∃ ids, EntryPath graph (Forward graph (exploreAll graph)) ids ∧ ids.length = n} := by
    simp only [simplePath_iff h hcircle]
  rw [hpaths]
  exact isGreatest_chains h

/-- **The longest chain lies between the farthest node and the longest simple path.**  In a graph read
from an accepted template, there is a simple path as long as the longest chain, and each node that can
be reached is at the end of one that is no longer.  The longest chain is as long as a longest simple
path if and only if one of those does without links back.  If the entry leads to no circle it is, in
this graph and in every other that has the same entry and the same links in any order. -/
theorem chain_of_readGraph {document templateId version : Value}
    (hread : Template.readGraph document templateId version = .ok graph) :
    (∃ ids, SimplePath graph ids ∧ ids.length = (measure graph).maxChainLength) ∧
    (∀ id, Reachable graph id → ∃ ids, SimplePath graph ids ∧ ids.getLast? = some id ∧
      ids.length ≤ (measure graph).maxChainLength) ∧
    (∃ longest, IsGreatest {n | ∃ ids, SimplePath graph ids ∧ ids.length = n} longest ∧
      (measure graph).maxChainLength ≤ longest ∧
      ((measure graph).maxChainLength = longest ↔ ∃ ids, SimplePath graph ids ∧
        ids.IsChain (Forward graph (exploreAll graph)) ∧ ids.length = longest)) ∧
    ((∀ id, Reachable graph id → ¬ TransGen (Links graph) id id) →
      IsGreatest {n | ∃ ids, SimplePath graph ids ∧ ids.length = n}
        (measure graph).maxChainLength ∧
      ∀ document' templateId' version' graph',
        Template.readGraph document' templateId' version' = .ok graph' →
        graph'.entry = graph.entry → (∀ id child, Links graph' id child ↔ Links graph id child) →
        (measure graph').maxChainLength = (measure graph).maxChainLength) := by
  have h := (run_of_readGraph hread).2
  have hgreatest : IsGreatest _ (measure graph).maxChainLength := isGreatest_chains h
  obtain ⟨chain, hchain, hlength⟩ := hgreatest.1
  refine ⟨⟨chain, simplePath_of_forward h hchain, hlength⟩, fun id hid => ?_, ?_, fun hcircle => ?_⟩
  · obtain ⟨ids, hpath, hlast⟩ := exists_forward_path h hid
    exact ⟨ids, simplePath_of_forward h hpath, hlast, hgreatest.2 ⟨ids, hpath, rfl⟩⟩
  · obtain ⟨longest, hlongest⟩ := exists_longest (Template.closed_of_readGraph hread)
    have hle := hlongest.2 ⟨chain, simplePath_of_forward h hchain, hlength⟩
    refine ⟨longest, hlongest, hle, fun heq => ?_, fun ⟨ids, hpath, hforward, hids⟩ => ?_⟩
    · exact ⟨chain, simplePath_of_forward h hchain, hchain.2, hlength.trans heq⟩
    · exact le_antisymm hle (hgreatest.2 ⟨ids, ⟨hpath.1.1, hforward⟩, hids⟩)
  · refine ⟨isGreatest_simple h hcircle, fun document' templateId' version' graph' hread' hentry
      hlinks => ?_⟩
    have hgreatest' := isGreatest_simple (run_of_readGraph hread').2
      (circles_congr hentry hlinks hcircle)
    rw [simplePath_congr hentry hlinks] at hgreatest'
    exact hgreatest'.unique (isGreatest_simple h hcircle)

end Longest

/-- From a fork to a lake and to a hill, and from the hill down to the lake.  The lake leads home, and
may lead up the hill. -/
def walk (first second : String) (circle : Bool) : Value :=
  let way (word target : String) : Value := .object [
    ("condition", .object [("type", .text "contains"), ("value", .text word)]),
    ("nextNodeId", .text target)]
  .object [("id", .text "walk"), ("entryNodeId", .text "fork"), ("nodes", .list [
    .object [("id", .text "fork"), ("type", .text "condition"),
      ("next", .list [way first first, way second second])],
    .object [("id", .text "lake"), ("type", .text "condition"),
      ("next", .list (if circle then [way "up" "hill"] else [])), ("defaultNext", .text "home")],
    .object [("id", .text "hill"), ("type", .text "message"), ("next", .text "lake")],
    .object [("id", .text "home"), ("type", .text "terminal")]])]

/-- The links of the walk, in whatever order they are declared. -/
def walkLinks (circle : Bool) : List (String × String) :=
  [("fork", "lake"), ("fork", "hill"), ("lake", "home"), ("hill", "lake")] ++
    if circle then [("lake", "hill")] else []

theorem readGraph_walk (first second : String) (circle : Bool)
    (hnames : (first, second) ∈ [("lake", "hill"), ("hill", "lake")]) : ∃ graph,
    Template.readGraph (walk first second circle) .null .null = .ok graph ∧
      graph.entry = "fork" ∧
      (∀ id child, Links graph id child ↔ (id, child) ∈ walkLinks circle) ∧
      (measure graph).hasCycles = circle ∧
      (measure graph).maxChainLength = if circle ∧ first = "lake" then 3 else 4 := by
  have h : ((Template.readGraph (walk first second circle) .null .null).toOption.any fun graph =>
      graph.entry = "fork" ∧ (measure graph).hasCycles = circle ∧
        ((measure graph).maxChainLength = if circle ∧ first = "lake" then 3 else 4) ∧
        (∀ id ∈ graph.nodes.names, ∀ child ∈ graph.successors id,
          (id, child) ∈ walkLinks circle) ∧
        ∀ link ∈ walkLinks circle, link.2 ∈ graph.successors link.1) = true := by
    simp only [List.mem_cons, Prod.mk.injEq, List.not_mem_nil, or_false] at hnames
    rcases hnames with ⟨rfl, rfl⟩ | ⟨rfl, rfl⟩ <;> cases circle <;> decide +kernel
  obtain ⟨graph, hread, h⟩ := exists_of_any h
  obtain ⟨hentry, hcycles, hlength, hfew, hall⟩ := of_decide_eq_true h
  refine ⟨graph, hread, hentry, fun id child => ⟨fun hlink => ?_, fun hlink => ?_⟩, hcycles, hlength⟩
  · exact hfew id hlink.left_mem_names child hlink
  · exact hall (id, child) hlink

/-- **A longest simple path may be missed, and the order of links decides.**  Where the fork leads to
the lake first, the walk over the hill down to the lake and home is not seen, as the lake's way up the
hill counts as the one forward; where it leads to the hill first, it is. -/
theorem not_longest_walk : ∃ graph graph',
    Template.readGraph (walk "lake" "hill" true) .null .null = .ok graph ∧
    Template.readGraph (walk "hill" "lake" true) .null .null = .ok graph' ∧
    SimplePath graph ["fork", "hill", "lake", "home"] ∧
    (measure graph).maxChainLength = 3 ∧
    ¬ IsGreatest {n | ∃ ids, SimplePath graph ids ∧ ids.length = n}
      (measure graph).maxChainLength ∧
    graph'.entry = graph.entry ∧
    (∀ id child, Links graph' id child ↔ Links graph id child) ∧
    (measure graph').maxChainLength = 4 := by
  obtain ⟨graph, hread, hentry, hlinks, -, hlength⟩ := readGraph_walk "lake" "hill" true (by simp)
  obtain ⟨graph', hread', hentry', hlinks', -, hlength'⟩ :=
    readGraph_walk "hill" "lake" true (by simp)
  have hpath : SimplePath graph ["fork", "hill", "lake", "home"] := by
    refine ⟨⟨by rw [hentry]; rfl, ?_⟩, by decide⟩
    simp only [List.isChain_cons_cons, List.isChain_singleton, hlinks, and_true]
    decide
  have hlength : (measure graph).maxChainLength = 3 := hlength
  refine ⟨graph, graph', hread, hread', hpath, hlength, fun hgreatest => ?_,
    hentry'.trans hentry.symm, fun id child => (hlinks' id child).trans (hlinks id child).symm,
    hlength'⟩
  have hle := hgreatest.2 ⟨_, hpath, rfl⟩
  rw [hlength] at hle
  exact absurd hle (by decide)

/-- With the circle, the longest chain stays below a longest simple path; without it, neither order of
the links hides the walk over the hill. -/
theorem chain_of_readGraph_walk :
    (∃ graph, Template.readGraph (walk "lake" "hill" true) .null .null = .ok graph ∧
      (measure graph).maxChainLength = 3 ∧
      ∃ longest, IsGreatest {n | ∃ ids, SimplePath graph ids ∧ ids.length = n} longest ∧
        3 ≤ longest) ∧
    ∃ graph graph', Template.readGraph (walk "lake" "hill" false) .null .null = .ok graph ∧
      Template.readGraph (walk "hill" "lake" false) .null .null = .ok graph' ∧
      (∀ id, Reachable graph id → ¬ TransGen (Links graph) id id) ∧
      IsGreatest {n | ∃ ids, SimplePath graph ids ∧ ids.length = n} 4 ∧
      (measure graph').maxChainLength = (measure graph).maxChainLength := by
  constructor
  · obtain ⟨graph, hread, -, -, -, hlength⟩ := readGraph_walk "lake" "hill" true (by simp)
    have hlength : (measure graph).maxChainLength = 3 := hlength
    obtain ⟨-, -, ⟨longest, hlongest, hle, -⟩, -⟩ := chain_of_readGraph hread
    exact ⟨graph, hread, hlength, longest, hlongest, hlength ▸ hle⟩
  · obtain ⟨graph, hread, hentry, hlinks, hcycles, hlength⟩ :=
      readGraph_walk "lake" "hill" false (by simp)
    obtain ⟨graph', hread', hentry', hlinks', -, -⟩ := readGraph_walk "hill" "lake" false (by simp)
    have hlength : (measure graph).maxChainLength = 4 := hlength
    have hcircle (id : String) (hid : Reachable graph id) : ¬ TransGen (Links graph) id id := by
      intro hpath
      have hback := (run_of_readGraph hread).2.exists_circle_iff.mpr ⟨id, hid, hpath⟩
      rw [← hasCycles_iff, hcycles] at hback
      exact nomatch hback
    obtain ⟨-, -, -, hall⟩ := chain_of_readGraph hread
    obtain ⟨hgreatest, hother⟩ := hall hcircle
    exact ⟨graph, graph', hread, hread', hcircle, hlength ▸ hgreatest,
      hother _ _ _ graph' hread' (hentry'.trans hentry.symm)
        fun id child => (hlinks' id child).trans (hlinks id child).symm⟩

end Parley.Complexity
