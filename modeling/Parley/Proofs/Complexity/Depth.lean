import Mathlib.Algebra.BigOperators.Group.Finset.Basic
import Mathlib.Logic.Relation
import Parley.Complexity.Signals
import Parley.Proofs.Template.Accepted

/-!
# Parley.Proofs.Complexity.Depth — what a search in depth finds

`Search.Sound graph s` is the invariant of a search under way: no node is met twice, each node being
explored leads forward to those above it, and every link of a node was followed, leads back, leads to
a node that has been noted, or is still to be looked at.  `Advance` says what one step can do, and
`Advance.sound` that every step keeps the invariant.  Each step also uses up `Search.ahead`, so that
a search comes to its end.

`Surveyed graph found` is what is known then: the nodes noted are those that can be reached, a link
leads back or to a node noted earlier, and a link back closes a circle.  `explored_of_readGraph`: so
it is with every graph of an accepted template.
-/

namespace Parley.Complexity

open Template (FlowGraph)
open Relation (ReflTransGen TransGen)

/-! ### Nodes and links -/

/-- The node `id` has a link to `child`. -/
def Links (graph : FlowGraph) (id child : String) : Prop := child ∈ graph.successors id

/-- The node can be reached from the entry. -/
def Reachable (graph : FlowGraph) (id : String) : Prop := ReflTransGen (Links graph) graph.entry id

/-- A link that does not lead back. -/
def Forward (graph : FlowGraph) (found : Explored) (id child : String) : Prop :=
  Links graph id child ∧ (id, child) ∉ found.backLinks

/-- In the list, `a` stands before `b`. -/
def Before (order : List String) (a b : String) : Prop := [a, b].Sublist order

section Order

variable {order more : List String} {a b x : String}

theorem before_cons : Before (x :: order) a b ↔ Before order a b ∨ a = x ∧ b ∈ order := by
  simp [Before, List.sublist_cons_iff]

theorem Before.append (h : Before order a b) (more : List String) : Before (order ++ more) a b :=
  h.trans (List.sublist_append_left order more)

theorem before_concat (h : a ∈ order) (b : String) : Before (order ++ [b]) a b :=
  (List.singleton_sublist.mpr h).append (List.Sublist.refl [b])

theorem Before.right_mem (h : Before order a b) : b ∈ order := h.subset (by simp)

/-- What stands before a name is in the part of the list before it. -/
theorem Before.mem_of_split {before after : List String} (h : Before (before ++ b :: after) a b)
    (hnodup : (before ++ b :: after).Nodup) : a ∈ before := by
  induction before with
  | nil =>
    have hb : b ∉ after := (List.nodup_cons.mp hnodup).1
    rcases before_cons.mp h with h | ⟨-, h⟩
    · exact absurd h.right_mem hb
    · exact absurd h hb
  | cons y ys ih =>
    rcases before_cons.mp h with h | ⟨rfl, -⟩
    · exact List.mem_cons_of_mem y (ih h (List.nodup_cons.mp hnodup).2)
    · exact List.mem_cons_self

end Order

section Children

variable {graph : FlowGraph} {id child : String}

/-- Values are put to the end unless they are there. -/
theorem foldl_distinct {α : Type} [DecidableEq α] (xs : List α) {seen : List α}
    (hseen : seen.Nodup) :
    (xs.foldl (fun seen x => if x ∈ seen then seen else seen ++ [x]) seen).Nodup ∧
      ∀ y, y ∈ xs.foldl (fun seen x => if x ∈ seen then seen else seen ++ [x]) seen ↔
        y ∈ seen ∨ y ∈ xs := by
  induction xs generalizing seen with
  | nil => exact ⟨hseen, by simp⟩
  | cons x xs ih =>
    rw [List.foldl_cons]
    by_cases hx : x ∈ seen
    · rw [if_pos hx]
      refine ⟨(ih hseen).1, fun y => ?_⟩
      rw [(ih hseen).2, List.mem_cons]
      constructor
      · exact fun h => h.imp_right .inr
      · rintro (h | rfl | h)
        · exact .inl h
        · exact .inl hx
        · exact .inr h
    · rw [if_neg hx]
      have hlonger : (seen ++ [x]).Nodup := List.nodup_append.mpr
        ⟨hseen, List.pairwise_singleton _ _, fun a ha b hb hab =>
          hx (List.mem_singleton.mp hb ▸ hab ▸ ha)⟩
      refine ⟨(ih hlonger).1, fun y => ?_⟩
      rw [(ih hlonger).2, List.mem_append, List.mem_singleton, List.mem_cons, or_assoc]

theorem children_nodup (graph : FlowGraph) (id : String) : (children graph id).Nodup :=
  (foldl_distinct _ List.nodup_nil).1

theorem mem_children : child ∈ children graph id ↔ Links graph id child := by
  unfold children distinct Links
  rw [(foldl_distinct _ List.nodup_nil).2]
  simp

theorem mem_names_of_isSome (h : (graph.node? id).isSome = true) : id ∈ graph.nodes.names :=
  Table.has_iff.mp h

theorem Links.left_mem_names (h : Links graph id child) : id ∈ graph.nodes.names := by
  unfold Links FlowGraph.successors at h
  split at h
  · rename_i node hnode
    exact mem_names_of_isSome (by rw [hnode]; rfl)
  · exact absurd h List.not_mem_nil

/-- All links of a closed graph lead to nodes. -/
theorem Links.mem_names (hg : graph.Closed) (h : Links graph id child) :
    child ∈ graph.nodes.names := by
  unfold Links FlowGraph.successors at h
  split at h
  · rename_i node hnode
    exact mem_names_of_isSome (hg.linked hnode h)
  · exact absurd h List.not_mem_nil

end Children

/-! ### A search under way -/

/-- The names of the nodes being explored. -/
def Search.names (s : Search) : List String := s.path.map Visit.id

/-- All nodes that the search has met. -/
def Search.met (s : Search) : List String := s.names ++ s.found.postorder

/-- The link was followed, and does not lead back. -/
def Search.Followed (graph : FlowGraph) (s : Search) (id child : String) : Prop :=
  Forward graph s.found id child ∧ id ∈ s.met ∧
    ∀ visit ∈ s.path, visit.id = id → child ∉ visit.rest

/-- What holds of a node that is being explored. -/
structure Visit.Sound (graph : FlowGraph) (s : Search) (visit : Visit) : Prop where
  once : visit.rest.Nodup
  ahead : ∀ child ∈ visit.rest,
    Links graph visit.id child ∧ (visit.id, child) ∉ s.found.backLinks
  behind : ∀ child, Links graph visit.id child → child ∈ visit.rest ∨
    (visit.id, child) ∈ s.found.backLinks ∨ child ∈ s.found.postorder ∨
    Before s.names child visit.id

/-- What holds throughout a search. -/
structure Search.Sound (graph : FlowGraph) (s : Search) : Prop where
  once : s.met.Nodup
  entered : graph.entry ∈ s.met
  visits : ∀ visit ∈ s.path, visit.Sound graph s
  /-- A node being explored is reached from those below it. -/
  nested : s.names.Pairwise fun upper lower => ReflTransGen (s.Followed graph) lower upper
  reached : ∀ id ∈ s.met, ReflTransGen (s.Followed graph) graph.entry id
  back : ∀ id child, (id, child) ∈ s.found.backLinks → Links graph id child ∧ id ∈ s.met ∧
    child ∈ s.met ∧ ReflTransGen (s.Followed graph) child id
  noted : ∀ id ∈ s.found.postorder, ∀ child, Links graph id child →
    (id, child) ∈ s.found.backLinks ∨ Before s.found.postorder child id

/-- What one step of a search can do. -/
inductive Advance (graph : FlowGraph) : Search → Search → Prop
  /-- The node reached last has no links left. -/
  | note (id : String) (below : List Visit) (found : Explored) :
    Advance graph ⟨⟨id, []⟩ :: below, found⟩
      ⟨below, { found with postorder := found.postorder ++ [id] }⟩
  /-- Its next link leads back. -/
  | back {id child : String} {rest : List String} {below : List Visit} {found : Explored} :
    child ∈ id :: below.map Visit.id →
    Advance graph ⟨⟨id, child :: rest⟩ :: below, found⟩
      ⟨⟨id, rest⟩ :: below, { found with backLinks := found.backLinks ++ [(id, child)] }⟩
  /-- Its next link leads to a node that has been noted. -/
  | skip {id child : String} {rest : List String} {below : List Visit} {found : Explored} :
    child ∈ found.postorder →
    Advance graph ⟨⟨id, child :: rest⟩ :: below, found⟩ ⟨⟨id, rest⟩ :: below, found⟩
  /-- Its next link leads to a new node. -/
  | follow {id child : String} {rest : List String} {below : List Visit} {found : Explored} :
    child ∉ id :: below.map Visit.id → child ∉ found.postorder →
    Advance graph ⟨⟨id, child :: rest⟩ :: below, found⟩
      ⟨⟨child, children graph child⟩ :: ⟨id, rest⟩ :: below, found⟩

section Step

variable {graph : FlowGraph} {s s' : Search} {id child : String} {visit : Visit}

theorem advance_of_step (graph : FlowGraph) (s : Search) (h : s.path ≠ []) :
    Advance graph s (s.step graph) := by
  obtain ⟨path, found⟩ := s
  cases path with
  | nil => exact absurd rfl h
  | cons visit below =>
    obtain ⟨id, rest⟩ := visit
    cases rest with
    | nil => exact .note id below found
    | cons child rest =>
      unfold Search.step
      dsimp only
      split_ifs with hpath hnoted
      · exact .back hpath
      · exact .skip hnoted
      · exact .follow hpath hnoted

/-! ### What a step keeps -/

/-- The second search is the first one some time later, as far as links are concerned. -/
structure Later (s s' : Search) : Prop where
  met : ∀ id ∈ s.met, id ∈ s'.met
  /-- A link that turns out to lead back was still to be looked at. -/
  back : ∀ id child, (id, child) ∈ s'.found.backLinks → (id, child) ∈ s.found.backLinks ∨
    ∃ visit ∈ s.path, visit.id = id ∧ child ∈ visit.rest
  /-- A node that is being explored was so before, or has not been met. -/
  rest : ∀ visit' ∈ s'.path, (∃ visit ∈ s.path, visit.id = visit'.id ∧
    ∀ child ∈ visit'.rest, child ∈ visit.rest) ∨ visit'.id ∉ s.met

theorem Search.Followed.later (h : Later s s') (hf : s.Followed graph id child) :
    s'.Followed graph id child := by
  obtain ⟨⟨hlink, hback⟩, hmet, hrest⟩ := hf
  refine ⟨⟨hlink, fun hback' => ?_⟩, h.met id hmet, fun visit' hvisit' hid hchild => ?_⟩
  · rcases h.back id child hback' with hold | ⟨visit, hvisit, hid, hchild⟩
    · exact hback hold
    · exact hrest visit hvisit hid hchild
  · rcases h.rest visit' hvisit' with ⟨visit, hvisit, hsame, hsub⟩ | hnew
    · exact hrest visit hvisit (hsame.trans hid) (hsub child hchild)
    · exact hnew (hid ▸ hmet)

theorem Later.paths (h : Later s s') (hp : ReflTransGen (s.Followed graph) id child) :
    ReflTransGen (s'.Followed graph) id child :=
  ReflTransGen.mono (fun _ _ hf => hf.later h) _ _ hp

theorem Advance.later (h : Advance graph s s') : Later s s' := by
  cases h with
  | note id below found =>
    refine ⟨fun x hx => ?_, fun _ _ h => .inl h, fun visit' h => .inl ?_⟩
    · simp only [Search.met, Search.names, List.map_cons, List.mem_append, List.mem_cons,
        List.not_mem_nil, or_false] at hx ⊢
      tauto
    · exact ⟨visit', List.mem_cons_of_mem _ h, rfl, fun _ h => h⟩
  | @back id child rest below found hpath =>
    refine ⟨fun _ h => h, fun x y h => ?_, fun visit' h => .inl ?_⟩
    · rcases List.mem_append.mp h with h | h
      · exact .inl h
      · obtain ⟨rfl, rfl⟩ := Prod.mk.inj (List.mem_singleton.mp h)
        exact .inr ⟨_, List.mem_cons_self, rfl, List.mem_cons_self⟩
    · rcases List.mem_cons.mp h with rfl | h
      · exact ⟨_, List.mem_cons_self, rfl, fun _ h => List.mem_cons_of_mem _ h⟩
      · exact ⟨visit', List.mem_cons_of_mem _ h, rfl, fun _ h => h⟩
  | @skip id child rest below found hnoted =>
    refine ⟨fun _ h => h, fun _ _ h => .inl h, fun visit' h => .inl ?_⟩
    rcases List.mem_cons.mp h with rfl | h
    · exact ⟨_, List.mem_cons_self, rfl, fun _ h => List.mem_cons_of_mem _ h⟩
    · exact ⟨visit', List.mem_cons_of_mem _ h, rfl, fun _ h => h⟩
  | @follow id child rest below found hpath hnoted =>
    refine ⟨fun _ h => List.mem_cons_of_mem _ h, fun _ _ h => .inl h, fun visit' h => ?_⟩
    rcases List.mem_cons.mp h with rfl | h
    · refine .inr fun hmet => ?_
      rcases List.mem_append.mp hmet with hmet | hmet
      · exact hpath hmet
      · exact hnoted hmet
    · rcases List.mem_cons.mp h with rfl | h
      · exact .inl ⟨_, List.mem_cons_self, rfl, fun _ h => List.mem_cons_of_mem _ h⟩
      · exact .inl ⟨visit', List.mem_cons_of_mem _ h, rfl, fun _ h => h⟩

/-- A node being explored, seen later: its links that were followed lead where they did. -/
theorem Visit.Sound.later (h : visit.Sound graph s)
    (hback : ∀ child, (visit.id, child) ∈ s'.found.backLinks ↔
      (visit.id, child) ∈ s.found.backLinks)
    (hnoted : ∀ child ∈ s.found.postorder, child ∈ s'.found.postorder)
    (hbefore : ∀ child, Before s.names child visit.id →
      child ∈ s'.found.postorder ∨ Before s'.names child visit.id) : visit.Sound graph s' := by
  refine ⟨h.once, fun child hchild => ?_, fun child hlink => ?_⟩
  · rw [hback]
    exact h.ahead child hchild
  · rw [hback]
    rcases h.behind child hlink with h | h | h | h
    · exact .inl h
    · exact .inr (.inl h)
    · exact .inr (.inr (.inl (hnoted child h)))
    · exact .inr (.inr (hbefore child h))

/-- The invariant, as far as it follows from its parts for nodes being explored and noted. -/
theorem Search.Sound.later (h : s.Sound graph) (hl : Later s s') (honce : s'.met.Nodup)
    (hvisits : ∀ visit ∈ s'.path, visit.Sound graph s')
    (hnested : s'.names.Pairwise fun upper lower => ReflTransGen (s'.Followed graph) lower upper)
    (hreached : ∀ id ∈ s'.met, id ∉ s.met → ReflTransGen (s'.Followed graph) graph.entry id)
    (hback : ∀ id child, (id, child) ∈ s'.found.backLinks → (id, child) ∉ s.found.backLinks →
      Links graph id child ∧ id ∈ s'.met ∧ child ∈ s'.met ∧
        ReflTransGen (s'.Followed graph) child id)
    (hnoted : ∀ id ∈ s'.found.postorder, ∀ child, Links graph id child →
      (id, child) ∈ s'.found.backLinks ∨ Before s'.found.postorder child id) :
    s'.Sound graph where
  once := honce
  entered := hl.met _ h.entered
  visits := hvisits
  nested := hnested
  reached id hid := by
    by_cases hold : id ∈ s.met
    · exact hl.paths (h.reached id hold)
    · exact hreached id hid hold
  back id child hlink := by
    by_cases hold : (id, child) ∈ s.found.backLinks
    · obtain ⟨hlink, hid, hchild, hpath⟩ := h.back id child hold
      exact ⟨hlink, hl.met id hid, hl.met child hchild, hl.paths hpath⟩
    · exact hback id child hlink hold
  noted := hnoted

section Cases

variable {id child : String} {rest : List String} {below : List Visit} {found : Explored}

theorem Search.Sound.top_not_below (h : Search.Sound graph ⟨⟨id, rest⟩ :: below, found⟩) :
    id ∉ below.map Visit.id ∧ id ∉ found.postorder := by
  have hmet : id ∉ below.map Visit.id ++ found.postorder := (List.nodup_cons.mp h.once).1
  exact ⟨fun hmem => hmet (List.mem_append_left _ hmem), fun hmem => hmet (List.mem_append_right _ hmem)⟩

/-- A node without links left is noted after all that it leads to. -/
theorem sound_note (h : Search.Sound graph ⟨⟨id, []⟩ :: below, found⟩) :
    Search.Sound graph ⟨below, { found with postorder := found.postorder ++ [id] }⟩ := by
  have hl := (.note id below found : Advance graph _ _).later
  have hperm : (id :: (below.map Visit.id ++ found.postorder)).Perm
      (below.map Visit.id ++ (found.postorder ++ [id])) := by
    rw [← List.append_assoc]
    exact (List.perm_append_singleton id _).symm
  refine h.later hl (hperm.nodup h.once) (fun visit hvisit => ?_) ?_ (fun x hx hnew => ?_)
    (fun x y hxy hnew => absurd hxy hnew) (fun x hx y hlink => ?_)
  · refine (h.visits visit (List.mem_cons_of_mem _ hvisit)).later (fun _ => Iff.rfl)
      (fun _ hchild => List.mem_append_left _ hchild) fun child hbefore => ?_
    rcases before_cons.mp hbefore with hbefore | ⟨rfl, -⟩
    · exact .inr hbefore
    · exact .inl (List.mem_append_right _ (List.mem_singleton.mpr rfl))
  · exact (List.pairwise_cons.mp h.nested).2.imp hl.paths
  · exact absurd (hperm.mem_iff.mpr hx) hnew
  · rcases List.mem_append.mp hx with hx | hx
    · exact (h.noted x hx y hlink).imp_right (Before.append · [id])
    · -- all links of the node were followed, and nothing is above it
      obtain rfl := List.mem_singleton.mp hx
      rcases (h.visits _ List.mem_cons_self).behind y hlink with hy | hy | hy | hy
      · exact absurd hy List.not_mem_nil
      · exact .inl hy
      · exact .inr (before_concat hy x)
      · have hnot := h.top_not_below.1
        rcases before_cons.mp hy with hy | ⟨-, hy⟩
        · exact absurd hy.right_mem hnot
        · exact absurd hy hnot

/-- A link back closes a circle with the nodes being explored. -/
theorem sound_back (hpath : child ∈ id :: below.map Visit.id)
    (h : Search.Sound graph ⟨⟨id, child :: rest⟩ :: below, found⟩) :
    Search.Sound graph
      ⟨⟨id, rest⟩ :: below, { found with backLinks := found.backLinks ++ [(id, child)] }⟩ := by
  have hl := (.back hpath : Advance graph ⟨⟨id, child :: rest⟩ :: below, found⟩ _).later
  have htop := h.visits _ List.mem_cons_self
  have hchild := List.nodup_cons.mp htop.once
  refine h.later hl h.once (fun visit hvisit => ?_) (h.nested.imp hl.paths)
    (fun x hx hnew => absurd hx hnew) (fun x y hxy hnew => ?_) (fun x hx y hlink => ?_)
  · rcases List.mem_cons.mp hvisit with rfl | hvisit
    · refine ⟨hchild.2, fun y hy => ?_, fun y hlink => ?_⟩
      · obtain ⟨hlink, hback⟩ := htop.ahead y (List.mem_cons_of_mem _ hy)
        refine ⟨hlink, fun hmem => ?_⟩
        rcases List.mem_append.mp hmem with hmem | hmem
        · exact hback hmem
        · obtain ⟨-, rfl⟩ := Prod.mk.inj (List.mem_singleton.mp hmem)
          exact hchild.1 hy
      · rcases htop.behind y hlink with hy | hy | hy
        · rcases List.mem_cons.mp hy with rfl | hy
          · exact .inr (.inl (List.mem_append_right _ (List.mem_singleton.mpr rfl)))
          · exact .inl hy
        · exact .inr (.inl (List.mem_append_left _ hy))
        · exact .inr (.inr hy)
    · have hne : visit.id ≠ id := fun heq =>
        h.top_not_below.1 (heq ▸ List.mem_map_of_mem hvisit)
      refine (h.visits visit (List.mem_cons_of_mem _ hvisit)).later (fun y => ?_) (fun _ hy => hy)
        fun _ hy => .inr hy
      simp [hne]
  · rcases List.mem_append.mp hxy with hxy | hxy
    · exact absurd hxy hnew
    · obtain ⟨rfl, rfl⟩ := Prod.mk.inj (List.mem_singleton.mp hxy)
      refine ⟨(htop.ahead y List.mem_cons_self).1, List.mem_cons_self,
        List.mem_append_left _ hpath, ?_⟩
      rcases List.mem_cons.mp hpath with rfl | hbelow
      · exact .refl
      · exact hl.paths ((List.pairwise_cons.mp h.nested).1 y hbelow)
  · exact (h.noted x hx y hlink).imp_left (List.mem_append_left _)

/-- Nothing is learnt from a link to a node that has been noted. -/
theorem sound_skip (hnoted : child ∈ found.postorder)
    (h : Search.Sound graph ⟨⟨id, child :: rest⟩ :: below, found⟩) :
    Search.Sound graph ⟨⟨id, rest⟩ :: below, found⟩ := by
  have hl := (.skip hnoted : Advance graph ⟨⟨id, child :: rest⟩ :: below, found⟩ _).later
  have htop := h.visits _ List.mem_cons_self
  refine h.later hl h.once (fun visit hvisit => ?_) (h.nested.imp hl.paths)
    (fun x hx hnew => absurd hx hnew) (fun x y hxy hnew => absurd hxy hnew) h.noted
  rcases List.mem_cons.mp hvisit with rfl | hvisit
  · refine ⟨(List.nodup_cons.mp htop.once).2,
      fun y hy => htop.ahead y (List.mem_cons_of_mem _ hy), fun y hlink => ?_⟩
    rcases htop.behind y hlink with hy | hy
    · rcases List.mem_cons.mp hy with rfl | hy
      · exact .inr (.inr (.inl hnoted))
      · exact .inl hy
    · exact .inr hy
  · exact (h.visits visit (List.mem_cons_of_mem _ hvisit)).later (fun _ => Iff.rfl) (fun _ hy => hy)
      fun _ hy => .inr hy

/-- A new node is explored above the node that links to it. -/
theorem sound_follow (hpath : child ∉ id :: below.map Visit.id) (hnoted : child ∉ found.postorder)
    (h : Search.Sound graph ⟨⟨id, child :: rest⟩ :: below, found⟩) :
    Search.Sound graph ⟨⟨child, children graph child⟩ :: ⟨id, rest⟩ :: below, found⟩ := by
  have hl := (.follow hpath hnoted : Advance graph ⟨⟨id, child :: rest⟩ :: below, found⟩ _).later
  have htop := h.visits _ List.mem_cons_self
  have hchild := List.nodup_cons.mp htop.once
  have hnew : child ∉ Search.met ⟨⟨id, child :: rest⟩ :: below, found⟩ := fun hmet =>
    (List.mem_append.mp hmet).elim hpath hnoted
  obtain ⟨hlink, hback⟩ := htop.ahead child List.mem_cons_self
  -- the link to the new node is now one that was followed
  have hstep : Search.Followed graph
      ⟨⟨child, children graph child⟩ :: ⟨id, rest⟩ :: below, found⟩ id child := by
    refine ⟨⟨hlink, hback⟩, List.mem_cons_of_mem _ List.mem_cons_self, fun visit hvisit hid => ?_⟩
    rcases List.mem_cons.mp hvisit with rfl | hvisit
    · exact absurd (hid ▸ List.mem_cons_self) hpath
    · rcases List.mem_cons.mp hvisit with rfl | hvisit
      · exact hchild.1
      · exact absurd (hid ▸ List.mem_map_of_mem hvisit) h.top_not_below.1
  have hbefore (y x : String) (hy : Before (id :: below.map Visit.id) y x) :
      Before (child :: id :: below.map Visit.id) y x := before_cons.mpr (.inl hy)
  refine h.later hl (List.nodup_cons.mpr ⟨hnew, h.once⟩) (fun visit hvisit => ?_)
    (List.pairwise_cons.mpr ⟨fun lower hlower => ?_, h.nested.imp hl.paths⟩) (fun x hx hxnew => ?_)
    (fun x y hxy hnew => absurd hxy hnew) h.noted
  · rcases List.mem_cons.mp hvisit with rfl | hvisit
    · exact ⟨children_nodup graph child, fun y hy => ⟨mem_children.mp hy,
        fun hmem => hnew (h.back child y hmem).2.1⟩, fun y hy => .inl (mem_children.mpr hy)⟩
    · rcases List.mem_cons.mp hvisit with rfl | hvisit
      · refine ⟨hchild.2, fun y hy => htop.ahead y (List.mem_cons_of_mem _ hy), fun y hy => ?_⟩
        rcases htop.behind y hy with hy | hy | hy | hy
        · rcases List.mem_cons.mp hy with rfl | hy
          · exact .inr (.inr (.inr (before_cons.mpr (.inr ⟨rfl, List.mem_cons_self⟩))))
          · exact .inl hy
        · exact .inr (.inl hy)
        · exact .inr (.inr (.inl hy))
        · exact .inr (.inr (.inr (hbefore y id hy)))
      · exact (h.visits visit (List.mem_cons_of_mem _ hvisit)).later (fun _ => Iff.rfl)
          (fun _ hy => hy) fun y hy => .inr (hbefore y visit.id hy)
  · have hlower' : ReflTransGen (Search.Followed graph
        ⟨⟨child, children graph child⟩ :: ⟨id, rest⟩ :: below, found⟩) lower id := by
      rcases List.mem_cons.mp hlower with rfl | hlower
      · exact .refl
      · exact hl.paths ((List.pairwise_cons.mp h.nested).1 lower hlower)
    exact hlower'.tail hstep
  · rcases List.mem_cons.mp hx with rfl | hx
    · exact (hl.paths (h.reached id List.mem_cons_self)).tail hstep
    · exact absurd hx hxnew

end Cases

theorem Advance.sound (h : Advance graph s s') (hs : s.Sound graph) : s'.Sound graph := by
  cases h with
  | note => exact sound_note hs
  | back hpath => exact sound_back hpath hs
  | skip hnoted => exact sound_skip hnoted hs
  | follow hpath hnoted => exact sound_follow hpath hnoted hs

end Step

/-! ### The end of a search -/

/-- The steps that are ahead: those of the nodes that have not been met, and what the nodes being
explored have left of theirs. -/
def Search.ahead (graph : FlowGraph) (s : Search) : Nat :=
  ∑ id ∈ graph.nodes.names.toFinset \ s.met.toFinset, ((children graph id).length + 1) +
    (s.path.map fun visit => visit.rest.length + 1).foldr (· + ·) 0

section End

variable {graph : FlowGraph} {s s' : Search}

/-- Every step is one step less ahead. -/
theorem Advance.ahead (hg : graph.Closed) (hs : s.Sound graph) (h : Advance graph s s') :
    s'.ahead graph + 1 = s.ahead graph := by
  cases h with
  | note id below found =>
    have hmet : (below.map Visit.id ++ (found.postorder ++ [id])).toFinset =
        (id :: (below.map Visit.id ++ found.postorder)).toFinset := by
      ext x
      simp only [List.mem_toFinset, List.mem_append, List.mem_cons, List.not_mem_nil, or_false]
      tauto
    simp only [Search.ahead, Search.met, Search.names, List.map_cons, List.cons_append, hmet,
      List.foldr_cons, List.length_nil]
    omega
  | back | skip =>
    simp only [Search.ahead, Search.met, Search.names, List.map_cons, List.foldr_cons,
      List.length_cons]
    omega
  | @follow id child rest below found hpath hnoted =>
    have hnew : child ∉ id :: below.map Visit.id ++ found.postorder := fun hmet =>
      (List.mem_append.mp hmet).elim hpath hnoted
    have hnode : child ∈ graph.nodes.names.toFinset \
        (id :: below.map Visit.id ++ found.postorder).toFinset := by
      refine Finset.mem_sdiff.mpr ⟨List.mem_toFinset.mpr ?_, fun h => hnew (List.mem_toFinset.mp h)⟩
      exact ((hs.visits _ List.mem_cons_self).ahead child List.mem_cons_self).1.mem_names hg
    have hsum := Finset.add_sum_erase _ (fun id => (children graph id).length + 1) hnode
    rw [← Finset.sdiff_insert, ← List.toFinset_cons] at hsum
    simp only [Search.ahead, Search.met, Search.names, List.map_cons, List.foldr_cons,
      List.length_cons, List.cons_append] at hsum ⊢
    omega

theorem run_of_ended (h : s.path = []) (steps : Nat) : Search.run graph steps s = s := by
  induction steps with
  | zero => rfl
  | succ steps ih =>
    have hstep : s.step graph = s := by
      unfold Search.step
      rw [h]
    rw [Search.run, hstep, ih]

theorem run_add (graph : FlowGraph) (steps more : Nat) (s : Search) :
    Search.run graph (steps + more) s = Search.run graph more (Search.run graph steps s) := by
  induction steps generalizing s with
  | zero => rw [Nat.zero_add, Search.run]
  | succ steps ih => rw [Nat.succ_add, Search.run, Search.run, ih]

/-- A search keeps its invariant, and ends after the steps that are ahead. -/
theorem run_spec (hg : graph.Closed) (hs : s.Sound graph) {steps : Nat}
    (hsteps : s.ahead graph ≤ steps) :
    (Search.run graph steps s).Sound graph ∧ (Search.run graph steps s).path = [] := by
  induction steps generalizing s with
  | zero =>
    refine ⟨hs, ?_⟩
    by_contra hpath
    have := (advance_of_step graph s hpath).ahead hg hs
    omega
  | succ steps ih =>
    by_cases hpath : s.path = []
    · rw [run_of_ended hpath]
      exact ⟨hs, hpath⟩
    · have hadvance := advance_of_step graph s hpath
      have := hadvance.ahead hg hs
      exact ih (hadvance.sound hs) (by omega)

theorem sound_start (graph : FlowGraph) : (Search.start graph).Sound graph where
  once := List.nodup_singleton _
  entered := List.mem_singleton.mpr rfl
  visits visit hvisit := by
    obtain rfl := List.mem_singleton.mp hvisit
    exact ⟨children_nodup graph graph.entry,
      fun child hchild => ⟨mem_children.mp hchild, List.not_mem_nil⟩,
      fun child hlink => .inl (mem_children.mpr hlink)⟩
  nested := List.pairwise_singleton _ _
  reached id hid := List.mem_singleton.mp hid ▸ .refl
  back _ _ h := absurd h List.not_mem_nil
  noted _ h := absurd h List.not_mem_nil

theorem ahead_start (hentry : graph.entry ∈ graph.nodes.names) (hnodup : graph.nodes.names.Nodup) :
    (Search.start graph).ahead graph = effort graph := by
  have hsum := Finset.add_sum_erase _ (fun id => (children graph id).length + 1)
    (List.mem_toFinset.mpr hentry)
  have hmet : graph.nodes.names.toFinset \ (Search.start graph).met.toFinset =
      graph.nodes.names.toFinset.erase graph.entry := by
    rw [Finset.erase_eq]
    rfl
  have heffort : effort graph =
      ∑ id ∈ graph.nodes.names.toFinset, ((children graph id).length + 1) :=
    (List.sum_toFinset _ hnodup).symm
  rw [Search.ahead, hmet, heffort, ← hsum, Nat.add_comm]
  rfl

end End

/-! ### What has been found out -/

/-- What a search that has ended has found. -/
structure Surveyed (graph : FlowGraph) (found : Explored) : Prop where
  once : found.postorder.Nodup
  reached : ∀ id, id ∈ found.postorder ↔ Reachable graph id
  ordered : ∀ id child, Reachable graph id → Links graph id child →
    (id, child) ∈ found.backLinks ∨ Before found.postorder child id
  returns : ∀ id child, (id, child) ∈ found.backLinks → Links graph id child ∧
    Reachable graph id ∧ ReflTransGen (Forward graph found) child id
  spanned : ∀ id, Reachable graph id → ReflTransGen (Forward graph found) graph.entry id

section Surveyed

variable {graph : FlowGraph} {found : Explored} {id child : String}

theorem links_of_forward {id child : String}
    (h : ReflTransGen (Forward graph found) id child) : ReflTransGen (Links graph) id child :=
  ReflTransGen.mono (fun _ _ h => h.1) _ _ h

theorem surveyed_of_ended {s : Search} (h : s.Sound graph) (hend : s.path = []) :
    Surveyed graph s.found := by
  have hmet : s.met = s.found.postorder := by
    rw [Search.met, Search.names, hend]
    rfl
  have hforward {id child : String} (hp : ReflTransGen (s.Followed graph) id child) :
      ReflTransGen (Forward graph s.found) id child :=
    ReflTransGen.mono (fun _ _ h => h.1) _ _ hp
  have hreached (id : String) : id ∈ s.found.postorder ↔ Reachable graph id := by
    constructor
    · exact fun hid => links_of_forward (hforward (h.reached id (hmet ▸ hid)))
    · intro hid
      induction hid with
      | refl => exact hmet ▸ h.entered
      | @tail id child _ hlink ih =>
        rcases h.noted id ih child hlink with hback | hbefore
        · exact hmet ▸ (h.back id child hback).2.2.1
        · exact hbefore.subset List.mem_cons_self
  refine ⟨hmet ▸ h.once, hreached, fun id child hid hlink => h.noted id ((hreached id).mpr hid) child
    hlink, fun id child hlink => ?_, fun id hid => ?_⟩
  · obtain ⟨hlink, hid, -, hpath⟩ := h.back id child hlink
    exact ⟨hlink, (hreached id).mp (hmet ▸ hid), hforward hpath⟩
  · exact hforward (h.reached id (hmet ▸ (hreached id).mpr hid))

/-- What stands before another name is found earlier in the list. -/
theorem Before.idxOf_lt {order : List String} {a b : String} (h : Before order a b)
    (hnodup : order.Nodup) : order.idxOf a < order.idxOf b := by
  obtain ⟨before, after, rfl⟩ := List.append_of_mem h.right_mem
  have ha := h.mem_of_split hnodup
  have hb : b ∉ before := fun hb => (List.nodup_append.mp hnodup).2.2 b hb b List.mem_cons_self rfl
  rw [List.idxOf_append_of_mem ha, List.idxOf_append_of_notMem hb]
  exact Nat.lt_of_lt_of_le (List.idxOf_lt_length_of_mem ha) (Nat.le_add_right _ _)

namespace Surveyed

theorem before_of_forward (h : Surveyed graph found) (hid : Reachable graph id)
    (hlink : Forward graph found id child) : Before found.postorder child id :=
  (h.ordered id child hid hlink.1).resolve_left hlink.2

/-- Links forward lead down in the order of the nodes noted. -/
theorem idxOf_lt (h : Surveyed graph found) (hid : Reachable graph id)
    (hpath : TransGen (Forward graph found) id child) :
    found.postorder.idxOf child < found.postorder.idxOf id := by
  induction hpath using TransGen.head_induction_on with
  | single hlink => exact (h.before_of_forward hid hlink).idxOf_lt h.once
  | head hlink _ ih =>
    exact (ih (hid.tail hlink.1)).trans ((h.before_of_forward hid hlink).idxOf_lt h.once)

theorem not_forward_self (h : Surveyed graph found) (hid : Reachable graph id) :
    ¬ TransGen (Forward graph found) id id := fun hpath =>
  Nat.lt_irrefl _ (h.idxOf_lt hid hpath)

/-- There is a link back if and only if the entry leads to a circle. -/
theorem exists_circle_iff (h : Surveyed graph found) :
    found.backLinks ≠ [] ↔ ∃ id, Reachable graph id ∧ TransGen (Links graph) id id := by
  constructor
  · intro hne
    obtain ⟨⟨id, child⟩, hlink⟩ := List.exists_mem_of_ne_nil _ hne
    obtain ⟨hlink, hid, hpath⟩ := h.returns id child hlink
    exact ⟨id, hid, .head' hlink (links_of_forward hpath)⟩
  · rintro ⟨id, hid, hcircle⟩ hnil
    refine h.not_forward_self hid (TransGen.mono (fun _ _ hlink => ⟨hlink, ?_⟩) _ _ hcircle)
    rw [hnil]
    exact List.not_mem_nil

end Surveyed

/-- A graph of an accepted template is explored to the end. -/
theorem run_of_readGraph {document templateId version : Value}
    (hread : Template.readGraph document templateId version = .ok graph) :
    Search.run graph (effort graph) (Search.start graph) = ⟨[], exploreAll graph⟩ ∧
      Surveyed graph (exploreAll graph) := by
  have hg := Template.closed_of_readGraph hread
  have hahead := ahead_start (mem_names_of_isSome hg.entered) (Template.distinct_of_readGraph hread)
  obtain ⟨hsound, hend⟩ := run_spec hg (sound_start graph) hahead.le
  refine ⟨?_, surveyed_of_ended hsound hend⟩
  unfold exploreAll
  rw [← hend]

theorem hasCycles_iff (graph : FlowGraph) :
    (measure graph).hasCycles = true ↔ (exploreAll graph).backLinks ≠ [] := by
  simp [measure]

/-- **A search finds what can be reached, and every circle.**  In a graph read from an accepted
template, the search ends after some steps and stays at its end.  It notes each node that can be
reached from the entry, and each once.  A link of such a node leads back, or to a node that was noted
before it, so that no circle is left without the links back; each link back closes a circle.  There
are cycles if and only if the entry leads to a circle. -/
theorem explored_of_readGraph {document templateId version : Value}
    (hread : Template.readGraph document templateId version = .ok graph) :
    (∃ steps, ∀ more,
      Search.run graph (steps + more) (Search.start graph) = ⟨[], exploreAll graph⟩) ∧
    (exploreAll graph).postorder.Nodup ∧
    (∀ id, id ∈ (exploreAll graph).postorder ↔ Reachable graph id) ∧
    (∀ id child, Reachable graph id → Links graph id child →
      (id, child) ∈ (exploreAll graph).backLinks ∨ Before (exploreAll graph).postorder child id) ∧
    (∀ id, Reachable graph id → ¬ TransGen (Forward graph (exploreAll graph)) id id) ∧
    (∀ id child, (id, child) ∈ (exploreAll graph).backLinks →
      Links graph id child ∧ ReflTransGen (Links graph) child id) ∧
    ((measure graph).hasCycles = true ↔
      ∃ id, Reachable graph id ∧ TransGen (Links graph) id id) := by
  obtain ⟨hrun, h⟩ := run_of_readGraph hread
  refine ⟨⟨effort graph, fun more => ?_⟩, h.once, h.reached, h.ordered,
    fun id hid => h.not_forward_self hid, fun id child hlink => ?_,
    (hasCycles_iff graph).trans h.exists_circle_iff⟩
  · rw [run_add, hrun, run_of_ended rfl]
  · obtain ⟨hlink, -, hpath⟩ := h.returns id child hlink
    exact ⟨hlink, links_of_forward hpath⟩

end Surveyed

/-- A hub with two ways out of it that lead into each other and back, a question that repeats itself,
and an attic that nothing leads to. -/
def maze : Value :=
  let way (word target : String) : Value := .object [
    ("condition", .object [("type", .text "contains"), ("value", .text word)]),
    ("nextNodeId", .text target)]
  .object [("id", .text "maze"), ("entryNodeId", .text "hub"), ("nodes", .list [
    .object [("id", .text "hub"), ("type", .text "condition"),
      ("next", .list [way "left" "alley", way "right" "bend"]), ("defaultNext", .text "exit")],
    .object [("id", .text "alley"), ("type", .text "message"), ("next", .text "bend")],
    .object [("id", .text "bend"), ("type", .text "condition"),
      ("next", .list [way "on" "alley", way "stay" "bend", way "go" "alley", way "out" "exit"]),
      ("defaultNext", .text "hub")],
    .object [("id", .text "exit"), ("type", .text "terminal")],
    .object [("id", .text "attic"), ("type", .text "message"), ("next", .text "attic")]])]

/-- Three links of the maze lead back, all from the bend, and the attic is not found. -/
theorem explored_of_readGraph_maze : ∃ graph, Template.readGraph maze .null .null = .ok graph ∧
    exploreAll graph =
      ⟨["exit", "bend", "alley", "hub"], [("bend", "alley"), ("bend", "bend"), ("bend", "hub")]⟩ ∧
    (∀ id, Reachable graph id → ¬ TransGen (Forward graph (exploreAll graph)) id id) ∧
    ReflTransGen (Links graph) "hub" "bend" ∧ ¬ Reachable graph "attic" ∧
    ∃ id, Reachable graph id ∧ TransGen (Links graph) id id := by
  have h : ((Template.readGraph maze .null .null).toOption.any fun graph => exploreAll graph =
      ⟨["exit", "bend", "alley", "hub"],
        [("bend", "alley"), ("bend", "bend"), ("bend", "hub")]⟩) = true := by decide +kernel
  obtain ⟨graph, hread, h⟩ := exists_of_any h
  have hfound := of_decide_eq_true h
  obtain ⟨-, -, hreached, -, hforward, hback, hcycles⟩ := explored_of_readGraph hread
  refine ⟨graph, hread, hfound, hforward, (hback "bend" "hub" ?_).2, fun hattic => ?_,
    hcycles.mp ((hasCycles_iff graph).mpr ?_)⟩
  · rw [hfound]
    decide
  · have hmem := (hreached "attic").mpr hattic
    rw [hfound] at hmem
    exact absurd hmem (by decide)
  · rw [hfound]
    exact List.cons_ne_nil _ _

end Parley.Complexity
