import Mathlib.Data.List.Perm.Basic
import Parley.Proofs.Action.Pact
import Parley.Schedule

/-!
# Parley.Proofs.Action.Turns — the turns of a schedule are steps of a crew

A schedule gives each action its turn up to the next pause, while a crew may stop an action at every
look at the world.  `Tracks s c`: each action of the schedule `s` has its place in the crew `c`, and
stands there where it was left.  `run_of_await`: whatever a schedule comes to, a run of the crew with
the same actions comes to as well.  So what holds of all runs of a crew holds of schedules.
-/

namespace Parley

open Time (Clocked Seconds)

variable {σ α τ : Type}

/-! ### Segments -/

/-- What is left of an action after a segment. -/
def Segment.rest : Segment σ α → Action σ α
  | ended o => .finished o
  | paused wake next => .pause wake next

/-- The action changes nothing before it looks. -/
def Action.Looks (x : Action σ α) : Prop := ∀ w, x.settle w = (x, w)

/-- The action `y` goes on with `x` when it has its turn. -/
inductive GoesOn : Action σ α → Action σ α → Prop
  | begin {x : Action σ α} : x.Looks → GoesOn x x
  | wake {wake : Wake σ} {x : Action σ α} : GoesOn (.pause wake x) x

namespace Crew

variable {others : σ → σ → Prop} {seen : Nat → σ → σ → List τ} {start c : Crew σ σ α}
  {trace : List τ} {i : Nat} {x y : Action σ α} {w : σ}

/-- What is put where it is already changes nothing. -/
theorem set_eq_self (hx : c.tasks[i]? = some x) : Crew.mk c.world (c.tasks.set i x) = c := by
  obtain ⟨hlength, rfl⟩ := List.getElem?_eq_some_iff.mp hx
  rw [List.set_getElem_self hlength]

/-- An action that has begun a step comes to the end of its segment. -/
theorem Run.segment_of_settle (h : Run Places.whole others seen start trace c)
    (hx : c.tasks[i]? = some (x.settle w).1) (hw : c.world = (x.settle w).2) :
    ∃ trace', Run Places.whole others seen start trace'
      ⟨(x.segment w).2, c.tasks.set i (x.segment w).1.rest⟩ := by
  induction x generalizing trace c w with
  | finished o =>
    obtain rfl : c.world = w := hw
    have hsame : Crew.mk c.world (c.tasks.set i (.finished o)) = c := set_eq_self hx
    exact ⟨trace, hsame.symm ▸ h⟩
  | pause wake next =>
    obtain rfl : c.world = w := hw
    have hsame : Crew.mk c.world (c.tasks.set i (.pause wake next)) = c := set_eq_self hx
    exact ⟨trace, hsame.symm ▸ h⟩
  | put v next ih => exact ih h hx hw
  | look next ih =>
    obtain rfl : c.world = w := hw
    have hlook : c.tasks[i]? = some (.look next) := hx
    have hlength := (List.getElem?_eq_some_iff.mp hlook).1
    have hnext : (c.turn Places.whole i (.look next)).tasks[i]? =
        some ((next c.world).settle c.world).1 := List.getElem?_set_self hlength
    obtain ⟨trace', hrun⟩ := ih c.world (h.turn hlook rfl) hnext rfl
    refine ⟨trace', ?_⟩
    have htasks : (c.turn Places.whole i (.look next)).tasks.set i
        ((next c.world).segment c.world).1.rest =
          c.tasks.set i ((next c.world).segment c.world).1.rest := List.set_set ..
    rwa [htasks] at hrun

/-- The turn of an action in a schedule is some steps of it. -/
theorem Run.segment (h : Run Places.whole others seen start trace c) (hy : c.tasks[i]? = some y)
    (hx : GoesOn y x) : ∃ trace', Run Places.whole others seen start trace'
      ⟨(x.segment c.world).2, c.tasks.set i (x.segment c.world).1.rest⟩ := by
  cases hx with
  | begin hlooks =>
    have hsettle := hlooks c.world
    refine h.segment_of_settle ?_ ?_
    · rw [hsettle]
      exact hy
    · rw [hsettle]
  | @wake wake =>
    have hturn := h.turn hy rfl
    have hlength := (List.getElem?_eq_some_iff.mp hy).1
    have hnext : (c.turn Places.whole i (.pause wake x)).tasks[i]? = some (x.settle c.world).1 :=
      List.getElem?_set_self hlength
    obtain ⟨trace', hrun⟩ := hturn.segment_of_settle hnext rfl
    refine ⟨trace', ?_⟩
    have htasks : (c.turn Places.whole i (.pause wake x)).tasks.set i (x.segment c.world).1.rest =
        c.tasks.set i (x.segment c.world).1.rest := List.set_set ..
    rwa [htasks] at hrun

end Crew

/-! ### Schedules -/

namespace Schedule

/-- Where the actions of a schedule are. -/
def ids (s : Schedule σ α) : List Nat :=
  s.ready.map Prod.fst ++ (s.parked.map Parked.id ++ s.outcomes.map Prod.fst)

/-- Each action has its place in the crew, and stands there where it was left. -/
structure Tracks (s : Schedule σ α) (c : Crew σ σ α) : Prop where
  world : c.world = s.world
  ready : ∀ id x, (id, x) ∈ s.ready → ∃ y, c.tasks[id]? = some y ∧ GoesOn y x
  parked : ∀ p ∈ s.parked, c.tasks[p.id]? = some (.pause p.wake p.rest)
  outcomes : ∀ id o, (id, o) ∈ s.outcomes → c.tasks[id]? = some (.finished o)
  distinct : s.ids.Nodup

variable {s : Schedule σ α} {c : Crew σ σ α} {id : Nat}

theorem ids_release (s : Schedule σ α) (released : Parked σ α → Bool) :
    (s.release released).ids.Perm s.ids := by
  have hparts := (List.filter_append_perm released s.parked).map Parked.id
  unfold ids release
  dsimp only
  rw [List.map_append, List.map_map, List.append_assoc]
  refine List.Perm.append_left _ ?_
  rw [List.map_append] at hparts
  rw [← List.append_assoc]
  exact hparts.append_right _

theorem ids_place (s : Schedule σ α) (id : Nat) (segment : Segment σ α) :
    (s.place id segment).ids.Perm (id :: s.ids) := by
  cases segment with
  | ended o =>
    unfold ids place
    simp only [List.map_append, List.map_cons, List.map_nil, ← List.append_assoc]
    exact List.perm_append_singleton _ _
  | paused wake rest =>
    unfold place
    dsimp only
    split_ifs
    · unfold ids spawn
      simp only [List.map_append, List.map_cons, List.map_nil, List.append_assoc]
      exact List.perm_middle
    · unfold ids
      simp only [List.map_append, List.map_cons, List.map_nil, List.append_assoc,
        List.singleton_append]
      rw [← List.append_assoc]
      exact List.perm_middle.trans (by rw [List.append_assoc])

theorem Tracks.release (h : Tracks s c) (released : Parked σ α → Bool) :
    Tracks (s.release released) c where
  world := h.world
  ready := by
    intro id x hx
    rcases List.mem_append.mp hx with hx | hx
    · exact h.ready id x hx
    · obtain ⟨p, hp, heq⟩ := List.mem_map.mp hx
      obtain ⟨rfl, rfl⟩ := Prod.mk.inj heq
      exact ⟨_, h.parked p (List.mem_of_mem_filter hp), .wake⟩
  parked := fun p hp => h.parked p (List.mem_of_mem_filter hp)
  outcomes := h.outcomes
  distinct := (s.ids_release released).nodup_iff.mpr h.distinct

/-- An action that had its turn is put in its place. -/
theorem Tracks.place (h : Tracks s c) {segment : Segment σ α} (hid : id ∉ s.ids)
    (htask : c.tasks[id]? = some segment.rest) : Tracks (s.place id segment) c := by
  have hdistinct : (s.place id segment).ids.Nodup :=
    (s.ids_place id segment).nodup_iff.mpr (List.nodup_cons.mpr ⟨hid, h.distinct⟩)
  cases segment with
  | ended o =>
    refine ⟨h.world, h.ready, h.parked, fun id' o' ho => ?_, hdistinct⟩
    rcases List.mem_append.mp ho with ho | ho
    · exact h.outcomes id' o' ho
    · obtain ⟨rfl, rfl⟩ := Prod.mk.inj (List.mem_singleton.mp ho)
      exact htask
  | paused wake rest =>
    unfold Schedule.place at hdistinct ⊢
    dsimp only at hdistinct ⊢
    split_ifs at hdistinct ⊢
    · refine ⟨h.world, fun id' x hx => ?_, h.parked, h.outcomes, hdistinct⟩
      rcases List.mem_append.mp hx with hx | hx
      · exact h.ready id' x hx
      · obtain ⟨rfl, rfl⟩ := Prod.mk.inj (List.mem_singleton.mp hx)
        exact ⟨_, htask, .wake⟩
    · refine ⟨h.world, h.ready, fun p hp => ?_, h.outcomes, hdistinct⟩
      rcases List.mem_append.mp hp with hp | hp
      · exact h.parked p hp
      · rw [List.mem_singleton.mp hp]
        exact htask

/-- The task of one action changes, and nobody else's. -/
theorem Tracks.set (h : Tracks s c) (hid : id ∉ s.ids) (world : σ) (x : Action σ α) :
    Tracks { s with world := world } ⟨world, c.tasks.set id x⟩ where
  world := rfl
  ready := by
    intro id' y hy
    have hne : id ≠ id' := by
      rintro rfl
      exact hid (List.mem_append_left _ (List.mem_map_of_mem hy))
    rw [List.getElem?_set_ne hne]
    exact h.ready id' y hy
  parked := by
    intro p hp
    have hne : id ≠ p.id := by
      rintro rfl
      exact hid (List.mem_append_right _ (List.mem_append_left _ (List.mem_map_of_mem hp)))
    rw [List.getElem?_set_ne hne]
    exact h.parked p hp
  outcomes := by
    intro id' o ho
    have hne : id ≠ id' := by
      rintro rfl
      exact hid (List.mem_append_right _ (List.mem_append_right _ (List.mem_map_of_mem ho)))
    rw [List.getElem?_set_ne hne]
    exact h.outcomes id' o ho
  distinct := h.distinct

/-! ### Runs -/

section Run

variable {others : σ → σ → Prop} {seen : Nat → σ → σ → List τ} {start : Crew σ σ α}
  {trace : List τ}

/-- The turn of an action. -/
theorem Tracks.turn (h : Tracks s c) (hrun : Crew.Run Places.whole others seen start trace c)
    {x : Action σ α} {more : List (Nat × Action σ α)} (hready : s.ready = (id, x) :: more) :
    ∃ trace' c', Crew.Run Places.whole others seen start trace' c' ∧
      Tracks (s.turn id x more) c' := by
  obtain ⟨y, hy, hx⟩ := h.ready id x (hready ▸ List.mem_cons_self)
  obtain ⟨trace', hrun'⟩ := hrun.segment hy hx
  rw [h.world] at hrun'
  refine ⟨trace', _, hrun', ?_⟩
  have hids : id ∉ ({ s with ready := more } : Schedule σ α).ids ∧
      ({ s with ready := more } : Schedule σ α).ids.Nodup := by
    have hdistinct := h.distinct
    unfold ids at hdistinct ⊢
    rw [hready] at hdistinct
    exact List.nodup_cons.mp hdistinct
  have hmore : Tracks { s with ready := more } c :=
    ⟨h.world, fun id' y hy => h.ready id' y (hready ▸ List.mem_cons_of_mem _ hy), h.parked,
      h.outcomes, hids.2⟩
  have hset := hmore.set hids.1 (x.segment s.world).2 (x.segment s.world).1.rest
  have hreleased := hset.release fun p => p.wake.ready (x.segment s.world).2
  refine hreleased.place ?_ ?_
  · exact fun hmem => hids.1 (((ids_release _ _).mem_iff).mp hmem)
  · exact List.getElem?_set_self (List.getElem?_eq_some_iff.mp hy).1

variable [Clocked σ]
  (hclock : ∀ (w : σ) reading, others w (Clocked.setClock w ((Clocked.clock w).turnTo reading)))
include hclock

/-- The clock turns. -/
theorem Tracks.ring (h : Tracks s c) (hrun : Crew.Run Places.whole others seen start trace c)
    (reading : Seconds) :
    ∃ c', Crew.Run Places.whole others seen start trace c' ∧ Tracks (s.ring reading) c' := by
  refine ⟨_, hrun.others (hclock c.world reading), Tracks.release ?_ _⟩
  exact ⟨by rw [h.world], h.ready, h.parked, h.outcomes, h.distinct⟩

theorem Tracks.await (h : Tracks s c) (hrun : Crew.Run Places.whole others seen start trace c)
    (awaited : List Nat) (turns : Nat) :
    ∃ trace' c', Crew.Run Places.whole others seen start trace' c' ∧
      Tracks (s.await awaited turns) c' := by
  induction turns generalizing s c trace with
  | zero => exact ⟨trace, c, hrun, h⟩
  | succ turns ih =>
    unfold Schedule.await
    split_ifs
    · exact ⟨trace, c, hrun, h⟩
    · split
      · rename_i id x more hready
        obtain ⟨trace', c', hrun', h'⟩ := h.turn hrun hready
        exact ih h' hrun'
      · split
        · rename_i reading _
          obtain ⟨c', hrun', h'⟩ := h.ring hclock hrun reading
          exact ih h' hrun'
        · exact ⟨trace, c, hrun, h⟩

end Run

/-! ### The start -/

section Start

variable {β : Type} {l : List β} {begin : β → Action σ α} {w : σ}

theorem foldl_spawn (more : List (Nat × β)) (begin : β → Action σ α) (s : Schedule σ α) :
    more.foldl (fun s (id, b) => s.spawn id (begin b)) s =
      { s with ready := s.ready ++ more.map fun (id, b) => (id, begin b) } := by
  induction more generalizing s with
  | nil => rw [List.foldl_nil, List.map_nil, List.append_nil]
  | cons b more ih =>
    rw [List.foldl_cons, ih, List.map_cons]
    unfold spawn
    rw [List.append_assoc]
    rfl

/-- The actions of a list, in the order of their turns. -/
def begun (w : σ) (l : List β) (begin : β → Action σ α) : Schedule σ α :=
  ((List.range l.length).zip l).foldl (fun s (id, b) => s.spawn id (begin b)) (new w)

theorem tracks_begun (hbegin : ∀ b, (begin b).Looks) :
    Tracks (begun w l begin) ⟨w, l.map begin⟩ := by
  unfold begun
  rw [foldl_spawn]
  refine ⟨rfl, fun id x hx => ?_, fun p hp => absurd hp List.not_mem_nil,
    fun id o ho => absurd ho List.not_mem_nil, ?_⟩
  · obtain ⟨⟨id', b⟩, hb, heq⟩ := List.mem_map.mp hx
    obtain ⟨rfl, rfl⟩ := Prod.mk.inj heq
    obtain ⟨i, hi⟩ := List.getElem?_of_mem hb
    obtain ⟨hid, hget⟩ := List.getElem?_zip_eq_some.mp hi
    obtain ⟨hlength, rfl⟩ := List.getElem?_eq_some_iff.mp hid
    refine ⟨_, ?_, .begin (hbegin b)⟩
    rw [List.getElem_range, List.getElem?_map, hget]
    rfl
  · have hids : (((List.range l.length).zip l).map Prod.fst) = List.range l.length :=
      List.map_fst_zip (Nat.le_of_eq List.length_range)
    unfold ids new
    simp only [List.nil_append, List.map_map, List.map_nil, List.append_nil]
    have hfst : (Prod.fst ∘ fun (id, b) => (id, begin b) : Nat × β → Nat) = Prod.fst := rfl
    rw [hfst, hids]
    exact List.nodup_range

end Start

/-- **Whatever a schedule comes to, a run of a crew comes to**: with the same world, and with the
same outcomes of those actions that are over. -/
theorem run_of_await [Clocked σ] {β : Type} {others : σ → σ → Prop}
    (seen : Nat → σ → σ → List τ)
    (hclock : ∀ (w : σ) reading, others w (Clocked.setClock w ((Clocked.clock w).turnTo reading)))
    {begin : β → Action σ α} (hbegin : ∀ b, (begin b).Looks) (w : σ) (l : List β)
    (awaited : List Nat) (turns : Nat) :
    ∃ trace c, Crew.Run Places.whole others seen ⟨w, l.map begin⟩ trace c ∧
      c.world = ((begun w l begin).await awaited turns).world ∧
      ∀ id o, ((begun w l begin).await awaited turns).outcome? id = some o →
        c.tasks[id]? = some (.finished o) := by
  have hstart : Crew.Run Places.whole others seen ⟨w, l.map begin⟩ [] ⟨w, l.map begin⟩ := .start
  obtain ⟨trace, c, hrun, htracks⟩ := (tracks_begun hbegin).await hclock hstart awaited turns
  refine ⟨trace, c, hrun, htracks.world, fun id o ho => ?_⟩
  obtain ⟨⟨id', o'⟩, hfound, rfl⟩ := Option.map_eq_some_iff.mp ho
  have hid : id' = id := by simpa using List.find?_some hfound
  rw [← hid]
  exact htracks.outcomes id' o' (List.mem_of_find?_eq_some hfound)

end Schedule

end Parley
