import Mathlib.Data.List.Basic
import Parley.Proofs.Session.Hall

/-!
# Parley.Proofs.Session.InTurn — the locks of sessions keep guests in turn

`InTurn guests trace c`: after the steps in `trace`, at most one guest is inside under each name, the
users of a lock are those who hold it and those who wait for it, and there is a lock for a name as
long as there are any.  Nobody was disturbed by the steps of others, and whoever is over failed
because the lock was busy or did the errand.  `inTurn_of_run`: so it is in every run, from no locks
on, whatever the errands are and whatever turns the guests take.
-/

namespace Parley.Session

open Pact (Ending)
open Time (Clocked)

variable {ε α : Type}

/-! ### What is seen of a run -/

/-- The name of a guest's lock. -/
def nameOf (guests : List (Guest ε α)) (i : Nat) : String := (guests[i]?.elim "" Guest.name)

/-- The ticket a guest was given, with the first step. -/
def ticket? (names : Nat → String) (trace : List (Crew.Move (Hall ε))) (i : Nat) : Option Ticket :=
  (trace.find? (·.job = i)).map fun move => (move.before.locks.enter (names i)).1

/-- A guest was inside after some step. -/
def WasInside (trace : List (Crew.Move (Hall ε))) (i : Nat) : Prop :=
  ∃ move ∈ trace, i ∈ move.after.inside

/-- The guests who have entered under a name, and not left. -/
def here (guests : List (Guest ε α)) (trace : List (Crew.Move (Hall ε)))
    (tasks : List (Action (Hall ε) α)) (name : String) : List Nat :=
  (List.range guests.length).filter fun i => guests[i]?.any (·.name = name) &&
    ((ticket? (nameOf guests) trace i).isSome && tasks[i]?.any (!·.isOver))

/-- A guest holds the lock that a name stands for. -/
def hasLock (names : Nat → String) (trace : List (Crew.Move (Hall ε))) (locks : Locks)
    (name : String) (i : Nat) : Bool :=
  (ticket? names trace i).any fun t => (locks.lockOf name).holder = some t

/-- Of those who are here, the one who holds the lock. -/
def holders (guests : List (Guest ε α)) (trace : List (Crew.Move (Hall ε)))
    (c : Crew (Hall ε) (Hall ε) α) (name : String) : List Nat :=
  (here guests trace c.tasks name).filter (hasLock (nameOf guests) trace c.world.locks name)

/-- Of those who are here, the others. -/
def waiters (guests : List (Guest ε α)) (trace : List (Crew.Move (Hall ε)))
    (c : Crew (Hall ε) (Hall ε) α) (name : String) : List Nat :=
  (here guests trace c.tasks name).filter fun i =>
    !hasLock (nameOf guests) trace c.world.locks name i

/-- Whoever held a lock before a step of somebody else holds it after that. -/
def Undisturbed (names : Nat → String) (trace : List (Crew.Move (Hall ε)))
    (move : Crew.Move (Hall ε)) : Prop :=
  ∀ name t, (move.before.locks.lockOf name).holder = some t →
    ticket? names trace move.job ≠ some t → (move.after.locks.lockOf name).holder = some t

/-- The guests are kept in turn. -/
structure InTurn (guests : List (Guest ε α)) (trace : List (Crew.Move (Hall ε)))
    (c : Crew (Hall ε) (Hall ε) α) : Prop where
  exclusive : ∀ {i j : Nat} {g g' : Guest ε α}, i ∈ c.world.inside → j ∈ c.world.inside →
    guests[i]? = some g → guests[j]? = some g' → g.name = g'.name → i = j
  holding : ∀ i ∈ c.world.inside, ∃ g, guests[i]? = some g ∧ i ∈ holders guests trace c g.name
  users : ∀ name, c.world.locks.usersOf name =
    (holders guests trace c name).length + (waiters guests trace c name).length
  kept : ∀ name, c.world.locks.names.has name = true ↔
    0 < (holders guests trace c name).length + (waiters guests trace c name).length
  undisturbed : ∀ move ∈ trace, Undisturbed (nameOf guests) trace move
  ended : ∀ {i : Nat} {g : Guest ε α} {o : Except Fault α}, guests[i]? = some g →
    c.tasks[i]? = some (.finished o) →
    ¬WasInside trace i ∧ o = .error (busy g.name) ∨ WasInside trace i ∧ g.errand.MayEnd o
  closed : (∀ x ∈ c.tasks, x.isOver = true) → c.world.locks.active = 0

/-- Guests who have not come yet. -/
def crew [Clocked ε] (guests : List (Guest ε α)) (surroundings : ε) :
    Crew (Hall ε) (Hall ε) α :=
  ⟨⟨.empty, [], surroundings⟩, guests.mapIdx fun i g => g.task i⟩

section Trace

variable {names : Nat → String} {trace : List (Crew.Move (Hall ε))} {move : Crew.Move (Hall ε)}
  {i : Nat} {t : Ticket}

theorem ticket?_append_of_some (h : ticket? names trace i = some t) :
    ticket? names (trace ++ [move]) i = some t := by
  unfold ticket? at h ⊢
  obtain ⟨first, hfirst, hnext⟩ := Option.map_eq_some_iff.mp h
  rw [List.find?_append, hfirst]
  exact congrArg some hnext

theorem ticket?_append_of_ne (h : move.job ≠ i) :
    ticket? names (trace ++ [move]) i = ticket? names trace i := by
  unfold ticket?
  rw [List.find?_append, List.find?_singleton, if_neg (by simpa using h), Option.or_none]

theorem ticket?_append_of_none (h : ticket? names trace move.job = none) :
    ticket? names (trace ++ [move]) move.job = some (move.before.locks.enter (names move.job)).1 := by
  unfold ticket? at h ⊢
  rw [List.find?_append, Option.map_eq_none_iff.mp h, List.find?_singleton, if_pos (by simp)]
  rfl

/-- Whoever took a step has a ticket. -/
theorem ticket?_of_mem (h : move ∈ trace) : ∃ t, ticket? names trace move.job = some t := by
  have hfound : (trace.find? (·.job = move.job)).isSome = true :=
    List.find?_isSome.mpr ⟨move, h, by simp⟩
  obtain ⟨first, hfirst⟩ := Option.isSome_iff_exists.mp hfound
  exact ⟨(first.before.locks.enter (names move.job)).1, by unfold ticket?; rw [hfirst]; rfl⟩

theorem wasInside_append :
    WasInside (trace ++ [move]) i ↔ WasInside trace i ∨ i ∈ move.after.inside := by
  unfold WasInside
  simp only [List.mem_append, List.mem_singleton, or_and_right, exists_or, exists_eq_left]

end Trace

/-! ### The invariant -/

/-- Writing what is there. -/
theorem set_of_getElem? {β : Type} {l : List β} {i : Nat} {b : β} (h : l[i]? = some b) :
    l.set i b = l := by
  obtain ⟨hlength, rfl⟩ := List.getElem?_eq_some_iff.mp h
  exact List.set_getElem_self hlength

/-- Errands begin and end once. -/
inductive Progress.Goes : Progress → Progress → Prop
  | same {p : Progress} : Goes p p
  | begin : Goes .before .during
  | finish : Goes .during .after

/-- The visits of all guests, the steps so far and the hall go together. -/
structure Attending (names : Nat → String) (visits : List Visit)
    (trace : List (Crew.Move (Hall ε))) (w : Hall ε) : Prop where
  census : Census names (visits.map Visit.stand) w.locks
  inside : ∀ i, i ∈ w.inside ↔ ∃ v, visits[i]? = some v ∧ v.progress = .during
  nodup : w.inside.Nodup
  during : ∀ {i : Nat} {v : Visit}, visits[i]? = some v → v.progress = .during →
    ∃ t, v.stand = .inside t
  tickets : ∀ {i : Nat} {v : Visit}, visits[i]? = some v → v.stand.ticket? = ticket? names trace i
  began : ∀ {i : Nat} {v : Visit}, visits[i]? = some v →
    (v.progress ≠ .before ↔ WasInside trace i)
  undisturbed : ∀ move ∈ trace, Undisturbed names trace move

section Invariant

variable {names : Nat → String} {visits : List Visit} {trace : List (Crew.Move (Hall ε))}
  {w w' : Hall ε} {i : Nat} {v v' : Visit}

theorem attending_fresh (surroundings : ε) (n : Nat) :
    Attending names (List.replicate n .fresh) [] ⟨.empty, [], surroundings⟩ := by
  have hfresh {i : Nat} {v : Visit} (hi : (List.replicate n Visit.fresh)[i]? = some v) :
      v = .fresh := List.eq_of_mem_replicate (List.mem_of_getElem? hi)
  refine ⟨census_outside fun stand hstand => ?_, fun i => ?_, List.nodup_nil, fun hi hv => ?_,
    fun hi => ?_, fun hi => ?_, fun _ h => nomatch h⟩
  · obtain ⟨v, hv, rfl⟩ := List.mem_map.mp hstand
    rw [List.eq_of_mem_replicate hv]
    rfl
  · refine ⟨fun h => (nomatch h), fun ⟨v, hi, hv⟩ => ?_⟩
    rw [hfresh hi] at hv
    exact nomatch hv
  · rw [hfresh hi] at hv
    exact nomatch hv
  · rw [hfresh hi]
    rfl
  · rw [hfresh hi]
    exact ⟨fun h => absurd rfl h, fun ⟨_, h, _⟩ => nomatch h⟩

namespace Attending

variable (h : Attending names visits trace w)
include h

/-- Others do not touch the locks. -/
theorem others (hstill : Hall.Still w w') : Attending names visits trace w' := by
  obtain ⟨hlocks, hinside⟩ := hstill
  refine ⟨hlocks ▸ h.census, fun i => ?_, hinside ▸ h.nodup, h.during, h.tickets, h.began,
    h.undisturbed⟩
  rw [hinside]
  exact h.inside i

/-- A step of one guest, which keeps the census, the ticket and the order of the errand. -/
theorem set (hi : visits[i]? = some v)
    (hcensus : Census names ((visits.map Visit.stand).set i v'.stand) w'.locks)
    (hticket : v'.stand.ticket? = v.stand.ticket?.or (some (w.locks.enter (names i)).1))
    (hgoes : v.progress.Goes v'.progress)
    (hinside : ∀ j, j ∈ w'.inside ↔ if j = i then v'.progress = .during else j ∈ w.inside)
    (hnodup : w'.inside.Nodup) (hduring : v'.progress = .during → ∃ t, v'.stand = .inside t)
    (hundisturbed : ∀ name t, (w.locks.lockOf name).holder = some t →
      v'.stand.ticket? ≠ some t → (w'.locks.lockOf name).holder = some t) :
    Attending names (visits.set i v') (trace ++ [⟨i, w, w'⟩]) w' := by
  have hlength := (List.getElem?_eq_some_iff.mp hi).1
  have hself : (visits.set i v')[i]? = some v' := List.getElem?_set_self hlength
  have hmine : v'.stand.ticket? = ticket? names (trace ++ [⟨i, w, w'⟩]) i := by
    have hbefore := h.tickets hi
    cases ht : v.stand.ticket? with
    | none =>
      rw [ht] at hticket hbefore
      rw [hticket]
      have hnone : ticket? names trace (Crew.Move.mk i w w').job = none := hbefore.symm
      exact (ticket?_append_of_none hnone).symm
    | some t =>
      rw [ht] at hticket hbefore
      rw [hticket, ticket?_append_of_some hbefore.symm]
      rfl
  refine ⟨?_, fun j => ?_, hnodup, fun hj hv => ?_, fun hj => ?_, fun {j u} hj => ?_, ?_⟩
  · rwa [List.map_set]
  · rw [hinside]
    split_ifs with hij
    · subst hij
      refine ⟨fun hv => ⟨v', hself, hv⟩, fun ⟨u, hu, hv⟩ => ?_⟩
      rw [hself] at hu
      rwa [Option.some.inj hu]
    · rw [h.inside, List.getElem?_set_ne (Ne.symm hij)]
  · rcases of_getElem?_set hj with ⟨rfl, rfl⟩ | ⟨-, hj⟩
    · exact hduring hv
    · exact h.during hj hv
  · rcases of_getElem?_set hj with ⟨rfl, rfl⟩ | ⟨hij, hj⟩
    · exact hmine
    · rw [ticket?_append_of_ne hij]
      exact h.tickets hj
  · rw [wasInside_append, hinside]
    rcases of_getElem?_set hj with ⟨rfl, rfl⟩ | ⟨hij, hj⟩
    · rw [if_pos rfl, ← h.began hi]
      generalize v.progress = p at hgoes
      generalize u.progress = p' at hgoes
      cases hgoes with
      | same => cases p <;> simp
      | begin => simp
      | finish => simp
    · rw [if_neg (Ne.symm hij), ← h.began hj, h.inside]
      refine ⟨.inl, fun hor => hor.elim id fun ⟨u', hu', hv⟩ => ?_⟩
      rw [hj] at hu'
      rw [Option.some.inj hu', hv]
      exact nofun
  · intro move hmove name t hholder hne
    rcases List.mem_append.mp hmove with hold | hnew
    · obtain ⟨t', ht'⟩ : ∃ t', ticket? names trace move.job = some t' := ticket?_of_mem hold
      refine h.undisturbed move hold name t hholder fun hsame => hne ?_
      exact ticket?_append_of_some hsame
    · rw [List.mem_singleton.mp hnew] at hholder hne ⊢
      rw [← hmine] at hne
      exact hundisturbed name t hholder hne

/-- A step that begins no errand and ends none. -/
theorem setStand {s : Stand} (hi : visits[i]? = some v)
    (hcensus : Census names ((visits.map Visit.stand).set i s) w'.locks)
    (hticket : s.ticket? = v.stand.ticket?.or (some (w.locks.enter (names i)).1))
    (hduring : v.progress = .during → ∃ t, s = .inside t) (hinside : w'.inside = w.inside)
    (hundisturbed : ∀ name t, (w.locks.lockOf name).holder = some t →
      s.ticket? ≠ some t → (w'.locks.lockOf name).holder = some t) :
    Attending names (visits.set i { v with stand := s }) (trace ++ [⟨i, w, w'⟩]) w' := by
  refine h.set hi hcensus hticket .same (fun j => ?_) (hinside ▸ h.nodup) hduring hundisturbed
  rw [hinside]
  split_ifs with hij
  · subst hij
    refine (h.inside j).trans ⟨fun ⟨u, hu, hv⟩ => ?_, fun hv => ⟨v, hi, hv⟩⟩
    rw [hi] at hu
    rwa [Option.some.inj hu]
  · exact Iff.rfl

/-- A step of one who is inside, which begins the errand or ends it. -/
theorem setProgress {t : Ticket} {p : Progress} (hi : visits[i]? = some v)
    (hstand : v.stand = .inside t) (hgoes : v.progress.Goes p)
    (hinside : ∀ j, j ∈ w'.inside ↔ if j = i then p = .during else j ∈ w.inside)
    (hnodup : w'.inside.Nodup) (hlocks : w'.locks = w.locks) :
    Attending names (visits.set i { v with progress := p }) (trace ++ [⟨i, w, w'⟩]) w' := by
  have hsame : (visits.map Visit.stand).set i v.stand = visits.map Visit.stand := by
    rw [← List.map_set, set_of_getElem? hi]
  refine h.set hi ?_ ?_ hgoes hinside hnodup (fun _ => ⟨t, hstand⟩) fun _ _ hholder _ => ?_
  · rw [hsame, hlocks]
    exact h.census
  · rw [hstand]
    rfl
  · rwa [hlocks]

/-- **A step of a guest keeps all guests in turn.** -/
theorem advance (hi : visits[i]? = some v) (hadvance : Advance (names i) i v w v' w') :
    Attending names (visits.set i v') (trace ++ [⟨i, w, w'⟩]) w' := by
  have hstand : (visits.map Visit.stand)[i]? = some v.stand := by
    rw [List.getElem?_map, hi]
    rfl
  -- one who is at an errand is inside, and cannot be anywhere else
  have hnot {s : Stand} (hs : v.stand = s) (hne : ∀ t, s ≠ .inside t) : v.progress ≠ .during := by
    intro hduring
    obtain ⟨t, ht⟩ := h.during hi hduring
    exact hne t (hs.symm.trans ht)
  cases hadvance with
  | enter houtside =>
    rw [houtside] at hstand
    refine h.setStand hi (h.census.enter hstand) (by rw [houtside]; rfl)
      (fun hduring => absurd hduring (hnot houtside nofun)) rfl fun name t hholder _ => ?_
    exact (congrArg Lock.holder Locks.lockOf_enter).trans hholder
  | leave hpresent hnotDuring =>
    refine h.setStand hi (h.census.leave hstand hpresent) (by rw [hpresent.ticket]; rfl)
      (fun hduring => absurd hduring hnotDuring) rfl fun name t hholder hne => ?_
    exact h.census.holder_leave hstand hpresent hholder fun hsame => hne (congrArg some hsame.symm)
  | stride hpresent hstride =>
    cases hstride with
    | still hstill =>
      refine h.setStand hi ?_ ?_ (fun hduring => ?_) hstill.2 fun name t hholder _ => ?_
      · rw [← List.map_set, set_of_getElem? hi, hstill.1]
        exact h.census
      · rw [hpresent.ticket]
        rfl
      · exact h.during hi hduring
      · rwa [hstill.1]
    | ask hentered =>
      rw [hentered] at hstand
      refine h.setStand hi (h.census.ask hstand) (by rw [hentered]; rfl)
        (fun hduring => absurd hduring (hnot hentered nofun)) rfl fun name t hholder _ => ?_
      exact Locks.holder_lockOf_ask hholder
    | grasp hinLine hholds =>
      rw [hinLine] at hstand
      exact h.setStand hi (h.census.grasp hstand hholds) (by rw [hinLine]; rfl)
        (fun hduring => absurd hduring (hnot hinLine nofun)) rfl fun _ _ hholder _ => hholder
    | begin hinside hbefore =>
      have hnotIn : i ∉ w.inside := by
        rw [h.inside]
        rintro ⟨u, hu, hduring⟩
        rw [hi] at hu
        rw [← Option.some.inj hu, hbefore] at hduring
        exact nomatch hduring
      refine h.setProgress hi hinside (hbefore ▸ .begin) (fun j => ?_)
        (List.nodup_cons.mpr ⟨hnotIn, h.nodup⟩) rfl
      rw [List.mem_cons]
      split_ifs with hij
      · simp [hij]
      · simp [hij]
    | finish hinside hduring =>
      refine h.setProgress hi hinside (hduring ▸ .finish) (fun j => ?_) (h.nodup.erase i) rfl
      rw [h.nodup.mem_erase_iff]
      split_ifs with hij
      · simp [hij]
      · simp [hij]

end Attending

end Invariant

/-! ### Runs -/

section Run

variable [Clocked ε] {guests : List (Guest ε α)} {visits : List Visit}
  {trace : List (Crew.Move (Hall ε))} {c : Crew (Hall ε) (Hall ε) α} {i : Nat} {g : Guest ε α}
  {name : String}

/-- All guests have come as far as their visits say. -/
structure Underway (guests : List (Guest ε α)) (visits : List Visit)
    (trace : List (Crew.Move (Hall ε))) (c : Crew (Hall ε) (Hall ε) α) : Prop where
  attending : Attending (nameOf guests) visits trace c.world
  length : visits.length = guests.length
  length_tasks : c.tasks.length = guests.length
  guest : ∀ {i : Nat} {g : Guest ε α}, guests[i]? = some g →
    ∃ v x, visits[i]? = some v ∧ c.tasks[i]? = some x ∧ At g i v x

omit [Clocked ε] in
theorem nameOf_eq (h : guests[i]? = some g) : nameOf guests i = g.name := by
  unfold nameOf
  rw [h]
  rfl

theorem underway_crew (guests : List (Guest ε α)) (surroundings : ε) :
    Underway guests (List.replicate guests.length .fresh) [] (crew guests surroundings) := by
  refine ⟨attending_fresh surroundings _, List.length_replicate, List.length_mapIdx,
    fun {i g} hi => ?_⟩
  refine ⟨.fresh, g.task i, ?_, ?_, .outside⟩
  · rw [List.getElem?_replicate, if_pos (List.getElem?_eq_some_iff.mp hi).1]
  · show (guests.mapIdx fun i g => g.task i)[i]? = some (g.task i)
    rw [List.getElem?_mapIdx, hi]
    rfl

/-- One guest takes a step. -/
theorem Underway.turn (h : Underway guests visits trace c) {x : Action (Hall ε) α}
    (hx : c.tasks[i]? = some x) (hover : x.isOver = false) :
    ∃ v', Underway guests (visits.set i v')
      (trace ++ [⟨i, c.world, (c.turn Places.whole i x).world⟩]) (c.turn Places.whole i x) := by
  have hlength := (List.getElem?_eq_some_iff.mp hx).1
  rw [h.length_tasks] at hlength
  obtain ⟨v, x', hv, hx', hat⟩ := h.guest (List.getElem?_eq_getElem hlength)
  obtain rfl := Option.some.inj (hx.symm.trans hx')
  obtain ⟨v', hadvance, hnext⟩ := hat.step hover c.world
  rw [← nameOf_eq (List.getElem?_eq_getElem hlength)] at hadvance
  refine ⟨v', h.attending.advance hv hadvance, ?_, ?_, fun {j g'} hj => ?_⟩
  · rw [List.length_set, h.length]
  · exact (List.length_set ..).trans h.length_tasks
  · by_cases hij : i = j
    · subst hij
      obtain rfl := Option.some.inj ((List.getElem?_eq_getElem hlength).symm.trans hj)
      exact ⟨v', _, List.getElem?_set_self (by rwa [h.length]),
        List.getElem?_set_self (by rwa [h.length_tasks]), hnext⟩
    · obtain ⟨u, y, hu, hy, hat'⟩ := h.guest hj
      exact ⟨u, y, by rwa [List.getElem?_set_ne hij], (List.getElem?_set_ne hij).trans hy, hat'⟩

/-- Every run keeps the guests underway. -/
theorem underway_of_run {surroundings : ε}
    (hrun : Crew.Run Places.whole Hall.Still Crew.record (crew guests surroundings) trace c) :
    ∃ visits, Underway guests visits trace c := by
  induction hrun with
  | start => exact ⟨_, underway_crew guests surroundings⟩
  | turn _ hx hover ih =>
    obtain ⟨visits, h⟩ := ih
    obtain ⟨v', h'⟩ := h.turn hx hover
    exact ⟨_, h'⟩
  | others _ hstill ih =>
    obtain ⟨visits, h⟩ := ih
    exact ⟨visits, h.attending.others hstill, h.length, h.length_tasks, h.guest⟩

/-- A list is counted by its places. -/
theorem countP_range {β : Type} (l : List β) (q : β → Bool) :
    (List.range l.length).countP (fun i => l[i]?.any q) = l.countP q := by
  induction l with
  | nil => rfl
  | cons b l ih =>
    rw [List.length_cons, List.range_succ_eq_map, List.countP_cons, List.countP_map,
      List.countP_cons, ← ih]
    rfl

namespace Underway

variable (h : Underway guests visits trace c)
include h

/-- Who is here has entered and not left. -/
theorem mem_here (hi : guests[i]? = some g) {v : Visit} (hv : visits[i]? = some v) :
    i ∈ here guests trace c.tasks name ↔
      (⟨nameOf guests i, v.stand.hold⟩ : Visitor).isAt name = true := by
  obtain ⟨v', x, hv', hx, hat⟩ := h.guest hi
  obtain rfl := Option.some.inj (hv.symm.trans hv')
  have hlength := (List.getElem?_eq_some_iff.mp hi).1
  unfold here
  rw [List.mem_filter, isAt_mk, nameOf_eq hi, hi, hx, ← h.attending.tickets hv, Option.any_some,
    Option.any_some, hat.here_iff]
  simp [hlength]

/-- The census counts who is here. -/
theorem length_here (name : String) :
    (here guests trace c.tasks name).length = c.world.locks.usersOf name := by
  rw [h.attending.census.users, headcount, ← countP_range, here, ← List.countP_eq_length_filter]
  have hlength : (visitors (nameOf guests) (visits.map Visit.stand)).length = guests.length := by
    rw [visitors, List.length_mapIdx, List.length_map, h.length]
  rw [hlength]
  refine List.countP_congr fun i hi => ?_
  have hi' := List.getElem?_eq_getElem (List.mem_range.mp hi)
  obtain ⟨v, x, hv, -, -⟩ := h.guest hi'
  have hhere : i ∈ here guests trace c.tasks name ↔ _ := h.mem_here hi' hv
  unfold here at hhere
  rw [List.mem_filter, and_iff_right hi] at hhere
  rw [getElem?_visitors, List.getElem?_map, hv]
  exact hhere

/-- Whoever is here holds the lock or waits for it. -/
theorem length_holders_add (name : String) :
    (holders guests trace c name).length + (waiters guests trace c name).length =
      c.world.locks.usersOf name := by
  rw [← h.length_here]
  exact (List.length_eq_length_filter_add _).symm

theorem visitOf (hi : i ∈ c.world.inside) : ∃ g v t, guests[i]? = some g ∧ visits[i]? = some v ∧
    v.stand = .inside t ∧ ticket? (nameOf guests) trace i = some t := by
  obtain ⟨v, hv, hduring⟩ := (h.attending.inside i).mp hi
  obtain ⟨t, hstand⟩ := h.attending.during hv hduring
  have hlength := (List.getElem?_eq_some_iff.mp hv).1
  rw [h.length] at hlength
  refine ⟨_, v, t, List.getElem?_eq_getElem hlength, hv, hstand, ?_⟩
  rw [← h.attending.tickets hv, hstand]
  rfl

/-- **The guests are in turn.** -/
theorem inTurn : InTurn guests trace c := by
  have hstands {i : Nat} {v : Visit} (hv : visits[i]? = some v) :
      (visits.map Visit.stand)[i]? = some v.stand := by
    rw [List.getElem?_map, hv]
    rfl
  refine ⟨fun {i j g g'} hi hj hg hg' hname => ?_, fun i hi => ?_, fun name => ?_, fun name => ?_,
    h.attending.undisturbed, fun {i g o} hg ho => ?_, fun hover => ?_⟩
  · obtain ⟨-, v, t, -, hv, hstand, -⟩ := h.visitOf hi
    obtain ⟨-, v', t', -, hv', hstand', -⟩ := h.visitOf hj
    refine h.attending.census.eq_of_inside (hstand ▸ hstands hv) (hstand' ▸ hstands hv') ?_
    rwa [nameOf_eq hg, nameOf_eq hg']
  · obtain ⟨g, v, t, hg, hv, hstand, hticket⟩ := h.visitOf hi
    have hholder := h.attending.census.holder (hstand ▸ hstands hv)
    rw [nameOf_eq hg] at hholder
    refine ⟨g, hg, List.mem_filter.mpr ⟨(h.mem_here hg hv).mpr ?_, ?_⟩⟩
    · rw [hstand, nameOf_eq hg]
      exact isAt_of_present (.inr (.inr rfl)) _
    · unfold hasLock
      rw [hticket]
      exact decide_eq_true hholder
  · exact (h.length_holders_add name).symm
  · rw [h.length_holders_add]
    exact h.attending.census.kept name
  · obtain ⟨v, x, hv, hx, hat⟩ := h.guest hg
    rw [ho] at hx
    obtain rfl := Option.some.inj hx
    have hbegan := h.attending.began hv
    have hconcluded := hat.concluded
    generalize v.progress = p at hbegan hconcluded
    cases p with
    | before => exact .inl ⟨fun hwas => hbegan.mpr hwas rfl, hconcluded⟩
    | during => exact hconcluded.elim
    | after => exact .inr ⟨hbegan.mp nofun, hconcluded⟩
  · refine h.attending.census.kept.active_eq_zero fun name => ?_
    rw [← h.length_here, List.length_eq_zero_iff, here, List.filter_eq_nil_iff]
    intro i _ hhere
    simp only [Bool.and_eq_true, Option.any_eq_true] at hhere
    obtain ⟨-, -, x, hx, hnot⟩ := hhere
    rw [hover x (List.mem_of_getElem? hx)] at hnot
    exact nomatch hnot

end Underway

/-- **Guests with errands under locks are kept in turn**, any number of them and with any errands
and names, whatever turns they take and whenever they give up waiting, while time passes and the
surroundings change. -/
theorem inTurn_of_run {surroundings : ε}
    (hrun : Crew.Run Places.whole Hall.Still Crew.record (crew guests surroundings) trace c) :
    InTurn guests trace c := by
  obtain ⟨visits, h⟩ := underway_of_run hrun
  exact h.inTurn

end Run

/-- An errand with a pause in it. -/
def stroller (span : Option Number) (answer : Nat) : Guest Time.Clock Nat :=
  ⟨"acme:ann:1", span, Action.giveWay.andThen fun _ => Action.result answer⟩

def strollers : List (Guest Time.Clock Nat) :=
  [stroller none 1, stroller (some (.int 10)) 2, stroller (some (.int 10)) 3, stroller none 4]

/-- While the first guest is inside, the second one gives up waiting and the third one waits on; the
fourth one comes when the others have left. -/
def strollersRun :
    List (Crew.Move (Hall Time.Clock)) × Crew (Hall Time.Clock) (Hall Time.Clock) Nat :=
  (crew strollers ⟨0, 0, ⟨0, none⟩⟩).drive Places.whole Crew.record
    (List.replicate 5 0 ++ List.replicate 11 1 ++ List.replicate 5 2 ++ List.replicate 3 0 ++
      List.replicate 9 2 ++ List.replicate 9 3)

/-- Two guests are served in turn, one finds the lock busy, and the last one finds no lock there. -/
theorem inTurn_of_run_strollers : ∃ trace c,
    Crew.Run Places.whole Hall.Still Crew.record (crew strollers ⟨0, 0, ⟨0, none⟩⟩) trace c ∧
    c.tasks.map (·.answer?) = [some 1, none, some 3, some 4] ∧
    c.tasks.map (·.fault?) = [none, some (busy "acme:ann:1"), none, none] ∧
    ((trace.filter fun move => move.after.locks.active = 0).map (·.job)) = [2, 3] ∧
    InTurn strollers trace c := by
  have hrun : Crew.Run Places.whole Hall.Still Crew.record (crew strollers ⟨0, 0, ⟨0, none⟩⟩)
      strollersRun.1 strollersRun.2 := Crew.run_drive _
  exact ⟨strollersRun.1, strollersRun.2, hrun, by decide +kernel, by decide +kernel,
    by decide +kernel, inTurn_of_run hrun⟩

end Parley.Session
