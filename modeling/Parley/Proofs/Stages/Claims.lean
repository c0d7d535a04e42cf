import Mathlib.Data.List.DropRight
import Parley.Stages.Dispatcher

/-!
# Parley.Proofs.Stages.Claims — what a ledger knows after dispatches

A ledger with room for some visits that it does not know yet gets to know all of them, and each of
them leads to an advance (`dispatch_eq`).

For a series of dispatches, `l.passedOn visits` are the visits that are new to the ledger `l`, one
after the other: each of them leads to an advance, and the others to none (`dispatch_claims`).
`entries_claimAll`: the ledger keeps the latest of them, as many as it has room for, behind what it
knew before.  Whoever gives a ledger to a dispatcher shares it with the dispatcher only if there is an
entry in it (`dispatchAll_start`); an empty one stays empty (`shared_of_empty`).
-/

namespace Parley.Stages

open Conversation (State StageTransition)

/-- The advance that a visit leads to. -/
def advanceOf (state : State) (t : StageTransition) : Advance := ⟨leadId state, t.stageId⟩

section New

variable {l : Ledger} {state : State} {ts : List StageTransition}

/-- A ledger that is not too full is not trimmed. -/
theorem Ledger.trim_eq (h : l.entries.length ≤ l.maxEntries) : l.trim = l := by
  unfold Ledger.trim
  rw [Nat.sub_eq_zero_of_le h]
  rfl

/-- **New visits are claimed and passed on**, all of them, as long as the ledger has room. -/
theorem dispatch_eq (hnew : (l.entries ++ ts.map (VisitKey.of state)).Nodup)
    (hroom : (l.entries ++ ts.map (VisitKey.of state)).length ≤ l.maxEntries) :
    dispatch l state ts = (ts.map (advanceOf state),
      { l with entries := l.entries ++ ts.map (VisitKey.of state) }) := by
  induction ts generalizing l with
  | nil => simp [dispatch]
  | cons t more ih =>
    rw [List.map_cons, List.append_cons] at hnew hroom
    have hunclaimed : l.isClaimed (.of state t) = false := by
      rw [List.append_assoc] at hnew
      have hnot : VisitKey.of state t ∉ l.entries := fun hmem =>
        (List.nodup_append.mp hnew).2.2 _ hmem _ List.mem_cons_self rfl
      simpa [Ledger.isClaimed] using hnot
    have hfits : (l.entries ++ [VisitKey.of state t]).length ≤ l.maxEntries := by
      rw [List.length_append] at hroom
      omega
    have hclaim : l.claim (.of state t) =
        (true, { l with entries := l.entries ++ [VisitKey.of state t] }) := by
      rw [Ledger.claim_of_unclaimed hunclaimed, Ledger.trim_eq hfits]
    rw [dispatch, hclaim]
    dsimp only
    rw [ih hnew hroom, List.map_cons, List.map_cons, List.append_assoc]
    rfl

end New

/-! ### Series of dispatches -/

/-- A visit of a stage node, and the state that it is dispatched with. -/
structure Visit where
  state : State
  transition : StageTransition
  deriving DecidableEq

namespace Visit

def key (v : Visit) : VisitKey := .of v.state v.transition

def advance (v : Visit) : Advance := advanceOf v.state v.transition

end Visit

/-- What a dispatcher is given at a time: the stage visits of one reply, and its state. -/
structure Batch where
  state : State
  transitions : List StageTransition

def Batch.visits (b : Batch) : List Visit := b.transitions.map (Visit.mk b.state)

/-- All visits of a series of dispatches, in order. -/
def visitsOf (batches : List Batch) : List Visit := batches.flatMap Batch.visits

/-! ### Claims in a series -/

namespace Ledger

/-- The ledger after claims of all visits, one by one. -/
def claimAll (l : Ledger) (visits : List Visit) : Ledger :=
  visits.foldl (fun l v => (l.claim v.key).2) l

/-- The visits that are not claimed when their turn comes. -/
def passedOn (l : Ledger) : List Visit → List Visit
  | [] => []
  | v :: more => if l.isClaimed v.key then passedOn l more else v :: passedOn (l.claim v.key).2 more

variable {l : Ledger} {v : Visit} {visits : List Visit}

theorem claimAll_append (l : Ledger) (visits more : List Visit) :
    l.claimAll (visits ++ more) = (l.claimAll visits).claimAll more := List.foldl_append

theorem passedOn_append (l : Ledger) (visits more : List Visit) :
    l.passedOn (visits ++ more) = l.passedOn visits ++ (l.claimAll visits).passedOn more := by
  induction visits generalizing l with
  | nil => rfl
  | cons v visits ih =>
    cases hclaimed : l.isClaimed v.key with
    | true =>
      have hsame : (l.claim v.key).2 = l := congrArg Prod.snd (claim_of_claimed hclaimed)
      simp only [List.cons_append, passedOn, hclaimed, if_true, ih, claimAll, List.foldl_cons, hsame]
    | false =>
      simp only [List.cons_append, passedOn, hclaimed, Bool.false_eq_true, if_false, ih, claimAll,
        List.foldl_cons]

theorem maxEntries_claim (l : Ledger) (k : VisitKey) : (l.claim k).2.maxEntries = l.maxEntries := by
  unfold claim
  split <;> rfl

theorem entries_claim_of_unclaimed {k : VisitKey} (h : l.isClaimed k = false) :
    (l.claim k).2.entries = (l.entries ++ [k]).rtake l.maxEntries := by
  rw [claim_of_unclaimed h]
  rfl

/-- To keep the last entries early on loses nothing that is among the last ones later. -/
theorem rtake_append_rtake {α : Type} (n : Nat) (xs ys : List α) :
    (xs.rtake n ++ ys).rtake n = (xs ++ ys).rtake n := by
  simp only [List.rtake_eq_reverse_take_reverse, List.reverse_append, List.reverse_reverse,
    List.take_append, List.take_take, Nat.min_eq_left (Nat.sub_le n _), List.length_reverse]

/-- **A ledger keeps the latest visits that were passed on**, as many as it has room for, behind what
it knew before; and it stays as it is if nothing was passed on. -/
theorem entries_claimAll (l : Ledger) (visits : List Visit) :
    (l.claimAll visits).entries =
      if l.passedOn visits = [] then l.entries
      else (l.entries ++ (l.passedOn visits).map Visit.key).rtake l.maxEntries := by
  induction visits generalizing l with
  | nil => rfl
  | cons v visits ih =>
    cases hclaimed : l.isClaimed v.key with
    | true =>
      have hsame : (l.claim v.key).2 = l := congrArg Prod.snd (claim_of_claimed hclaimed)
      simp only [claimAll, List.foldl_cons, hsame, passedOn, hclaimed, if_true]
      exact ih l
    | false =>
      have hlater := ih (l.claim v.key).2
      rw [entries_claim_of_unclaimed hclaimed, maxEntries_claim, rtake_append_rtake] at hlater
      simp only [claimAll, List.foldl_cons, passedOn, hclaimed, Bool.false_eq_true, if_false,
        List.cons_ne_nil, List.map_cons]
      refine hlater.trans ?_
      split_ifs with hnone
      · rw [hnone]
        rfl
      · rw [List.append_assoc]
        rfl

/-- A visit that was passed on is claimed until as many later ones were as the ledger has room for. -/
theorem claimed_of_passedOn (h : v ∈ (l.passedOn visits).rtake l.maxEntries) :
    (l.claimAll visits).isClaimed v.key = true := by
  have hsome : l.passedOn visits ≠ [] := fun hnone => by
    rw [hnone, List.rtake_nil] at h
    exact absurd h List.not_mem_nil
  have hmem : v.key ∈ ((l.passedOn visits).map Visit.key).rtake l.maxEntries := by
    unfold List.rtake at h ⊢
    rw [List.length_map, ← List.map_drop]
    exact List.mem_map_of_mem h
  unfold isClaimed
  rw [List.contains_iff_mem, entries_claimAll, if_neg hsome]
  unfold List.rtake at hmem ⊢
  rw [List.length_append, List.drop_append]
  refine List.mem_append_right _ ?_
  have hplace : l.entries.length + ((l.passedOn visits).map Visit.key).length - l.maxEntries -
      l.entries.length ≤ ((l.passedOn visits).map Visit.key).length - l.maxEntries := by omega
  exact List.drop_subset_drop_left _ hplace hmem

theorem mem_of_mem_passedOn (h : v ∈ l.passedOn visits) : v ∈ visits := by
  induction visits generalizing l with
  | nil => exact h
  | cons u visits ih =>
    unfold passedOn at h
    split_ifs at h
    · exact List.mem_cons_of_mem _ (ih h)
    · rcases List.mem_cons.mp h with rfl | h
      · exact List.mem_cons_self
      · exact List.mem_cons_of_mem _ (ih h)

/-- What is claimed was known before, or is one of the visits. -/
theorem known_of_claimed {k : VisitKey} (h : (l.claimAll visits).isClaimed k = true) :
    k ∈ l.entries ∨ ∃ v ∈ visits, v.key = k := by
  have hmem : k ∈ l.entries ++ (l.passedOn visits).map Visit.key := by
    unfold isClaimed at h
    rw [List.contains_iff_mem, entries_claimAll] at h
    split_ifs at h
    · exact List.mem_append_left _ h
    · exact List.mem_of_mem_drop h
  rcases List.mem_append.mp hmem with hknown | hpassed
  · exact .inl hknown
  · obtain ⟨v, hv, hkey⟩ := List.mem_map.mp hpassed
    exact .inr ⟨v, mem_of_mem_passedOn hv, hkey⟩

end Ledger

/-! ### Dispatches in a series -/

/-- A dispatch claims the visits one by one, and makes the advances of those that it passes on. -/
theorem dispatch_claims (l : Ledger) (state : State) (ts : List StageTransition) :
    dispatch l state ts = ((l.passedOn (ts.map (Visit.mk state))).map Visit.advance,
      l.claimAll (ts.map (Visit.mk state))) := by
  induction ts generalizing l with
  | nil => rfl
  | cons t more ih =>
    have hkey : (Visit.mk state t).key = .of state t := rfl
    cases hclaimed : l.isClaimed (.of state t) with
    | true =>
      simp only [dispatch, Ledger.claim_of_claimed hclaimed, List.map_cons, Ledger.passedOn, hkey,
        hclaimed, if_true, Ledger.claimAll, List.foldl_cons]
      exact ih l
    | false =>
      have hclaim := Ledger.claim_of_unclaimed hclaimed
      simp only [dispatch, hclaim, List.map_cons, Ledger.passedOn, hkey, hclaimed,
        Bool.false_eq_true, if_false, Ledger.claimAll, List.foldl_cons, ih]
      rfl

namespace Ledgers

/-- A series of dispatches: the advances of all, and what became of the ledgers. -/
def dispatchAll (s : Ledgers) : List Batch → List Advance × Ledgers
  | [] => ([], s)
  | b :: more =>
    let (advances, s) := s.dispatch b.state b.transitions
    let (later, s) := dispatchAll s more
    (advances ++ later, s)

variable {s : Ledgers} {given : Ledger}

theorem dispatch_shared (h : s.own = none) (b : Batch) :
    s.dispatch b.state b.transitions = ((s.shared.passedOn b.visits).map Visit.advance,
      ⟨s.shared.claimAll b.visits, none⟩) := by
  obtain ⟨shared, own⟩ := s
  cases h
  unfold dispatch
  rw [dispatch_claims]
  rfl

/-- A dispatcher with no ledger of its own claims in the shared one. -/
theorem dispatchAll_shared (h : s.own = none) (batches : List Batch) :
    s.dispatchAll batches = ((s.shared.passedOn (visitsOf batches)).map Visit.advance,
      ⟨s.shared.claimAll (visitsOf batches), none⟩) := by
  induction batches generalizing s with
  | nil =>
    obtain ⟨shared, own⟩ := s
    cases h
    rfl
  | cons b more ih =>
    have hvisits : visitsOf (b :: more) = b.visits ++ visitsOf more := List.flatMap_cons
    unfold dispatchAll
    rw [dispatch_shared h, hvisits, Ledger.passedOn_append, Ledger.claimAll_append, List.map_append]
    dsimp only
    rw [ih rfl]

/-- **A dispatcher that is given a ledger with an entry** shares it: what it passes on is claimed
there. -/
theorem dispatchAll_start (h : given.size ≠ 0) (batches : List Batch) :
    (start given).dispatchAll batches =
      ((given.passedOn (visitsOf batches)).map Visit.advance,
        ⟨given.claimAll (visitsOf batches), none⟩) :=
  dispatchAll_shared (if_neg h) batches

theorem dispatch_own {own : Ledger} (h : s.own = some own) (state : State)
    (ts : List StageTransition) :
    ∃ own', (s.dispatch state ts).2 = ⟨s.shared, some own'⟩ := by
  obtain ⟨shared, _⟩ := s
  cases h
  exact ⟨_, rfl⟩

/-- **A dispatcher that is given an empty ledger** never tells it anything. -/
theorem shared_of_empty (h : given.size = 0) (batches : List Batch) :
    ((start given).dispatchAll batches).2.shared = given := by
  have hown : ∃ own, (start given).own = some own := ⟨_, if_pos h⟩
  have hall {s : Ledgers} (hown : ∃ own, s.own = some own) :
      (s.dispatchAll batches).2.shared = s.shared := by
    induction batches generalizing s with
    | nil => rfl
    | cons b more ih =>
      obtain ⟨own, hown⟩ := hown
      obtain ⟨own', hdispatch⟩ := dispatch_own hown b.state b.transitions
      show (dispatchAll (s.dispatch b.state b.transitions).2 more).2.shared = _
      rw [hdispatch, ih ⟨own', rfl⟩]
  exact hall hown

end Ledgers

end Parley.Stages
