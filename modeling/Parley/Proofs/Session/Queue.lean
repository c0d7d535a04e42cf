import Parley.Proofs.Session.Exclusion
import Parley.Proofs.Session.Passage

/-!
# Parley.Proofs.Session.Queue — who holds a lock or waits for it

The holder of a lock and those who wait for it are one queue.  `Attended stands s`: some people, each at
some stand, are in no other queue than that of the lock they came to, there once at most, and in none
before they ask and after they leave.  Whatever one of them does next keeps it so, and one who has
left is in no queue (`Attended.gone`).
-/

namespace Parley.Session

/-! ### Queues -/

namespace Lock

/-- The holder, and those who wait. -/
def queue (l : Lock) : List Ticket := l.holder.toList ++ l.waiting

variable {l : Lock} {t t' : Ticket}

theorem queue_ask : (l.ask t).queue = l.queue ++ [t] := by
  unfold ask
  split_ifs with hfree
  · obtain ⟨hholder, hwaiting⟩ := Bool.and_eq_true_iff.mp hfree
    unfold queue
    rw [Option.isNone_iff_eq_none.mp hholder, List.isEmpty_iff.mp hwaiting]
    rfl
  · exact (List.append_assoc ..).symm

theorem queue_handOver : l.handOver.queue = l.waiting := by
  unfold handOver queue
  cases l.waiting <;> rfl

theorem count_giveUp_of_ne (h : t' ≠ t) : (l.giveUp t).queue.count t' = l.queue.count t' := by
  unfold giveUp
  split_ifs with hholder
  · rw [queue_handOver]
    unfold queue
    rw [hholder, Option.toList_some, List.singleton_append, List.count_cons_of_ne h.symm]
  · unfold queue
    rw [List.count_append, List.count_append, List.count_filter (by simpa using h)]

/-- One who is in the queue once at most is not in it any more. -/
theorem count_giveUp_self (h : l.queue.count t ≤ 1) : (l.giveUp t).queue.count t = 0 := by
  unfold giveUp
  split_ifs with hholder
  · rw [queue_handOver]
    unfold queue at h
    rw [hholder, Option.toList_some, List.singleton_append, List.count_cons_self] at h
    omega
  · refine List.count_eq_zero.mpr fun hmem => ?_
    rcases List.mem_append.mp hmem with hmem | hmem
    · exact hholder (Option.mem_toList.mp hmem)
    · exact absurd rfl (of_decide_eq_true (List.mem_filter.mp hmem).2)

end Lock

namespace Locks

/-- How often a ticket is in the queue of a lock. -/
def places (s : Locks) (place : String × Nat) (t : Ticket) : Nat := (s.lockAt place).queue.count t

variable {s : Locks} {name : String} {place other : String × Nat} {t t' : Ticket}

theorem places_setLock_of_ne {l : Lock} (h : other ≠ place) :
    (s.setLock place l).places other t = s.places other t := by
  unfold places
  rw [lockAt_setLock_of_ne h]

theorem places_setLock_self {l : Lock} : (s.setLock place l).places place t = l.queue.count t := by
  unfold places
  rw [lockAt_setLock_self]

/-- Entering takes nobody into a queue: a lock that is made for it is free. -/
theorem places_enter_le : (s.enter name).2.places other t ≤ s.places other t := by
  show (s.provide name).places other t ≤ s.places other t
  cases hmaker : s.names.get? name with
  | some maker => exact Nat.le_of_eq (by rw [provide_of_some hmaker])
  | none =>
    rw [provide_of_none hmaker]
    show (s.setLock (name, s.next) Lock.free).places other t ≤ s.places other t
    by_cases ho : other = (name, s.next)
    · rw [ho, places_setLock_self]
      exact Nat.zero_le _
    · exact Nat.le_of_eq (places_setLock_of_ne ho)

theorem places_ask_self : (s.ask t).places t.place t = s.places t.place t + 1 := by
  unfold ask
  rw [places_setLock_self, Lock.queue_ask, List.count_append, List.count_singleton_self]
  rfl

theorem places_ask_of_ne (h : t' ≠ t) : (s.ask t).places other t' = s.places other t' := by
  by_cases ho : other = t.place
  · subst ho
    unfold ask
    rw [places_setLock_self, Lock.queue_ask, List.count_append,
      List.count_singleton, if_neg (by simpa using h.symm)]
    rfl
  · exact places_setLock_of_ne ho

theorem places_leave : (s.leave t').places other t = s.places other t := by
  unfold places
  rw [lockAt_leave]

theorem places_giveUp_of_ne (h : t' ≠ t) : (s.giveUp t).places other t' = s.places other t' := by
  by_cases ho : other = t.place
  · subst ho
    unfold giveUp
    rw [places_setLock_self, Lock.count_giveUp_of_ne h]
    rfl
  · exact places_setLock_of_ne ho

theorem places_giveUp_self (h : s.places t.place t ≤ 1) : (s.giveUp t).places t.place t = 0 := by
  unfold giveUp
  rw [places_setLock_self]
  exact Lock.count_giveUp_self h

end Locks

/-! ### Attendance -/

/-- How often one may be in the queue. -/
def Stand.share : Stand → Nat
  | inLine _ | inside _ => 1
  | outside | entered _ | left _ => 0

theorem Stand.Present.ticket {t : Ticket} {stand : Stand} (h : stand.Present t) :
    stand.ticket? = some t := by
  rcases h with rfl | rfl | rfl <;> rfl

theorem Stand.share_le (stand : Stand) : stand.share ≤ 1 := by
  cases stand
  · exact Nat.zero_le _
  · exact Nat.zero_le _
  · exact Nat.le_refl _
  · exact Nat.le_refl _
  · exact Nat.zero_le _

/-- The queues are as those who stand there may have left them. -/
structure Attended (stands : List Stand) (s : Locks) : Prop where
  distinct : ∀ {i j : Nat} {stand stand' : Stand} {t : Ticket}, stands[i]? = some stand →
    stands[j]? = some stand' → stand.ticket? = some t → stand'.ticket? = some t → i = j
  issued : ∀ {i : Nat} {stand : Stand} {t : Ticket}, stands[i]? = some stand →
    stand.ticket? = some t → t.number < s.next
  share : ∀ {i : Nat} {stand : Stand} {t : Ticket}, stands[i]? = some stand →
    stand.ticket? = some t → ∀ other,
      s.places other t ≤ if other = t.place then stand.share else 0
  fresh : ∀ {t : Ticket}, s.next ≤ t.number → ∀ other, s.places other t = 0

variable {stands : List Stand} {s s' : Locks} {i : Nat} {t : Ticket} {stand stand' : Stand}

/-- Nobody has entered, and tickets that are not given out are in no queue. -/
theorem attended_outside (h : ∀ stand ∈ stands, stand = .outside)
    (hissued : ∀ place, ∀ t ∈ (s.lockAt place).queue, t.number < s.next) : Attended stands s := by
  have hnone {i : Nat} {stand : Stand} {t : Ticket} (hi : stands[i]? = some stand)
      (ht : stand.ticket? = some t) : False := by
    rw [h stand (List.mem_of_getElem? hi)] at ht
    exact nomatch ht
  refine ⟨fun hi _ ht => (hnone hi ht).elim, fun hi ht => (hnone hi ht).elim,
    fun hi ht => (hnone hi ht).elim, fun {t} ht other => ?_⟩
  exact List.count_eq_zero.mpr fun hmem => Nat.not_lt_of_le ht (hissued other t hmem)

namespace Attended

variable (h : Attended stands s)
include h

/-- **One takes a step**, with the ticket in hand or a new one, and no other ticket comes into a
queue. -/
theorem set (hi : stands[i]? = some stand) (hmine : stand.ticket? = some t ∨ s.next ≤ t.number)
    (hnew : stand'.ticket? = some t) (hnext : s.next ≤ s'.next) (hlt : t.number < s'.next)
    (hothers : ∀ other t', t' ≠ t → s'.places other t' ≤ s.places other t')
    (hshare : ∀ other, s'.places other t ≤ if other = t.place then stand'.share else 0) :
    Attended (stands.set i stand') s' := by
  have hne {j : Nat} {u : Stand} {t' : Ticket} (hij : i ≠ j) (hj : stands[j]? = some u)
      (hu : u.ticket? = some t') : t' ≠ t := by
    rintro rfl
    rcases hmine with hmine | hmine
    · exact hij (h.distinct hi hj hmine hu)
    · exact Nat.not_lt_of_le hmine (h.issued hj hu)
  refine ⟨fun hj hk hu hu' => ?_, fun hj hu => ?_, fun hj hu other => ?_, fun {t'} ht' other => ?_⟩
  · rcases of_getElem?_set hj with ⟨rfl, rfl⟩ | ⟨hij, hbefore⟩
    · rcases of_getElem?_set hk with ⟨rfl, -⟩ | ⟨hik, hk⟩
      · rfl
      · exact absurd (Option.some.inj (hu.symm.trans hnew)) (hne hik hk hu')
    · rcases of_getElem?_set hk with ⟨rfl, rfl⟩ | ⟨-, hk⟩
      · exact absurd (Option.some.inj (hu'.symm.trans hnew)) (hne hij hbefore hu)
      · exact h.distinct hbefore hk hu hu'
  · rcases of_getElem?_set hj with ⟨-, rfl⟩ | ⟨-, hj⟩
    · rwa [← Option.some.inj (hnew.symm.trans hu)]
    · exact Nat.lt_of_lt_of_le (h.issued hj hu) hnext
  · rcases of_getElem?_set hj with ⟨rfl, rfl⟩ | ⟨hij, hj⟩
    · rw [← Option.some.inj (hnew.symm.trans hu)]
      exact hshare other
    · exact Nat.le_trans (hothers other _ (hne hij hj hu)) (h.share hj hu other)
  · refine Nat.le_zero.mp (Nat.le_trans (hothers other t' ?_) ?_)
    · rintro rfl
      exact Nat.not_lt_of_le ht' hlt
    · exact Nat.le_of_eq (h.fresh (Nat.le_trans hnext ht') other)

theorem enter (hi : stands[i]? = some .outside) (name : String) :
    Attended (stands.set i (.entered (s.enter name).1)) (s.enter name).2 := by
  refine h.set hi (.inr (Nat.le_refl _)) rfl (Nat.le_succ _) (Nat.lt_succ_self _)
    (fun _ _ _ => Locks.places_enter_le) fun other => ?_
  refine Nat.le_trans Locks.places_enter_le ?_
  rw [h.fresh (Nat.le_refl _)]
  exact Nat.zero_le _

theorem ask (hi : stands[i]? = some (.entered t)) :
    Attended (stands.set i (.inLine t)) (s.ask t) := by
  have hshare := h.share hi rfl
  refine h.set hi (.inl rfl) rfl (Nat.le_refl _) (h.issued hi rfl)
    (fun _ _ hne => Nat.le_of_eq (Locks.places_ask_of_ne hne)) fun other => ?_
  have hother := hshare other
  by_cases ho : other = t.place
  · subst ho
    rw [if_pos rfl] at hother ⊢
    rw [Locks.places_ask_self]
    exact Nat.succ_le_succ hother
  · rw [if_neg ho] at hother ⊢
    unfold Locks.ask
    rwa [Locks.places_setLock_of_ne ho]

theorem grasp (hi : stands[i]? = some (.inLine t)) : Attended (stands.set i (.inside t)) s := by
  have hshare := h.share hi rfl
  exact h.set hi (.inl rfl) rfl (Nat.le_refl _) (h.issued hi rfl) (fun _ _ _ => Nat.le_refl _)
    hshare

/-- One who gives up is in no queue. -/
theorem places_giveUp (hi : stands[i]? = some stand) (ht : stand.ticket? = some t)
    (other : String × Nat) : (s.giveUp t).places other t = 0 := by
  have hshare := h.share hi ht
  by_cases ho : other = t.place
  · subst ho
    have hself := hshare t.place
    rw [if_pos rfl] at hself
    exact Locks.places_giveUp_self (Nat.le_trans hself stand.share_le)
  · have hother := hshare other
    rw [if_neg ho] at hother
    exact (Locks.places_setLock_of_ne ho).trans (Nat.le_zero.mp hother)

theorem leave (hi : stands[i]? = some stand) (hpresent : stand.Present t) :
    Attended (stands.set i (.left t)) ((s.giveUp t).leave t) := by
  have hnext : ((s.giveUp t).leave t).next = s.next := Locks.next_leave
  refine h.set hi (.inl hpresent.ticket) rfl (Nat.le_of_eq hnext.symm)
    (hnext ▸ h.issued hi hpresent.ticket) (fun other t' hne => ?_) fun other => ?_
  · exact Nat.le_of_eq (Locks.places_leave.trans (Locks.places_giveUp_of_ne hne))
  · rw [Locks.places_leave, h.places_giveUp hi hpresent.ticket]
    exact Nat.zero_le _

/-- **Who has left is in no queue.** -/
theorem gone (hi : stands[i]? = some (.left t)) (place : String × Nat) :
    t ∉ (s.lockAt place).queue := by
  refine List.count_eq_zero.mp (Nat.le_zero.mp ?_)
  have hshare := h.share hi rfl place
  split_ifs at hshare <;> exact hshare

end Attended

end Parley.Session
