import Parley.Proofs.Session.Queue

/-!
# Parley.Proofs.Session.Census — a lock counts those who have entered

`Census names stands s`: some people, each with a lock of interest and a stand, are all there are.
The users of a name are then those who have entered and not left; the name stands for a lock as long
as there are any, nobody else is in its queue, and who is inside holds it.  Whatever one of them does
next keeps it so, and takes the lock from nobody else (`Locks.lockOf_enter`, `Locks.holder_lockOf_ask`,
`Census.holder_leave`).  Whoever leaves last finds the lock free (`Census.free_of_last`), so that a
lock is never left behind.
-/

namespace Parley.Session

variable {names : Nat → String} {stands : List Stand} {s s' : Locks} {i j : Nat} {t t' : Ticket}
  {stand stand' : Stand} {name : String}

/-! ### Who has entered -/

/-- Where someone stands, without the difference between having entered and waiting. -/
def Stand.hold : Stand → Hold
  | outside => .outside
  | entered t | inLine t => .inLine t
  | inside t => .inside t
  | left _ => .left

theorem Stand.Present.hold (h : stand.Present t) : stand.hold.ticket? = some t := by
  rcases h with rfl | rfl | rfl <;> rfl

/-- Whoever may be in a queue has entered and not left. -/
theorem Stand.present_of_share (ht : stand.ticket? = some t) (h : 0 < stand.share) :
    stand.Present t := by
  cases stand with
  | outside | entered t | left t => exact nomatch h
  | inLine t => exact .inr (.inl (congrArg _ (Option.some.inj ht)))
  | inside t => exact .inr (.inr (congrArg _ (Option.some.inj ht)))

def visitors (names : Nat → String) (stands : List Stand) : List Visitor :=
  stands.mapIdx fun i stand => ⟨names i, stand.hold⟩

theorem getElem?_visitors :
    (visitors names stands)[i]? = stands[i]?.map fun stand => ⟨names i, stand.hold⟩ :=
  List.getElem?_mapIdx

theorem visitors_set :
    visitors names (stands.set i stand) = (visitors names stands).set i ⟨names i, stand.hold⟩ :=
  List.mapIdx_set

/-- How many have entered under a name, and not left. -/
def headcount (names : Nat → String) (stands : List Stand) (name : String) : Nat :=
  (visitors names stands).countP (·.isAt name)

theorem headcount_set (hi : stands[i]? = some stand) (stand' : Stand) (name : String) :
    headcount names (stands.set i stand') name =
      headcount names stands name - (if (⟨names i, stand.hold⟩ : Visitor).isAt name then 1 else 0)
        + (if (⟨names i, stand'.hold⟩ : Visitor).isAt name then 1 else 0) := by
  unfold headcount
  rw [visitors_set]
  exact count_set (by rw [getElem?_visitors, hi]; rfl) _ name

theorem isAt_of_present (h : stand.Present t) (name : String) :
    (⟨name, stand.hold⟩ : Visitor).isAt name = true := by
  rw [isAt_mk, h.hold]
  simp

theorem isAt_of_ne {other : String} (h : other ≠ name) :
    (⟨name, stand.hold⟩ : Visitor).isAt other = false := by
  rw [isAt_mk, decide_eq_false h.symm]
  rfl

theorem headcount_pos (hi : stands[i]? = some stand) (h : stand.Present t) :
    0 < headcount names stands (names i) :=
  count_pos (names i) (by rw [getElem?_visitors, hi]; rfl) (isAt_of_present h _)

/-- Two who have entered are both counted. -/
theorem one_lt_headcount (hi : stands[i]? = some stand) (h : stand.Present t)
    (hj : stands[j]? = some stand') (h' : stand'.Present t') (hne : i ≠ j)
    (hnames : names j = names i) : 1 < headcount names stands (names i) := by
  have hj' : (stands.set i (.left t))[j]? = some stand' := by rwa [List.getElem?_set_ne hne]
  have hpos : 0 < headcount names _ (names j) := headcount_pos hj' h'
  rw [hnames, headcount_set hi, if_pos (isAt_of_present h _), isAt_mk] at hpos
  simp only [Stand.hold, Hold.ticket?, Option.isSome_none, Bool.and_false, Bool.false_eq_true,
    if_false] at hpos
  omega

/-! ### Names with users -/

namespace Locks

/-- A name stands for a lock exactly as long as it has users. -/
def Kept (s : Locks) : Prop := ∀ name, s.names.has name = true ↔ 0 < s.usersOf name

theorem has_names {name : String} : s.names.has name = (s.names.get? name).isSome := rfl

theorem Kept.enter (h : s.Kept) : (s.enter name).2.Kept := by
  intro other
  by_cases ho : other = name
  · subst ho
    have hknows : (s.enter other).2.names.get? other = some (s.enter other).1.maker := knows_enter
    rw [usersOf_enter_self, has_names, hknows]
    exact ⟨fun _ => Nat.succ_pos _, fun _ => rfl⟩
  · have hnames : (s.enter name).2.names.get? other = s.names.get? other := by
      show (s.provide name).names.get? other = _
      cases hmaker : s.names.get? name with
      | some maker => rw [provide_of_some hmaker]
      | none =>
        rw [provide_of_none hmaker]
        exact Table.get?_put_of_ne _ _ ho
    rw [usersOf_enter_of_ne ho, has_names, hnames, ← has_names]
    exact h other

/-- So it is after someone left, if the lock is free when the last one leaves. -/
theorem Kept.leave (h : s.Kept) (hfree : s.usersOf t.name ≤ 1 → (s.lockAt t.place).holder = none)
    (hpos : 0 < s.usersOf t.name) : (s.leave t).Kept := by
  intro other
  by_cases ho : other = t.name
  · subst ho
    rw [usersOf_leave_self]
    by_cases hlast : s.usersOf t.name - 1 = 0
    · rw [leave_of_last hlast, hfree (by omega), hlast, has_names]
      show (Table.get? (if false = true then s.names else s.names.erase t.name) t.name).isSome = true ↔ _
      rw [if_neg Bool.false_ne_true, Table.get?_erase_self]
      exact ⟨fun hsome => (nomatch hsome), fun hlt => absurd hlt (Nat.lt_irrefl 0)⟩
    · rw [leave_of_more hlast]
      exact ⟨fun _ => Nat.pos_of_ne_zero hlast, fun _ => (h t.name).mpr hpos⟩
  · rw [usersOf_leave_of_ne ho, has_names, names_leave (.inl ho), ← has_names]
    exact h other

/-- Without users no name stands for a lock. -/
theorem Kept.active_eq_zero (h : s.Kept) (hnone : ∀ name, s.usersOf name = 0) : s.active = 0 := by
  unfold active
  cases hnames : s.names with
  | nil => rfl
  | cons entry rest =>
    have hentry : s.names.has entry.1 = true := by
      rw [has_names, hnames]
      simp [Table.get?]
    exact absurd (hnone entry.1) (Nat.ne_of_gt ((h entry.1).mp hentry))

/-- To ask for a lock takes the one that a name stands for from nobody. -/
theorem holder_lockOf_ask (h : (s.lockOf name).holder = some t') :
    ((s.ask t).lockOf name).holder = some t' := by
  unfold lockOf at h ⊢
  rw [show (s.ask t).names = s.names from rfl]
  cases hmaker : s.names.get? name with
  | none =>
    rw [hmaker] at h
    exact h
  | some maker =>
    rw [hmaker] at h
    exact holder_ask h

/-- Whoever holds a lock has a place in its queue. -/
theorem places_pos_of_holder {place : String × Nat} (h : (s.lockAt place).holder = some t) :
    0 < s.places place t := by
  refine List.count_pos_iff.mpr (List.mem_append_left _ ?_)
  rw [h]
  exact List.mem_singleton_self t

end Locks

/-! ### The census -/

/-- The people with these stands are all who have to do with the locks. -/
structure Census (names : Nat → String) (stands : List Stand) (s : Locks) : Prop where
  attended : Attended stands s
  orderly : Orderly (visitors names stands) s
  users : ∀ name, s.usersOf name = headcount names stands name
  kept : s.Kept
  queued : ∀ {place : String × Nat} {t : Ticket}, 0 < s.places place t →
    ∃ (i : Nat) (stand : Stand), stands[i]? = some stand ∧ t.place = place ∧ stand.Present t

/-- Nobody has entered, and there are no locks. -/
theorem census_outside (h : ∀ stand ∈ stands, stand = .outside) : Census names stands .empty := by
  have hnobody : ∀ v ∈ visitors names stands, v.hold = .outside := by
    intro v hv
    obtain ⟨i, hi⟩ := List.mem_iff_getElem?.mp hv
    rw [getElem?_visitors] at hi
    obtain ⟨stand, hstand, rfl⟩ := Option.map_eq_some_iff.mp hi
    rw [h stand (List.mem_of_getElem? hstand)]
    rfl
  refine ⟨attended_outside h fun _ _ ht => (nomatch ht), orderly_outside hnobody, fun name => ?_,
    fun _ => ⟨fun hhas => (nomatch hhas), fun hpos => absurd hpos (Nat.lt_irrefl 0)⟩,
    fun hpos => absurd hpos (Nat.lt_irrefl 0)⟩
  refine (List.countP_eq_zero.mpr fun v hv => ?_).symm
  simp [Visitor.isAt, hnobody v hv, Hold.ticket?]

namespace Census

variable (h : Census names stands s)
include h

omit h in
theorem visitor (hi : stands[i]? = some stand) :
    (visitors names stands)[i]? = some ⟨names i, stand.hold⟩ := by
  rw [getElem?_visitors, hi]
  rfl

/-- Who has entered came to the lock that the name stands for. -/
theorem named (hi : stands[i]? = some stand) (hpresent : stand.Present t) : t.name = names i :=
  h.orderly.named (visitor hi) hpresent.hold

/-- Who is inside holds the lock. -/
theorem holder (hi : stands[i]? = some (.inside t)) : (s.lockOf (names i)).holder = some t := by
  rw [← h.named hi (.inr (.inr rfl)), (h.orderly.known (visitor hi) rfl).lockOf]
  exact h.orderly.holder (visitor hi) rfl

/-- Of those who are inside under one name there is one. -/
theorem eq_of_inside (hi : stands[i]? = some (.inside t)) (hj : stands[j]? = some (.inside t'))
    (hnames : names i = names j) : i = j := by
  have hsame := (h.holder hi).symm.trans ((congrArg (fun n => (s.lockOf n).holder) hnames).trans
    (h.holder hj))
  exact h.attended.distinct hi hj rfl (hsame ▸ rfl)

/-- After a step that brings no other ticket into a queue, those in a queue are still there. -/
theorem queued_set (hi : stands[i]? = some stand) (hmine : ∀ t', stand.Present t' → t' = t)
    (hnew : stand'.ticket? = some t) (hafter : Attended (stands.set i stand') s')
    (hothers : ∀ other t', t' ≠ t → s'.places other t' ≤ s.places other t')
    {place : String × Nat} {t' : Ticket} (hpos : 0 < s'.places place t') :
    ∃ (j : Nat) (u : Stand), (stands.set i stand')[j]? = some u ∧ t'.place = place ∧ u.Present t' := by
  have hlength := (List.getElem?_eq_some_iff.mp hi).1
  by_cases ht : t' = t
  · subst ht
    have hshare := hafter.share (List.getElem?_set_self hlength) hnew place
    by_cases hplace : place = t'.place
    · rw [if_pos hplace] at hshare
      exact ⟨i, stand', List.getElem?_set_self hlength, hplace.symm,
        Stand.present_of_share hnew (Nat.lt_of_lt_of_le hpos hshare)⟩
    · rw [if_neg hplace] at hshare
      omega
  · obtain ⟨j, u, hj, hplace, hu⟩ := h.queued (Nat.lt_of_lt_of_le hpos (hothers place t' ht))
    have hij : i ≠ j := by
      rintro rfl
      rw [hi] at hj
      exact ht (hmine t' (Option.some.inj hj ▸ hu))
    exact ⟨j, u, by rwa [List.getElem?_set_ne hij], hplace, hu⟩

/-- The users are as before if as many have entered as before. -/
theorem headcount_present (hi : stands[i]? = some stand) (hpresent : stand.Present t)
    (hpresent' : stand'.Present t) (name : String) :
    headcount names (stands.set i stand') name = s.usersOf name := by
  rw [h.users, headcount_set hi]
  by_cases hname : name = names i
  · subst hname
    have hpos : 0 < headcount names _ (names i) := headcount_pos hi hpresent
    rw [if_pos (isAt_of_present hpresent _), if_pos (isAt_of_present hpresent' _)]
    omega
  · rw [isAt_of_ne hname, isAt_of_ne hname]
    rfl

theorem enter (hi : stands[i]? = some .outside) :
    Census names (stands.set i (.entered (s.enter (names i)).1)) (s.enter (names i)).2 := by
  have hafter := h.attended.enter hi (names i)
  refine ⟨hafter, ?_, fun name => ?_, h.kept.enter, fun hpos => ?_⟩
  · rw [visitors_set]
    exact h.orderly.enter (visitor hi)
  · rw [headcount_set hi]
    by_cases hname : name = names i
    · subst hname
      rw [if_pos (isAt_of_present (.inl rfl) _), ← h.users, isAt_mk, Locks.usersOf_enter_self]
      simp [Stand.hold, Hold.ticket?]
    · rw [isAt_of_ne hname, isAt_of_ne hname, ← h.users]
      exact Locks.usersOf_enter_of_ne hname
  · refine h.queued_set hi (fun t' ht' => ?_) rfl hafter (fun _ _ _ => Locks.places_enter_le) hpos
    cases ht'.ticket

theorem ask (hi : stands[i]? = some (.entered t)) :
    Census names (stands.set i (.inLine t)) (s.ask t) := by
  have hafter := h.attended.ask hi
  have hpresent : (Stand.entered t).Present t := .inl rfl
  refine ⟨hafter, ?_, fun name => ?_, h.kept, fun hpos => ?_⟩
  · have hsame : visitors names (stands.set i (.inLine t)) = visitors names stands := by
      rw [visitors_set]
      refine List.ext_getElem? fun j => ?_
      by_cases hj : i = j
      · subst hj
        have hlength := (List.getElem?_eq_some_iff.mp hi).1
        rw [List.getElem?_set_self (by rwa [visitors, List.length_mapIdx]), getElem?_visitors, hi]
        rfl
      · rw [List.getElem?_set_ne hj]
    rw [hsame]
    exact h.orderly.ask _
  · exact (h.headcount_present hi hpresent (.inr (.inl rfl)) name).symm
  · refine h.queued_set hi (fun t' ht' => ?_) rfl hafter
      (fun _ _ hne => Nat.le_of_eq (Locks.places_ask_of_ne hne)) hpos
    exact (Option.some.inj ht'.ticket).symm

theorem grasp (hi : stands[i]? = some (.inLine t)) (hholds : s.holds t = true) :
    Census names (stands.set i (.inside t)) s := by
  have hafter := h.attended.grasp hi
  refine ⟨hafter, ?_, fun name => ?_, h.kept, fun hpos => ?_⟩
  · rw [visitors_set]
    exact h.orderly.grasp (visitor hi) hholds
  · rw [h.headcount_present hi (.inr (.inl rfl)) (.inr (.inr rfl))]
  · refine h.queued_set hi (fun t' ht' => ?_) rfl hafter (fun _ _ _ => Nat.le_refl _) hpos
    exact (Option.some.inj ht'.ticket).symm

/-- Whoever is in the queue of the lock that someone else came to, has entered under the same
name. -/
theorem one_lt_usersOf (hi : stands[i]? = some stand) (hpresent : stand.Present t)
    (hplaces : 0 < s.places t.place t') (hne : t' ≠ t) : 1 < s.usersOf t.name := by
  obtain ⟨j, u, hj, hplace, hu⟩ := h.queued hplaces
  have hij : i ≠ j := by
    rintro rfl
    rw [hi] at hj
    rw [← Option.some.inj hj] at hu
    exact hne (Option.some.inj (hu.ticket.symm.trans hpresent.ticket))
  have hnames : names j = names i := by
    rw [← h.named hj hu, ← h.named hi hpresent]
    exact congrArg Prod.fst hplace
  rw [h.users, h.named hi hpresent]
  exact one_lt_headcount hi hpresent hj hu hij hnames

/-- **Whoever leaves last finds the lock free**, once the own place in it is given up. -/
theorem free_of_last (hi : stands[i]? = some stand) (hpresent : stand.Present t)
    (hlast : s.usersOf t.name ≤ 1) : ((s.giveUp t).lockAt t.place).holder = none := by
  rw [Option.eq_none_iff_forall_ne_some]
  intro t' hholder
  have hplaces := Locks.places_pos_of_holder hholder
  have hne : t' ≠ t := by
    rintro rfl
    rw [h.attended.places_giveUp hi hpresent.ticket] at hplaces
    exact absurd hplaces (Nat.lt_irrefl 0)
  rw [Locks.places_giveUp_of_ne hne] at hplaces
  exact Nat.not_lt_of_le hlast (h.one_lt_usersOf hi hpresent hplaces hne)

theorem leave (hi : stands[i]? = some stand) (hpresent : stand.Present t) :
    Census names (stands.set i (.left t)) ((s.giveUp t).leave t) := by
  have hafter := h.attended.leave hi hpresent
  have hname := h.named hi hpresent
  refine ⟨hafter, ?_, fun name => ?_, ?_, fun hpos => ?_⟩
  · rw [visitors_set]
    exact h.orderly.leave (visitor hi) hpresent.hold
  · rw [headcount_set hi, ← h.users]
    by_cases hother : name = t.name
    · subst hother
      rw [Locks.usersOf_leave_self, ← hname, if_pos (isAt_of_present hpresent _), isAt_mk]
      simp only [Stand.hold, Hold.ticket?, Option.isSome_none, Bool.and_false, Bool.false_eq_true,
        if_false]
      rfl
    · have hother' : name ≠ names i := hname ▸ hother
      rw [isAt_of_ne hother', isAt_of_ne hother', Locks.usersOf_leave_of_ne hother]
      rfl
  · have hkept : (s.giveUp t).Kept := h.kept
    refine hkept.leave (h.free_of_last hi hpresent) ?_
    show 0 < s.usersOf t.name
    rw [h.users, hname]
    exact headcount_pos hi hpresent
  · refine h.queued_set hi (fun t' ht' => ?_) rfl hafter (fun other t' hne => ?_) hpos
    · exact (Option.some.inj (hpresent.ticket.symm.trans ht'.ticket)).symm
    · exact Nat.le_of_eq (Locks.places_leave.trans (Locks.places_giveUp_of_ne hne))

/-- **Leaving takes the lock from nobody else**: whoever holds it has entered too, so that the name
still stands for it. -/
theorem holder_leave (hi : stands[i]? = some stand) (hpresent : stand.Present t)
    (hholder : (s.lockOf name).holder = some t') (hne : t' ≠ t) :
    (((s.giveUp t).leave t).lockOf name).holder = some t' := by
  by_cases hname : name = t.name
  · subst hname
    have hknows := h.orderly.known (visitor hi) hpresent.hold
    rw [hknows.lockOf] at hholder
    have htwo := h.one_lt_usersOf hi hpresent (Locks.places_pos_of_holder hholder) hne
    have hstays : ((s.giveUp t).leave t).Knows t :=
      (Locks.names_leave (s := s.giveUp t) (.inr htwo)).trans hknows
    rw [hstays.lockOf, Locks.lockAt_leave]
    exact Locks.holder_giveUp hholder hne
  · rw [Locks.lockOf_leave_of_ne hname]
    unfold Locks.giveUp
    rwa [Locks.lockOf_setLock_of_ne hname]

end Census

end Parley.Session
