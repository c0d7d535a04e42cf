import Mathlib.Tactic.SplitIfs
import Parley.Session.Locks

/-!
# Parley.Proofs.Session.Exclusion — a session is in one hand at a time

`Orderly visitors s`: the locks `s` are as the visitors left them, of whom some are outside, some in
line, and some inside.  As long as a visitor is there, the name stands for the lock that the visitor
came to (`Locks.Knows`).  Whatever a visitor does keeps the order, and of those who are inside under
one name there is one (`Orderly.exclusive`).
-/

namespace Parley.Session

/-- Where someone stands with a lock. -/
inductive Hold
  | outside
  | inLine (t : Ticket)
  | inside (t : Ticket)
  | left

/-- The ticket of one who has entered and not left. -/
def Hold.ticket? : Hold → Option Ticket
  | inLine t | inside t => some t
  | outside | left => none

/-- Someone who wants a lock. -/
structure Visitor where
  name : String
  hold : Hold

/-- The visitor has entered under the name, and not left. -/
def Visitor.isAt (name : String) (v : Visitor) : Bool := v.name = name && v.hold.ticket?.isSome

/-- The name of the ticket stands for its lock. -/
def Locks.Knows (s : Locks) (t : Ticket) : Prop := s.names.get? t.name = some t.maker

/-- The locks are as the visitors left them. -/
structure Orderly (visitors : List Visitor) (s : Locks) : Prop where
  holder : ∀ {i : Nat} {v : Visitor} {t : Ticket}, visitors[i]? = some v → v.hold = .inside t →
    (s.lockAt t.place).holder = some t
  named : ∀ {i : Nat} {v : Visitor} {t : Ticket}, visitors[i]? = some v →
    v.hold.ticket? = some t → t.name = v.name
  known : ∀ {i : Nat} {v : Visitor} {t : Ticket}, visitors[i]? = some v →
    v.hold.ticket? = some t → s.Knows t
  distinct : ∀ {i j : Nat} {v v' : Visitor} {t : Ticket}, visitors[i]? = some v →
    visitors[j]? = some v' → v.hold.ticket? = some t → v'.hold.ticket? = some t → i = j
  issued : ∀ {i : Nat} {v : Visitor} {t : Ticket}, visitors[i]? = some v →
    v.hold.ticket? = some t → t.number < s.next
  users : ∀ name, visitors.countP (·.isAt name) ≤ s.usersOf name

/-- An entry of a list in which one entry was replaced. -/
theorem of_getElem?_set {α : Type} {l : List α} {i j : Nat} {a b : α}
    (h : (l.set i a)[j]? = some b) : i = j ∧ b = a ∨ i ≠ j ∧ l[j]? = some b := by
  by_cases hj : i = j
  · subst hj
    have hi : i < l.length := by
      have := (List.getElem?_eq_some_iff.mp h).1
      rwa [List.length_set] at this
    rw [List.getElem?_set_self hi] at h
    exact .inl ⟨rfl, (Option.some.inj h).symm⟩
  · rw [List.getElem?_set_ne hj] at h
    exact .inr ⟨hj, h⟩

namespace Locks

variable {s : Locks} {name other : String} {l : Lock} {t t' : Ticket} {place : String × Nat}

theorem lockAt_setLock_self : (s.setLock place l).lockAt place = l := by
  unfold lockAt setLock
  rw [Table.get?_put_self]
  rfl

theorem lockAt_setLock_of_ne {elsewhere : String × Nat} (h : elsewhere ≠ place) :
    (s.setLock place l).lockAt elsewhere = s.lockAt elsewhere := by
  unfold lockAt setLock
  rw [Table.get?_put_of_ne _ _ h]

/-- One who is known came to the lock of the name. -/
theorem Knows.lockOf (h : s.Knows t) : s.lockOf t.name = s.lockAt t.place := by
  unfold Locks.lockOf
  rw [show s.names.get? t.name = some t.maker from h]
  rfl

theorem lockOf_setLock_of_ne (h : other ≠ place.1) :
    (s.setLock place l).lockOf other = s.lockOf other := by
  unfold lockOf
  dsimp only [setLock]
  cases hmaker : s.names.get? other with
  | none => rfl
  | some maker => exact lockAt_setLock_of_ne fun heq => h (congrArg Prod.fst heq)

/-! ### Entering -/

theorem provide_of_some {maker : Nat} (h : s.names.get? name = some maker) : s.provide name = s := by
  unfold provide
  rw [h]

theorem provide_of_none (h : s.names.get? name = none) :
    s.provide name = { s.setLock (name, s.next) Lock.free with names := s.names.put name s.next } := by
  unfold provide
  rw [h]

theorem knows_enter : (s.enter name).2.Knows (s.enter name).1 := by
  show (s.provide name).names.get? name = some ((s.names.get? name).getD s.next)
  cases hmaker : s.names.get? name with
  | none =>
    rw [provide_of_none hmaker]
    exact Table.get?_put_self ..
  | some maker =>
    rw [provide_of_some hmaker]
    exact hmaker

/-- Whoever is known stays so. -/
theorem Knows.enter (h : s.Knows t) : (s.enter name).2.Knows t := by
  show (s.provide name).names.get? t.name = some t.maker
  cases hmaker : s.names.get? name with
  | some maker => rwa [provide_of_some hmaker]
  | none =>
    have hne : t.name ≠ name := fun hname => nomatch (hname ▸ hmaker).symm.trans h
    rw [provide_of_none hmaker]
    exact (Table.get?_put_of_ne _ _ hne).trans h

/-- The lock of one who is known stays as it is when somebody enters. -/
theorem Knows.lockAt_enter (h : s.Knows t) : (s.enter name).2.lockAt t.place = s.lockAt t.place := by
  show (s.provide name).lockAt t.place = s.lockAt t.place
  cases hmaker : s.names.get? name with
  | some maker => rw [provide_of_some hmaker]
  | none =>
    have hne : t.place ≠ (name, s.next) := fun heq => by
      have hname : t.name = name := congrArg Prod.fst heq
      exact nomatch (hname ▸ hmaker).symm.trans h
    rw [provide_of_none hmaker]
    exact lockAt_setLock_of_ne hne

theorem lockOf_enter : (s.enter name).2.lockOf other = s.lockOf other := by
  show (s.provide name).lockOf other = s.lockOf other
  cases hmaker : s.names.get? name with
  | some maker => rw [provide_of_some hmaker]
  | none =>
    rw [provide_of_none hmaker]
    by_cases ho : other = name
    · subst ho
      unfold lockOf
      rw [hmaker, Table.get?_put_self]
      exact lockAt_setLock_self
    · unfold lockOf
      rw [Table.get?_put_of_ne _ _ ho]
      exact lockOf_setLock_of_ne ho

theorem usersOf_enter_self : (s.enter name).2.usersOf name = s.usersOf name + 1 := by
  show (((s.users.put name (s.usersOf name + 1)).get? name).getD 0) = _
  rw [Table.get?_put_self]
  rfl

theorem usersOf_enter_of_ne (h : other ≠ name) : (s.enter name).2.usersOf other = s.usersOf other := by
  show (((s.users.put name (s.usersOf name + 1)).get? other).getD 0) = _
  rw [Table.get?_put_of_ne _ _ h]
  rfl

/-! ### Leaving -/

theorem leave_of_last (h : s.usersOf t.name - 1 = 0) :
    s.leave t = { s with
      users := s.users.erase t.name
      names := if (s.lockAt t.place).holder.isSome then s.names else s.names.erase t.name } :=
  if_pos h

theorem leave_of_more (h : s.usersOf t.name - 1 ≠ 0) :
    s.leave t = { s with users := s.users.put t.name (s.usersOf t.name - 1) } :=
  if_neg h

/-- Whoever leaves does not touch the locks. -/
theorem lockAt_leave : (s.leave t).lockAt place = s.lockAt place := by
  by_cases hlast : s.usersOf t.name - 1 = 0
  · rw [leave_of_last hlast]
    rfl
  · rw [leave_of_more hlast]
    rfl

theorem next_leave : (s.leave t).next = s.next := by
  by_cases hlast : s.usersOf t.name - 1 = 0
  · rw [leave_of_last hlast]
  · rw [leave_of_more hlast]

theorem usersOf_leave_self : (s.leave t).usersOf t.name = s.usersOf t.name - 1 := by
  by_cases hlast : s.usersOf t.name - 1 = 0
  · rw [leave_of_last hlast, hlast]
    show ((s.users.erase t.name).get? t.name).getD 0 = 0
    rw [Table.get?_erase_self]
    rfl
  · rw [leave_of_more hlast]
    show ((s.users.put t.name _).get? t.name).getD 0 = _
    rw [Table.get?_put_self]
    rfl

theorem usersOf_leave_of_ne (h : other ≠ t.name) : (s.leave t).usersOf other = s.usersOf other := by
  by_cases hlast : s.usersOf t.name - 1 = 0
  · rw [leave_of_last hlast]
    show ((s.users.erase t.name).get? other).getD 0 = _
    rw [Table.get?_erase_of_ne _ h]
    rfl
  · rw [leave_of_more hlast]
    show ((s.users.put t.name _).get? other).getD 0 = _
    rw [Table.get?_put_of_ne _ _ h]
    rfl

/-- A name stands for the same lock after someone left, unless it was the last one to leave it. -/
theorem names_leave (h : other ≠ t.name ∨ 1 < s.usersOf t.name) :
    (s.leave t).names.get? other = s.names.get? other := by
  by_cases hlast : s.usersOf t.name - 1 = 0
  · have hne : other ≠ t.name := h.resolve_right (by omega)
    rw [leave_of_last hlast]
    dsimp only
    split_ifs
    · rfl
    · exact Table.get?_erase_of_ne _ hne
  · rw [leave_of_more hlast]

theorem lockOf_leave_of_ne (h : other ≠ t.name) : (s.leave t).lockOf other = s.lockOf other := by
  unfold lockOf
  rw [names_leave (.inl h)]
  cases s.names.get? other with
  | none => rfl
  | some maker => exact lockAt_leave

end Locks

namespace Lock

variable {l : Lock} {t t' : Ticket}

theorem holder_ask (h : l.holder = some t') : (l.ask t).holder = some t' := by
  unfold ask
  rw [if_neg (by rw [h]; exact Bool.false_ne_true)]
  exact h

theorem holder_giveUp (h : l.holder = some t') (hne : t' ≠ t) : (l.giveUp t).holder = some t' := by
  unfold giveUp
  rw [if_neg (by rw [h]; exact fun heq => hne (Option.some.inj heq))]
  exact h

end Lock

namespace Locks

variable {s : Locks} {t t' : Ticket} {place : String × Nat}

/-- To ask for a lock takes it from nobody. -/
theorem holder_ask (h : (s.lockAt place).holder = some t') :
    ((s.ask t).lockAt place).holder = some t' := by
  unfold ask
  by_cases hp : place = t.place
  · subst hp
    rw [lockAt_setLock_self]
    exact Lock.holder_ask h
  · rwa [lockAt_setLock_of_ne hp]

/-- One gives up no lock but one's own. -/
theorem holder_giveUp (h : (s.lockAt place).holder = some t') (hne : t' ≠ t) :
    ((s.giveUp t).lockAt place).holder = some t' := by
  unfold giveUp
  by_cases hp : place = t.place
  · subst hp
    rw [lockAt_setLock_self]
    exact Lock.holder_giveUp h hne
  · rwa [lockAt_setLock_of_ne hp]

end Locks

variable {visitors : List Visitor} {s : Locks} {name : String} {i j : Nat} {t t' : Ticket}
  {hold : Hold}

theorem count_set {v : Visitor} (hi : visitors[i]? = some v) (v' : Visitor) (name : String) :
    (visitors.set i v').countP (·.isAt name) =
      visitors.countP (·.isAt name) - (if v.isAt name then 1 else 0)
        + (if v'.isAt name then 1 else 0) := by
  obtain ⟨hlength, hget⟩ := List.getElem?_eq_some_iff.mp hi
  rw [List.countP_set hlength, hget]

/-- A visitor who has entered is counted. -/
theorem count_pos {v : Visitor} (name : String) (hi : visitors[i]? = some v)
    (h : v.isAt name = true) : 0 < visitors.countP (·.isAt name) :=
  List.countP_pos_iff.mpr ⟨v, List.mem_of_getElem? hi, h⟩

theorem isAt_mk {other : String} :
    (Visitor.mk name hold).isAt other = (decide (name = other) && hold.ticket?.isSome) := rfl

/-- Two who are known under one name came to one lock. -/
theorem Locks.Knows.place_eq (h : s.Knows t) (h' : s.Knows t') (hname : t.name = t'.name) :
    t.place = t'.place := by
  have hmaker : some t.maker = some t'.maker := h.symm.trans (hname ▸ h')
  exact Prod.ext hname (Option.some.inj hmaker)

/-- **Of those who are inside under one name there is one.** -/
theorem Orderly.exclusive (h : Orderly visitors s) (hi : visitors[i]? = some ⟨name, .inside t⟩)
    (hj : visitors[j]? = some ⟨name, .inside t'⟩) : i = j := by
  have hname : t.name = t'.name := (h.named hi rfl).trans (h.named hj rfl).symm
  have hplace := (h.known hi rfl).place_eq (h.known hj rfl) hname
  have hsame := (h.holder hi rfl).symm.trans (hplace ▸ h.holder hj rfl)
  exact h.distinct hi hj rfl (hsame ▸ rfl)

/-- Nobody has entered. -/
theorem orderly_outside (h : ∀ v ∈ visitors, v.hold = .outside) : Orderly visitors s := by
  have houtside {i : Nat} {v : Visitor} {t : Ticket} (hi : visitors[i]? = some v)
      (hv : v.hold.ticket? = some t) : False := by
    rw [h v (List.mem_of_getElem? hi)] at hv
    exact nomatch hv
  refine ⟨fun hi hv => (houtside hi (congrArg Hold.ticket? hv)).elim, fun hi hv => (houtside hi hv).elim,
    fun hi hv => (houtside hi hv).elim, fun hi _ hv _ => (houtside hi hv).elim,
    fun hi hv => (houtside hi hv).elim, fun name => ?_⟩
  rw [List.countP_eq_zero.mpr fun v hv => ?_]
  · exact Nat.zero_le _
  · simp [Visitor.isAt, h v hv, Hold.ticket?]

theorem Orderly.enter (h : Orderly visitors s) (hi : visitors[i]? = some ⟨name, .outside⟩) :
    Orderly (visitors.set i ⟨name, .inLine (s.enter name).1⟩) (s.enter name).2 := by
  -- nobody has the new ticket
  have hnew {j : Nat} {v : Visitor} (hj : visitors[j]? = some v)
      (hv : v.hold.ticket? = some (s.enter name).1) : False :=
    absurd (h.issued hj hv) (Nat.lt_irrefl s.next)
  refine ⟨fun {j v t} hj hv => ?_, fun {j v t} hj hv => ?_, fun {j v t} hj hv => ?_,
    fun {j k v v' t} hj hk hv hv' => ?_, fun {j v t} hj hv => ?_, fun other => ?_⟩
  · rcases of_getElem?_set hj with ⟨-, rfl⟩ | ⟨-, hj⟩
    · exact nomatch hv
    · have hknows : s.Knows t := h.known hj (congrArg Hold.ticket? hv)
      rw [hknows.lockAt_enter]
      exact h.holder hj hv
  · rcases of_getElem?_set hj with ⟨-, rfl⟩ | ⟨-, hj⟩
    · rw [← Option.some.inj hv]
      rfl
    · exact h.named hj hv
  · rcases of_getElem?_set hj with ⟨-, rfl⟩ | ⟨-, hj⟩
    · rw [← Option.some.inj hv]
      exact Locks.knows_enter
    · exact (h.known hj hv).enter
  · rcases of_getElem?_set hj with ⟨rfl, rfl⟩ | ⟨-, hj⟩
    · rcases of_getElem?_set hk with ⟨hik, -⟩ | ⟨-, hk⟩
      · exact hik
      · rw [← Option.some.inj hv] at hv'
        exact (hnew hk hv').elim
    · rcases of_getElem?_set hk with ⟨-, rfl⟩ | ⟨-, hk⟩
      · rw [← Option.some.inj hv'] at hv
        exact (hnew hj hv).elim
      · exact h.distinct hj hk hv hv'
  · rcases of_getElem?_set hj with ⟨-, rfl⟩ | ⟨-, hj⟩
    · rw [← Option.some.inj hv]
      exact Nat.lt_succ_self _
    · exact Nat.lt_succ_of_lt (h.issued hj hv)
  · have hcount := h.users other
    rw [count_set hi, isAt_mk, isAt_mk]
    by_cases ho : other = name
    · subst ho
      rw [Locks.usersOf_enter_self]
      simpa [Hold.ticket?] using hcount
    · rw [Locks.usersOf_enter_of_ne ho]
      simpa [Hold.ticket?, Ne.symm ho] using hcount

theorem Orderly.ask (h : Orderly visitors s) (t : Ticket) : Orderly visitors (s.ask t) :=
  ⟨fun hj hv => Locks.holder_ask (h.holder hj hv), h.named, h.known, h.distinct, h.issued, h.users⟩

/-- One who is in line and holds the lock goes inside. -/
theorem Orderly.grasp (h : Orderly visitors s) (hi : visitors[i]? = some ⟨name, .inLine t⟩)
    (hholds : s.holds t = true) : Orderly (visitors.set i ⟨name, .inside t⟩) s := by
  -- the visitor has the same name and ticket as before
  have hback {j : Nat} {v : Visitor} {t' : Ticket}
      (hj : (visitors.set i ⟨name, .inside t⟩)[j]? = some v) (hv : v.hold.ticket? = some t') :
      ∃ v', visitors[j]? = some v' ∧ v'.hold.ticket? = some t' ∧ v'.name = v.name := by
    rcases of_getElem?_set hj with ⟨rfl, rfl⟩ | ⟨-, hj⟩
    · exact ⟨_, hi, hv, rfl⟩
    · exact ⟨v, hj, hv, rfl⟩
  refine ⟨fun {j v t'} hj hv => ?_, fun hj hv => ?_, fun hj hv => ?_, fun hj hk hv hv' => ?_,
    fun hj hv => ?_, fun other => ?_⟩
  · rcases of_getElem?_set hj with ⟨-, rfl⟩ | ⟨-, hj⟩
    · rw [← Hold.inside.inj hv]
      exact of_decide_eq_true hholds
    · exact h.holder hj hv
  · obtain ⟨u, hu, hut, hname⟩ := hback hj hv
    rw [← hname]
    exact h.named hu hut
  · obtain ⟨u, hu, hut, -⟩ := hback hj hv
    exact h.known hu hut
  · obtain ⟨u, hu, hut, -⟩ := hback hj hv
    obtain ⟨u', hu', hut', -⟩ := hback hk hv'
    exact h.distinct hu hu' hut hut'
  · obtain ⟨u, hu, hut, -⟩ := hback hj hv
    exact h.issued hu hut
  · have hcount := h.users other
    rw [count_set hi, isAt_mk, isAt_mk]
    by_cases ho : name = other
    · have hpos := count_pos other hi (by simp [isAt_mk, ho, Hold.ticket?])
      simp only [ho, Hold.ticket?, decide_true, Option.isSome_some, Bool.and_self, if_true]
      omega
    · simpa [Hold.ticket?, ho] using hcount

/-- One who has entered leaves, and gives up the lock or the place in line. -/
theorem Orderly.leave (h : Orderly visitors s) (hi : visitors[i]? = some ⟨name, hold⟩)
    (ht : hold.ticket? = some t) :
    Orderly (visitors.set i ⟨name, .left⟩) ((s.giveUp t).leave t) := by
  have hname : t.name = name := h.named hi ht
  -- whoever is still there, is another one who was there before
  have hback {j : Nat} {v : Visitor} {t' : Ticket}
      (hj : (visitors.set i ⟨name, .left⟩)[j]? = some v) (hv : v.hold.ticket? = some t') :
      visitors[j]? = some v ∧ t' ≠ t := by
    rcases of_getElem?_set hj with ⟨-, rfl⟩ | ⟨hij, hj⟩
    · exact nomatch hv
    · refine ⟨hj, ?_⟩
      rintro rfl
      exact hij (h.distinct hi hj ht hv)
  have hcounted : (Visitor.mk name hold).isAt name = true := by simp [isAt_mk, ht]
  refine ⟨fun hj hv => ?_, fun hj hv => h.named (hback hj hv).1 hv, fun {j v t'} hj hv => ?_,
    fun hj hk hv hv' => h.distinct (hback hj hv).1 (hback hk hv').1 hv hv', fun hj hv => ?_,
    fun other => ?_⟩
  · obtain ⟨hj', hne⟩ := hback hj (congrArg Hold.ticket? hv)
    rw [Locks.lockAt_leave]
    exact Locks.holder_giveUp (h.holder hj' hv) hne
  · obtain ⟨hj', -⟩ := hback hj hv
    refine (Locks.names_leave ?_).trans (h.known hj' hv)
    by_cases ho : t'.name = t.name
    · -- two have entered under this name
      refine .inr ?_
      have hat : v.isAt name = true := by
        unfold Visitor.isAt
        rw [← h.named hj' hv, ho, hname, hv]
        simp
      have hcount := h.users name
      have hleft := count_set hi ⟨name, .left⟩ name
      have hpos := count_pos name hj hat
      rw [hcounted, isAt_mk] at hleft
      simp only [Hold.ticket?, Option.isSome_none, Bool.and_false, if_true, Bool.false_eq_true,
        if_false] at hleft
      show 1 < s.usersOf t.name
      rw [hname]
      omega
    · exact .inl ho
  · rw [Locks.next_leave]
    exact h.issued (hback hj hv).1 hv
  · have hcount := h.users other
    rw [count_set hi]
    by_cases ho : other = name
    · subst ho
      have husers := Locks.usersOf_leave_self (s := s.giveUp t) (t := t)
      rw [hname] at husers
      rw [husers, hcounted, isAt_mk]
      simp only [Hold.ticket?, Option.isSome_none, Bool.and_false, if_true, Bool.false_eq_true,
        if_false]
      exact Nat.sub_le_sub_right hcount 1
    · rw [Locks.usersOf_leave_of_ne (hname ▸ ho), isAt_mk, isAt_mk]
      refine Nat.le_trans (Nat.le_of_eq ?_) hcount
      simp [Ne.symm ho]

end Parley.Session
