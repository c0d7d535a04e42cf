import Mathlib.Data.List.Induction
import Mathlib.Data.List.TakeWhile
import Mathlib.Tactic.SplitIfs
import Parley.Outcomes.Window

/-!
# Parley.Proofs.Outcomes.Window — what a window keeps of the events that it was told

Events come with moments in any order.  Recording one drops old events from the front only, as long as
they are too old for the event that comes, and the window has room for so many events only.
`keep_suffix`: what it keeps are the latest of the events that it recorded.  `exists_lost`: of the latest
events that the window has room for it has lost no others than those that were too old at the moment
of some event.
-/

namespace Parley

namespace Time

variable {m m' limit limit' : Moment} {seconds : Number} {micros : Int}

/-- Moments with an offset are ordered by their instants. -/
theorem Moment.before_of_aware (h : m.isNaive = false) (h' : m'.isNaive = false) :
    m.before m' = .ok (decide (m.instant < m'.instant)) := by
  unfold before order
  rw [if_pos (h.trans h'.symm)]
  show Except.ok (compare m.instant m'.instant == .lt) = _
  congr 1
  rw [Bool.eq_iff_iff, beq_iff_eq, decide_eq_true_iff]
  exact Std.compare_eq_lt

theorem Moment.before_of_mixed (h : m.isNaive ≠ m'.isNaive) : m.before m' = .error .mixedClocks := by
  unfold before order
  rw [if_neg h]
  rfl

theorem Moment.shift_eq_ok (h : m.shift micros = .ok m') : m' = { m with civil := m.civil + micros } := by
  unfold shift at h
  dsimp only at h
  split_ifs at h
  exact (Except.ok.inj h).symm

end Time

namespace Outcomes

open Time (Moment)

variable {α : Type}

/-! ### The start of a window -/

section Cutoff

variable {m m' limit limit' : Moment} {seconds : Number}

/-- The start of a window comes a fixed time before its end. -/
theorem cutoff_eq_ok (h : cutoff seconds m = .ok limit) :
    ∃ micros, Time.spanMicros seconds = .ok micros ∧ limit = { m with civil := m.civil - micros } := by
  obtain ⟨micros, hspan, h⟩ := exceptBind_eq_ok.mp h
  exact ⟨micros, hspan, Moment.shift_eq_ok h⟩

theorem isNaive_of_cutoff (h : cutoff seconds m = .ok limit) : limit.isNaive = m.isNaive := by
  obtain ⟨micros, -, rfl⟩ := cutoff_eq_ok h
  rfl

/-- A window that ends later starts later. -/
theorem instant_cutoff_le (h : cutoff seconds m = .ok limit) (h' : cutoff seconds m' = .ok limit')
    (hle : m.instant ≤ m'.instant) : limit.instant ≤ limit'.instant := by
  obtain ⟨micros, hspan, rfl⟩ := cutoff_eq_ok h
  obtain ⟨micros', hspan', rfl⟩ := cutoff_eq_ok h'
  obtain rfl : micros = micros' := Except.ok.inj (hspan.symm.trans hspan')
  unfold Moment.instant at hle ⊢
  dsimp only at hle ⊢
  omega

end Cutoff

/-! ### The last entries of a list -/

section LastEntries

variable {n k : Nat} {xs ys : List α}

theorem lastEntries_append (n : Nat) (xs ys : List α) :
    lastEntries n (xs ++ ys) = lastEntries (n - ys.length) xs ++ lastEntries n ys := by
  unfold lastEntries
  rw [List.drop_append, List.length_append]
  congr 1
  · rw [List.drop_eq_drop_iff]
    omega
  · congr 1
    omega

theorem lastEntries_lastEntries (h : k ≤ n) (xs : List α) :
    lastEntries k (lastEntries n xs) = lastEntries k xs := by
  unfold lastEntries
  rw [List.drop_drop, List.length_drop]
  congr 1
  omega

/-- To keep the last entries early on loses nothing that is among the last ones later. -/
theorem lastEntries_lastEntries_append (n : Nat) (xs ys : List α) :
    lastEntries n (lastEntries n xs ++ ys) = lastEntries n (xs ++ ys) := by
  rw [lastEntries_append, lastEntries_append, lastEntries_lastEntries (Nat.sub_le n _)]

theorem mem_of_mem_lastEntries {a : α} (h : a ∈ lastEntries n xs) : a ∈ xs := List.mem_of_mem_drop h

theorem lastEntries_concat (h : 0 < n) (xs : List α) (a : α) :
    lastEntries n (xs ++ [a]) = lastEntries (n - 1) xs ++ [a] := by
  have hone : lastEntries n [a] = [a] := by
    obtain ⟨k, rfl⟩ := Nat.exists_eq_succ_of_ne_zero h.ne'
    simp [lastEntries]
  rw [lastEntries_append, hone]
  rfl

theorem length_lastEntries (n : Nat) (xs : List α) : (lastEntries n xs).length = min n xs.length := by
  unfold lastEntries
  rw [List.length_drop]
  omega

theorem lastEntries_of_le (h : xs.length ≤ n) : lastEntries n xs = xs := by
  unfold lastEntries
  rw [Nat.sub_eq_zero_of_le h, List.drop_zero]

theorem lastEntries_suffix (n : Nat) (xs : List α) : lastEntries n xs <:+ xs := List.drop_suffix _ xs

/-- Fewer of the last entries are the last ones of more. -/
theorem lastEntries_suffix_of_le (h : k ≤ n) (xs : List α) :
    lastEntries k xs <:+ lastEntries n xs := by
  rw [← lastEntries_lastEntries h]
  exact lastEntries_suffix k _

end LastEntries

/-! ### Recording -/

/-- A window has room for events at all, and its start has a date when it ends at the moment. -/
def WindowSize.takes (size : WindowSize) (m : Moment) : Bool :=
  0 ≤ size.entries && (cutoff size.seconds m).isOk

/-- What is left of a window after one event after the other was recorded. -/
def keep (size : WindowSize) (events : List (Stamped α)) : List (Stamped α) :=
  events.foldl (fun kept e => (record size kept (some e.moment) e.value).2) []

/-- The events that a window with something in it records, of those that it is told. -/
def recorded (size : WindowSize) : (kept events : List (Stamped α)) → List (Stamped α)
  | _, [] => []
  | kept, e :: events =>
    (if (record size kept (some e.moment) e.value).1 then [e] else []) ++
      recorded size (record size kept (some e.moment) e.value).2 events

/-- The events that a window is told and takes. -/
def taken (size : WindowSize) (events : List (Stamped α)) : List (Stamped α) :=
  events.filter fun e => size.takes e.moment

/-- The event comes before a window that starts at the limit. -/
def tooOld (limit : Moment) (e : Stamped α) : Bool := e.moment.instant < limit.instant

/-- The event is too old for a window that ends at the moment of one of the others. -/
def Outdated (size : WindowSize) (others : List (Stamped α)) (e : Stamped α) : Prop :=
  ∃ other ∈ others, ∃ limit, cutoff size.seconds other.moment = .ok limit ∧
    e.moment.instant < limit.instant

section Recording

variable {size : WindowSize} {events kept : List (Stamped α)} {e : Stamped α} {limit : Moment}

theorem exists_cutoff_of_takes (h : size.takes e.moment = true) :
    0 ≤ size.entries ∧ ∃ limit, cutoff size.seconds e.moment = .ok limit := by
  obtain ⟨hentries, hdated⟩ := Bool.and_eq_true_iff.mp h
  refine ⟨of_decide_eq_true hentries, ?_⟩
  cases hcutoff : cutoff size.seconds e.moment with
  | ok limit => exact ⟨limit, rfl⟩
  | error f =>
    rw [hcutoff] at hdated
    exact nomatch hdated

/-- Events with an offset are dropped from the front as long as they are too old. -/
theorem evict_of_aware (hlimit : limit.isNaive = false)
    (h : ∀ e ∈ events, e.moment.isNaive = false) :
    evict limit events = (.ok (), events.dropWhile (tooOld limit)) := by
  induction events with
  | nil => rfl
  | cons e events ih =>
    have hbefore : e.moment.before limit = .ok (tooOld limit e) :=
      Moment.before_of_aware (h e List.mem_cons_self) hlimit
    rw [evict, hbefore]
    cases hold : tooOld limit e with
    | true =>
      rw [List.dropWhile_cons_of_pos hold]
      exact ih fun e' he' => h e' (List.mem_cons_of_mem _ he')
    | false => rw [List.dropWhile_cons_of_neg (Bool.eq_false_iff.mp hold)]

/-- What a window takes is recorded behind what is not too old. -/
theorem record_of_takes (htakes : size.takes e.moment = true) (he : e.moment.isNaive = false)
    (h : ∀ e ∈ kept, e.moment.isNaive = false) :
    ∃ limit, cutoff size.seconds e.moment = .ok limit ∧
      record size kept (some e.moment) e.value = (true, lastEntries size.entries.toNat
        (kept.dropWhile (tooOld limit) ++ [e])) := by
  obtain ⟨hentries, limit, hcutoff⟩ := exists_cutoff_of_takes htakes
  have hlimit : limit.isNaive = false := (isNaive_of_cutoff hcutoff).trans he
  refine ⟨limit, hcutoff, ?_⟩
  unfold record
  rw [if_neg (by omega)]
  simp only [hcutoff, evict_of_aware hlimit h]

/-- What a window does not take changes nothing. -/
theorem record_of_not_takes (h : size.takes e.moment = false) (kept : List (Stamped α)) :
    record size kept (some e.moment) e.value = (false, kept) := by
  unfold record
  split_ifs with hentries
  · rfl
  · cases hcutoff : cutoff size.seconds e.moment with
    | error f => simp only [hcutoff]
    | ok limit =>
      unfold WindowSize.takes at h
      rw [hcutoff, decide_eq_true (by omega : 0 ≤ size.entries)] at h
      exact nomatch h

theorem keep_concat (size : WindowSize) (events : List (Stamped α)) (e : Stamped α) :
    keep size (events ++ [e]) = (record size (keep size events) (some e.moment) e.value).2 := by
  simp [keep, List.foldl_append]

theorem Outdated.concat (h : Outdated size events e) (other : Stamped α) :
    Outdated size (events ++ [other]) e := by
  obtain ⟨witness, hmem, hold⟩ := h
  exact ⟨witness, List.mem_append_left _ hmem, hold⟩

/-- What makes up the latest events that were taken is among the events. -/
theorem mem_of_latest {lost : List (Stamped α)}
    (h : lastEntries size.entries.toNat (taken size events) = lost ++ kept) (he : e ∈ kept) :
    e ∈ events := by
  have hlatest : e ∈ lastEntries size.entries.toNat (taken size events) := by
    rw [h]
    exact List.mem_append_right _ he
  exact (List.mem_filter.mp (mem_of_mem_lastEntries hlatest)).1

/-- **A window loses nothing but what is outdated** of the latest events that it took, as many as it has
room for. -/
theorem exists_lost (size : WindowSize) (haware : ∀ e ∈ events, e.moment.isNaive = false) :
    ∃ lost, lastEntries size.entries.toNat (taken size events) = lost ++ keep size events ∧
      ∀ e ∈ lost, Outdated size events e := by
  induction events using List.reverseRecOn with
  | nil => exact ⟨[], List.drop_nil, fun e he => absurd he List.not_mem_nil⟩
  | append_singleton events e ih =>
    have hbefore : ∀ e ∈ events, e.moment.isNaive = false :=
      fun e' he' => haware e' (List.mem_append_left _ he')
    obtain ⟨lost, hlatest, hlost⟩ := ih hbefore
    rw [keep_concat]
    cases htakes : size.takes e.moment with
    | false =>
      have htaken : taken size (events ++ [e]) = taken size events := by
        simp [taken, htakes]
      rw [record_of_not_takes htakes, htaken]
      exact ⟨lost, hlatest, fun e' he' => (hlost e' he').concat e⟩
    | true =>
      have htaken : taken size (events ++ [e]) = taken size events ++ [e] := by
        simp [taken, htakes]
      have hkept : ∀ e' ∈ keep size events, e'.moment.isNaive = false :=
        fun e' he' => hbefore e' (mem_of_latest hlatest he')
      obtain ⟨limit, hcutoff, hrecord⟩ :=
        record_of_takes htakes (haware e (List.mem_append_right _ (List.mem_singleton_self e))) hkept
      let old := (keep size events).takeWhile (tooOld limit)
      let young := (keep size events).dropWhile (tooOld limit)
      have hsplit : lost ++ keep size events ++ [e] = (lost ++ old) ++ (young ++ [e]) := by
        have hkeep : old ++ young = keep size events := List.takeWhile_append_dropWhile
        rw [← hkeep]
        simp only [List.append_assoc]
      refine ⟨lastEntries (size.entries.toNat - (young ++ [e]).length) (lost ++ old), ?_, ?_⟩
      · rw [hrecord, htaken, ← lastEntries_lastEntries_append, hlatest, hsplit, lastEntries_append]
      · intro e' he'
        rcases List.mem_append.mp (mem_of_mem_lastEntries he') with he' | he'
        · exact (hlost e' he').concat e
        · have hold : tooOld limit e' = true := List.mem_takeWhile_imp he'
          exact ⟨e, List.mem_append_right _ (List.mem_singleton_self e), limit, hcutoff,
            of_decide_eq_true hold⟩

/-- Whatever can be compared, dropping old events leaves the latest ones. -/
theorem evict_suffix (limit : Moment) (kept : List (Stamped α)) : (evict limit kept).2 <:+ kept := by
  induction kept with
  | nil => exact List.suffix_rfl
  | cons e kept ih =>
    rw [evict]
    split
    · exact ih.trans (List.suffix_cons e kept)
    · exact List.suffix_rfl
    · exact List.suffix_rfl

/-- What a window takes is recorded behind what is left of it, if all that is dropped and the first
that is left can be compared; otherwise it is what is left. -/
theorem record_cases (htakes : size.takes e.moment = true) (kept : List (Stamped α)) :
    ∃ limit, cutoff size.seconds e.moment = .ok limit ∧
      ((∃ f left, evict limit kept = (.error f, left) ∧
          record size kept (some e.moment) e.value = (false, left)) ∨
        ∃ left, evict limit kept = (.ok (), left) ∧
          record size kept (some e.moment) e.value =
            (true, lastEntries size.entries.toNat (left ++ [e]))) := by
  obtain ⟨hentries, limit, hcutoff⟩ := exists_cutoff_of_takes htakes
  refine ⟨limit, hcutoff, ?_⟩
  unfold record
  rw [if_neg (by omega)]
  rcases hevict : evict limit kept with ⟨f | ⟨⟩, left⟩
  · exact .inl ⟨f, left, rfl, by simp only [hcutoff, hevict]⟩
  · exact .inr ⟨left, rfl, by simp only [hcutoff, hevict]⟩

/-- What is recorded comes behind what is left. -/
theorem record_suffix (size : WindowSize) (kept : List (Stamped α)) (e : Stamped α) :
    (record size kept (some e.moment) e.value).2 <:+
      kept ++ if (record size kept (some e.moment) e.value).1 then [e] else [] := by
  have hsame : kept <:+ kept ++ [] := ⟨[], by simp⟩
  cases htakes : size.takes e.moment with
  | false =>
    rw [record_of_not_takes htakes]
    exact hsame
  | true =>
    obtain ⟨limit, -, ⟨f, left, hevict, hrecord⟩ | ⟨left, hevict, hrecord⟩⟩ :=
      record_cases htakes kept
    · have hleft := evict_suffix limit kept
      rw [hevict] at hleft
      rw [hrecord]
      exact hleft.trans hsame
    · have hleft := evict_suffix limit kept
      rw [hevict] at hleft
      obtain ⟨lost, rfl⟩ := hleft
      rw [hrecord]
      exact (lastEntries_suffix _ _).trans ⟨lost, (List.append_assoc lost left [e]).symm⟩

theorem recorded_concat (size : WindowSize) (kept events : List (Stamped α)) (e : Stamped α) :
    recorded size kept (events ++ [e]) = recorded size kept events ++
      recorded size (events.foldl (fun kept e => (record size kept (some e.moment) e.value).2) kept)
        [e] := by
  induction events generalizing kept with
  | nil => rfl
  | cons e' events ih => rw [List.cons_append, recorded, recorded, ih, List.append_assoc]; rfl

/-- **A window keeps the latest of the events that it recorded.** -/
theorem keep_suffix (size : WindowSize) (events : List (Stamped α)) :
    keep size events <:+ recorded size [] events := by
  induction events using List.reverseRecOn with
  | nil => exact List.suffix_rfl
  | append_singleton events e ih =>
    have hlast := record_suffix size (keep size events) e
    rw [keep_concat, recorded_concat]
    obtain ⟨lost, hlost⟩ := ih
    refine hlast.trans ⟨lost, ?_⟩
    rw [← List.append_assoc, hlost]
    exact congrArg (recorded size [] events ++ ·) (List.append_nil _).symm

theorem recorded_sublist (size : WindowSize) (kept events : List (Stamped α)) :
    (recorded size kept events).Sublist events := by
  induction events generalizing kept with
  | nil => exact List.Sublist.refl _
  | cons e events ih =>
    rw [recorded]
    split_ifs
    · exact (ih _).cons_cons e
    · exact (ih _).cons e

end Recording

end Outcomes

end Parley
