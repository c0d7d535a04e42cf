import Mathlib.Tactic.SplitIfs
import Parley.Time.Calendar

/-!
# Parley.Proofs.Time.Calendar — days and dates stand for each other

`Date.Valid date`: the calendar has the date.  `Date.toDays_ofDays` and `Date.valid_ofDays`: every
day up to the end of the year 9999 is the day of a date that the calendar has; `Date.toDays_lt`: no
date that it has is later.
-/

namespace Parley.Time

def yearDays (year : Nat) : Nat := if isLeap year then 366 else 365

theorem daysBeforeMonth_succ (year : Nat) {month : Nat} (h : 1 ≤ month) :
    daysBeforeMonth year (month + 1) = daysBeforeMonth year month + monthDays year month := by
  obtain ⟨m, rfl⟩ := Nat.exists_eq_add_of_le' h
  unfold daysBeforeMonth
  simp only [Nat.add_sub_cancel, List.range_succ, List.map_append, List.foldr_append]
  have hfold (days : List Nat) (n : Nat) :
      days.foldr (· + ·) n = days.foldr (· + ·) 0 + n := by
    induction days with
    | nil => simp
    | cons d more ih => simp only [List.foldr_cons, ih]; omega
  rw [hfold]
  simp

theorem daysBeforeMonth_one (year : Nat) : daysBeforeMonth year 1 = 0 := rfl

/-- The months make a year. -/
theorem daysBeforeMonth_thirteen (year : Nat) : daysBeforeMonth year 13 = yearDays year := by
  unfold daysBeforeMonth yearDays
  simp only [Nat.reduceSub, List.range, List.range.loop, List.map, List.foldr, monthDays]
  split_ifs <;> rfl

theorem daysBeforeMonth_mono (year : Nat) {month : Nat} (h : 1 ≤ month) (more : Nat) :
    daysBeforeMonth year month ≤ daysBeforeMonth year (month + more) := by
  induction more with
  | zero => exact Nat.le_refl _
  | succ more ih =>
    rw [← Nat.add_assoc, daysBeforeMonth_succ year (Nat.le_trans h (Nat.le_add_right month more))]
    omega

/-- A day of the months that are left falls into one of them. -/
theorem monthOf_spec {year fuel month n : Nat} (hmonth : 1 ≤ month)
    (h : daysBeforeMonth year month + n < daysBeforeMonth year (month + fuel + 1)) :
    month ≤ (monthOf year fuel month n).1 ∧ (monthOf year fuel month n).1 ≤ month + fuel ∧
      1 ≤ (monthOf year fuel month n).2 ∧
      (monthOf year fuel month n).2 ≤ monthDays year (monthOf year fuel month n).1 ∧
      daysBeforeMonth year (monthOf year fuel month n).1 + ((monthOf year fuel month n).2 - 1) =
        daysBeforeMonth year month + n := by
  induction fuel generalizing month n with
  | zero =>
    rw [Nat.add_zero, daysBeforeMonth_succ year hmonth] at h
    simp only [monthOf]
    omega
  | succ fuel ih =>
    unfold monthOf
    split_ifs with hday
    · dsimp only
      omega
    · have hnext := daysBeforeMonth_succ year hmonth
      have hfuel : month + (fuel + 1) + 1 = month + 1 + fuel + 1 := by omega
      rw [hfuel] at h
      have hrest := @ih (month + 1) (n - monthDays year month) (by omega) (by omega)
      omega

theorem succ_div_eq (y d : Nat) :
    (y + 1) / d = y / d + if (y + 1) % d = 0 then 1 else 0 := by
  rw [Nat.succ_div]
  simp only [Nat.dvd_iff_mod_eq_zero]

theorem daysBeforeYear_succ {year : Nat} (h : 1 ≤ year) :
    daysBeforeYear (year + 1) = daysBeforeYear year + yearDays year := by
  obtain ⟨y, hy⟩ : ∃ y, y + 1 = year := ⟨year - 1, Nat.sub_add_cancel h⟩
  have hfour := succ_div_eq y 4
  have hcentury := succ_div_eq y 100
  have hcycle := succ_div_eq y 400
  have hless : y / 100 ≤ y := Nat.div_le_self y 100
  have hlast : year - 1 = y := by omega
  rw [hy] at hfour hcentury hcycle
  unfold daysBeforeYear yearDays isLeap
  rw [Nat.add_sub_cancel, hlast]
  dsimp only
  rw [hfour, hcentury, hcycle]
  by_cases h4 : year % 4 = 0
  · by_cases h100 : year % 100 = 0
    · by_cases h400 : year % 400 = 0
      · simp only [h4, h100, h400, if_true, decide_true, Bool.or_true, Bool.and_true]
        omega
      · simp only [h4, h100, h400, if_true, if_false, decide_true, decide_false, not_true, ne_eq,
          Bool.or_false, Bool.and_false, Bool.false_eq_true]
        omega
    · have h400 : year % 400 ≠ 0 := by omega
      simp only [h4, h100, h400, if_true, if_false, decide_true, not_false_iff, ne_eq,
        Bool.true_or, Bool.and_true]
      omega
  · have h100 : year % 100 ≠ 0 := by omega
    have h400 : year % 400 ≠ 0 := by omega
    simp only [h4, h100, h400, if_false, decide_false, Bool.false_and, Bool.false_eq_true]
    omega

theorem daysBeforeYear_mono {year : Nat} (h : 1 ≤ year) (more : Nat) :
    daysBeforeYear year ≤ daysBeforeYear (year + more) := by
  induction more with
  | zero => exact Nat.le_refl _
  | succ more ih =>
    rw [← Nat.add_assoc, daysBeforeYear_succ (Nat.le_trans h (Nat.le_add_right year more))]
    omega

/-- The days before a year that is given by cycles of four hundred years, centuries, and cycles of
four years. -/
theorem daysBeforeYear_parts (cycle : Nat) {century quad y : Nat} (hcentury : century ≤ 3)
    (hquad : quad ≤ 24) (hy : y ≤ 3) :
    daysBeforeYear (cycle * 400 + century * 100 + quad * 4 + y + 1) =
      146097 * cycle + 36524 * century + 1461 * quad + 365 * y := by
  unfold daysBeforeYear
  rw [Nat.add_sub_cancel]
  dsimp only
  have hfour : (cycle * 400 + century * 100 + quad * 4 + y) / 4 =
      100 * cycle + 25 * century + quad := by omega
  have hhundred : (cycle * 400 + century * 100 + quad * 4 + y) / 100 = 4 * cycle + century := by
    omega
  have hcycle : (cycle * 400 + century * 100 + quad * 4 + y) / 400 = cycle := by omega
  rw [hfour, hhundred, hcycle]
  omega

theorem isLeap_parts (cycle : Nat) {century quad : Nat} (hquad : quad ≤ 24)
    (h : quad = 24 → century = 3) :
    isLeap (cycle * 400 + century * 100 + quad * 4 + 3 + 1) = true := by
  have hfour : (cycle * 400 + century * 100 + quad * 4 + 3 + 1) % 4 = 0 := by omega
  unfold isLeap
  simp only [hfour, Bool.and_eq_true, Bool.or_eq_true, decide_eq_true_eq, true_and]
  omega

namespace Date

/-- The calendar has the date. -/
structure Valid (date : Date) : Prop where
  year : 1 ≤ date.year ∧ date.year ≤ 9999
  month : 1 ≤ date.month ∧ date.month ≤ 12
  day : 1 ≤ date.day ∧ date.day ≤ monthDays date.year date.month

/-- The year of a day, the first day of that year, and how many days of the year come before. -/
theorem year_ofDays (n : Nat) : ∃ passed, passed < yearDays (ofDays n).year ∧
    daysBeforeYear (ofDays n).year + passed = n ∧ 1 ≤ (ofDays n).year ∧
    ((ofDays n).month, (ofDays n).day) = monthOf (ofDays n).year 11 1 passed := by
  have hparts : ∃ cycle century quad y passed, (ofDays n).year =
      cycle * 400 + century * 100 + quad * 4 + y + 1 ∧ century ≤ 3 ∧ quad ≤ 24 ∧ y ≤ 3 ∧
      n = 146097 * cycle + 36524 * century + 1461 * quad + 365 * y + passed ∧
      (passed < 365 ∨ passed = 365 ∧ y = 3 ∧ (quad = 24 → century = 3)) ∧
      ((ofDays n).month, (ofDays n).day) = monthOf (ofDays n).year 11 1 passed := by
    refine ⟨n / 146097, min 3 (n % 146097 / 36524), _, _, _, rfl, Nat.min_le_left _ _, ?_,
      Nat.min_le_left _ _, ?_, ?_, rfl⟩
    · omega
    · omega
    · omega
  obtain ⟨cycle, century, quad, y, passed, hyear, hcentury, hquad, hy, hn, hpassed, hmonth⟩ := hparts
  refine ⟨passed, ?_, ?_, by omega, hmonth⟩
  · unfold yearDays
    rcases hpassed with hlt | ⟨rfl, rfl, hlast⟩
    · split_ifs <;> omega
    · rw [hyear, if_pos (isLeap_parts cycle hquad hlast)]
      decide
  · rw [hyear, daysBeforeYear_parts cycle hcentury hquad hy]
    omega

theorem monthOf_ofDays {year passed : Nat} (h : passed < yearDays year) :
    daysBeforeMonth year 1 + passed < daysBeforeMonth year (1 + 11 + 1) := by
  rw [daysBeforeMonth_one, daysBeforeMonth_thirteen]
  omega

/-- The day of the date of a day is that day. -/
theorem toDays_ofDays (n : Nat) : (ofDays n).toDays = n := by
  obtain ⟨passed, hpassed, hn, -, hmonth⟩ := year_ofDays n
  obtain ⟨-, -, -, -, hday⟩ := monthOf_spec (Nat.le_refl 1) (monthOf_ofDays hpassed)
  rw [← hmonth, daysBeforeMonth_one] at hday
  unfold toDays
  dsimp only at hday
  omega

/-- Until the end of time, the date of a day is one that the calendar has. -/
theorem valid_ofDays {n : Nat} (h : n < daysBeforeYear 10000) : (ofDays n).Valid := by
  obtain ⟨passed, hpassed, hn, hyear, hmonth⟩ := year_ofDays n
  obtain ⟨hfirst, hlast, hday, hlength, -⟩ :=
    monthOf_spec (Nat.le_refl 1) (monthOf_ofDays hpassed)
  rw [← hmonth] at hfirst hlast hday hlength
  refine ⟨⟨hyear, ?_⟩, ⟨hfirst, hlast⟩, hday, hlength⟩
  rcases Nat.lt_or_ge 9999 (ofDays n).year with hlate | hearly
  · obtain ⟨more, hmore⟩ : ∃ more, (ofDays n).year = 10000 + more :=
      Nat.exists_eq_add_of_le hlate
    have hmono : daysBeforeYear 10000 ≤ daysBeforeYear (10000 + more) :=
      daysBeforeYear_mono (by decide) more
    rw [hmore] at hn
    omega
  · exact hearly

/-- No date of the calendar is later than the end of time. -/
theorem toDays_lt {date : Date} (h : date.Valid) : date.toDays < daysBeforeYear 10000 := by
  obtain ⟨⟨hfirst, hlast⟩, ⟨hmonth, hmonth'⟩, hday, hday'⟩ := h
  have hyear : daysBeforeYear date.year + yearDays date.year ≤ daysBeforeYear 10000 := by
    obtain ⟨more, hmore⟩ := Nat.exists_eq_add_of_le hlast
    have hmono := daysBeforeYear_mono (Nat.le_add_left 1 date.year) more
    have hend : date.year + 1 + more = 10000 := by omega
    rw [hend] at hmono
    rwa [← daysBeforeYear_succ hfirst]
  have hnext := daysBeforeMonth_succ date.year hmonth
  have hmonths := daysBeforeMonth_mono date.year (Nat.le_add_left 1 date.month) (12 - date.month)
  have hend : date.month + 1 + (12 - date.month) = 13 := by omega
  rw [hend, daysBeforeMonth_thirteen] at hmonths
  unfold toDays
  omega

end Date

end Parley.Time
