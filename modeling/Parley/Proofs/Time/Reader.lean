import Mathlib.Tactic.SplitIfs
import Mathlib.Tactic.IntervalCases
import Parley.Proofs.Time.Calendar
import Parley.Time.Reader

/-!
# Parley.Proofs.Time.Reader — what is written of a moment is read as that moment

A `Proper` moment has a date, and an offset that text tells from none.
`readMoment_iso`: what is written of a proper moment, with or without a fraction and an offset, is
read as that moment.  `proper_of_readMoment`: no other moments are ever read.

A written moment is a list of characters put together from `lastDigits`, with one lemma for what each
stage of the reader makes of its piece.
-/

namespace Parley.Time

/-! ### Digits -/

section Digits

/-- The last digits of a number. -/
def lastDigits : Nat → Nat → List Char
  | 0, _ => []
  | width + 1, n => lastDigits width (n / 10) ++ [Nat.digitChar (n % 10)]

theorem length_lastDigits (width n : Nat) : (lastDigits width n).length = width := by
  induction width generalizing n with
  | zero => rfl
  | succ width ih => simp [lastDigits, ih]

theorem toList_padded_eq (width n : Nat) : (Decimal.padded width n).toList =
    List.replicate (width - (Nat.toDigits 10 n).length) '0' ++ Nat.toDigits 10 n := by
  have hdigits : toString n = String.ofList (Nat.toDigits 10 n) := Nat.toString_eq_ofList_toDigits
  have hlength : (String.ofList (Nat.toDigits 10 n)).length = (Nat.toDigits 10 n).length := by simp
  unfold Decimal.padded Decimal.zeros
  dsimp only
  rw [hdigits, hlength, String.toList_append, String.toList_ofList, String.toList_ofList]

/-- A number that has the width is written with all its digits. -/
theorem toList_padded {width n : Nat} (hwidth : 1 ≤ width) (h : n < 10 ^ width) :
    (Decimal.padded width n).toList = lastDigits width n := by
  rw [toList_padded_eq]
  induction width, hwidth using Nat.le_induction generalizing n with
  | base =>
    have hten : n < 10 := by simpa using h
    simp [Nat.toDigits_of_lt_base hten, lastDigits, Nat.mod_eq_of_lt hten]
  | succ width hwidth ih =>
    rw [Nat.pow_succ] at h
    have hrest := ih (n := n / 10) (by omega)
    rw [lastDigits, ← hrest]
    by_cases hten : n < 10
    · have hzero : n / 10 = 0 := by omega
      obtain ⟨w, rfl⟩ := Nat.exists_eq_add_of_le' hwidth
      rw [Nat.toDigits_of_lt_base hten, hzero, Nat.toDigits_of_lt_base (by decide),
        Nat.mod_eq_of_lt hten]
      simp [List.replicate_succ']
    · rw [Nat.toDigits_of_base_le (by decide) (by omega)]
      simp

theorem digit?_digitChar {n : Nat} (h : n < 10) : digit? (Nat.digitChar n) = some n := by
  interval_cases n <;> rfl

theorem digits?_go_lastDigits {width n : Nat} (h : n < 10 ^ width) (count before : Nat)
    (rest : List Char) : digits?.go (width + count) before (lastDigits width n ++ rest) =
      digits?.go count (before * 10 ^ width + n) rest := by
  induction width generalizing n count rest with
  | zero =>
    have hn : n = 0 := by simpa using h
    simp [lastDigits, hn]
  | succ width ih =>
    rw [Nat.pow_succ] at h
    have hdigit := digit?_digitChar (Nat.mod_lt n (by decide : 0 < 10))
    have hsum : (before * 10 ^ width + n / 10) * 10 + n % 10 = before * 10 ^ (width + 1) + n := by
      rw [Nat.pow_succ, Nat.add_mul, Nat.mul_assoc]
      omega
    rw [lastDigits, List.append_assoc, Nat.add_assoc, Nat.add_comm 1 count,
      ih (by omega) (count + 1)]
    simp only [List.singleton_append, digits?.go, hdigit]
    exact congrArg (fun n => digits?.go count n rest) hsum

theorem digits?_lastDigits {width n : Nat} (h : n < 10 ^ width) (rest : List Char) :
    digits? width (lastDigits width n ++ rest) = some (n, rest) := by
  have hgo := digits?_go_lastDigits h 0 0 rest
  rw [Nat.zero_mul, Nat.zero_add] at hgo
  exact hgo

/-- A digit is no mark. -/
theorem ne_of_digit? {c mark : Char} (h : (digit? c).isSome = true) (hmark : digit? mark = none) :
    c ≠ mark := by
  rintro rfl
  rw [hmark] at h
  exact nomatch h

theorem isSome_digit?_of_mem {width n : Nat} {c : Char} (h : c ∈ lastDigits width n) :
    (digit? c).isSome = true := by
  induction width generalizing n with
  | zero => exact nomatch h
  | succ width ih =>
    rcases List.mem_append.mp h with h | h
    · exact ih h
    · rw [List.mem_singleton.mp h, digit?_digitChar (Nat.mod_lt n (by decide))]
      rfl

end Digits

/-! ### Times of day -/

section Clock

/-- No digit stands at the front. -/
def Stops (cs : List Char) : Prop := ∀ c ∈ cs.head?, digit? c = none

theorem dropWhile_of_stops {cs : List Char} (h : Stops cs) :
    cs.dropWhile (fun c => (digit? c).isSome) = cs := by
  cases cs with
  | nil => rfl
  | cons c more =>
    have hc : digit? c = none := h c rfl
    simp [hc]

theorem part_colon {n room : Nat} (hn : n < 10 ^ 2) (hroom : 3 < room) (count : Nat)
    {parts : List Nat} {colons : Bool} (hcolons : parts = [] ∨ colons = true) (rest : List Char) :
    clock?.part (count + 1) parts colons (lastDigits 2 n ++ ':' :: rest) room =
      clock?.part count (n :: parts) true rest (room - 3) := by
  have hlong : ¬ room ≤ 3 := by omega
  rw [clock?.part, digits?_lastDigits hn]
  rcases hcolons with rfl | rfl <;> simp [hlong]

theorem part_last {n room : Nat} (hn : n < 10 ^ 2) (hroom : room ≤ 3) (count : Nat)
    (parts : List Nat) (colons : Bool) (rest : List Char) :
    clock?.part (count + 1) parts colons (lastDigits 2 n ++ rest) room =
      some (clock?.close (n :: parts) 0 (!rest.isEmpty)) := by
  rw [clock?.part, digits?_lastDigits hn]
  simp [hroom]

theorem part_point {n fraction : Nat} (hn : n < 10 ^ 2) (hfraction : fraction < 10 ^ 6)
    (count : Nat) (parts : List Nat) {rest : List Char} (hrest : Stops rest) :
    clock?.part (count + 1) parts true (lastDigits 2 n ++ '.' :: (lastDigits 6 fraction ++ rest)) 9 =
      some (clock?.close (n :: parts) fraction (!rest.isEmpty)) := by
  rw [clock?.part, digits?_lastDigits hn]
  simp [clock?.finish, fraction?, digits?_lastDigits hfraction, dropWhile_of_stops hrest]

/-- The parts of a time of day. -/
structure Parts where
  hour : Nat
  minute : Nat
  second : Nat
  micro : Nat

def Parts.ofMicros (micros : Nat) : Parts :=
  ⟨micros / 1000000 / 3600, micros / 1000000 / 60 % 60, micros / 1000000 % 60, micros % 1000000⟩

/-- The written time. -/
def Parts.chars (p : Parts) (always : Bool) : List Char :=
  lastDigits 2 p.hour ++ ':' :: (lastDigits 2 p.minute ++
    if p.micro ≠ 0 then ':' :: (lastDigits 2 p.second ++ '.' :: lastDigits 6 p.micro)
    else if always || p.second ≠ 0 then ':' :: lastDigits 2 p.second
    else [])

/-- The size of the parts. -/
structure Parts.Small (p : Parts) : Prop where
  hour : p.hour < 24
  minute : p.minute < 60
  second : p.second < 60
  micro : p.micro < 1000000

theorem Parts.small_ofMicros {micros : Nat} (h : micros < 86400000000) :
    (Parts.ofMicros micros).Small := by
  unfold Parts.ofMicros
  constructor <;> dsimp only <;> omega

theorem toList_clockText {micros : Nat} (h : micros < 86400000000) (always : Bool) :
    (Moment.clockText micros always).toList = (Parts.ofMicros micros).chars always := by
  have htwo {n : Nat} (hn : n < 60) : (Moment.two n).toList = lastDigits 2 n :=
    toList_padded (by decide) (by omega)
  have hsix {n : Nat} (hn : n < 1000000) : (Decimal.padded 6 n).toList = lastDigits 6 n :=
    toList_padded (by decide) (by omega)
  obtain ⟨hhour, hminute, hsecond, hmicro⟩ := Parts.small_ofMicros h
  unfold Parts.ofMicros at hhour hminute hsecond hmicro
  unfold Moment.clockText Parts.chars Parts.ofMicros
  dsimp only at *
  split_ifs <;> simp [htwo, hsix, hminute, hsecond, hmicro, Nat.lt_trans hhour (by decide : 24 < 60)]

/-- A written time is read part by part, whatever follows. -/
theorem clock?_chars {p : Parts} (h : p.Small) (always : Bool) {rest : List Char}
    (hrest : Stops rest) :
    clock? (p.chars always ++ rest) (p.chars always).length =
      some ⟨p.hour, p.minute, p.second, p.micro, !rest.isEmpty⟩ := by
  obtain ⟨hhour, hminute, hsecond, hmicro⟩ := h
  unfold clock? Parts.chars
  split_ifs with hfraction hseconds
  · simp only [List.length_append, List.length_cons, length_lastDigits, List.append_assoc,
      List.cons_append]
    rw [part_colon (by omega) (by decide) 2 (.inl rfl), part_colon (by omega) (by decide) 1 (.inr rfl)]
    exact part_point (by omega) (by omega) 0 _ hrest
  · have hnone : p.micro = 0 := by simpa using hfraction
    simp only [List.length_append, List.length_cons, length_lastDigits, List.append_assoc,
      List.cons_append]
    rw [part_colon (by omega) (by decide) 2 (.inl rfl), part_colon (by omega) (by decide) 1 (.inr rfl),
      part_last (by omega) (by decide), hnone]
    rfl
  · have hnone : p.micro = 0 := by simpa using hfraction
    have hwhole : p.second = 0 := by
      simp at hseconds
      exact hseconds.2
    simp only [List.length_append, List.length_cons, length_lastDigits, List.append_assoc,
      List.cons_append, List.append_nil]
    rw [part_colon (by omega) (by decide) 2 (.inl rfl), part_last (by omega) (by decide), hnone, hwhole]
    rfl

/-- A digit, or a mark inside a time of day. -/
def InClock (c : Char) : Prop := (digit? c).isSome = true ∨ c = ':' ∨ c = '.'

theorem Parts.inClock {p : Parts} {always : Bool} {c : Char} (h : c ∈ p.chars always) :
    InClock c := by
  have hdigits {width n : Nat} (hmem : c ∈ lastDigits width n) : InClock c :=
    .inl (isSome_digit?_of_mem hmem)
  unfold Parts.chars at h
  split_ifs at h <;> simp only [List.mem_append, List.mem_cons, List.not_mem_nil, or_false] at h
  · rcases h with h | rfl | h | rfl | h | rfl | h
    all_goals first | exact hdigits h | exact .inr (.inl rfl) | exact .inr (.inr rfl)
  · rcases h with h | rfl | h | rfl | h
    all_goals first | exact hdigits h | exact .inr (.inl rfl)
  · rcases h with h | rfl | h
    all_goals first | exact hdigits h | exact .inr (.inl rfl)

theorem InClock.utf8Size_eq {c : Char} (h : InClock c) : c.utf8Size = 1 := by
  rcases h with h | rfl | rfl
  · unfold digit? at h
    split_ifs at h with hrange
    · simp only [Bool.and_eq_true, decide_eq_true_eq] at hrange
      have hle : c.val ≤ 127 := UInt32.le_trans hrange.2 (by decide)
      exact Char.utf8Size_eq_one_iff.mpr hle
    · exact nomatch h
  · rfl
  · rfl

theorem bytes_chars (p : Parts) (always : Bool) :
    bytes (p.chars always) = (p.chars always).length := by
  have hsizes : (p.chars always).map Char.utf8Size = List.replicate (p.chars always).length 1 :=
    List.map_eq_replicate_iff.mpr fun c hc => (Parts.inClock hc).utf8Size_eq
  have hsum (n : Nat) : (List.replicate n 1).foldr (· + ·) 0 = n := by
    induction n with
    | zero => rfl
    | succ n ih => rw [List.replicate_succ, List.foldr_cons, ih, Nat.add_comm]
  unfold bytes
  rw [hsizes, hsum]

/-- The written offset. -/
def offsetChars (offset : Option Int) : List Char :=
  match offset with
  | none => []
  | some o => (if o < 0 then '-' else '+') :: (Parts.ofMicros o.natAbs).chars false

theorem offsetChars_some (o : Int) : offsetChars (some o) =
    (if o < 0 then '-' else '+') :: (Parts.ofMicros o.natAbs).chars false := rfl

theorem toList_offset {offset : Option Int} (h : ∀ o ∈ offset, ProperOffset o) :
    ((offset.map Moment.offsetText).getD "").toList = offsetChars offset := by
  cases offset with
  | none => rfl
  | some o =>
    have hclock := toList_clockText (h o rfl).near false
    show (Moment.offsetText o).toList = _
    rw [Moment.offsetText, offsetChars_some, String.toList_append, hclock]
    split_ifs <;> simp

theorem stops_offsetChars (offset : Option Int) : Stops (offsetChars offset) := by
  intro c hc
  cases offset with
  | none => exact nomatch hc
  | some o =>
    obtain rfl : (if o < 0 then '-' else '+') = c := Option.some.inj hc
    split_ifs <;> rfl

/-- A written time is read with the offset behind it. -/
theorem time?_chars {p : Parts} (h : p.Small) {offset : Option Int}
    (ho : ∀ o ∈ offset, ProperOffset o) :
    time? (p.chars true ++ offsetChars offset) =
      some (⟨p.hour, p.minute, p.second, p.micro, !(offsetChars offset).isEmpty⟩, offset) := by
  have hbefore : (p.chars true ++ offsetChars offset).takeWhile
      (fun c => c ≠ '+' && c ≠ '-' && c ≠ 'Z') = p.chars true := by
    have hinside : ∀ c ∈ p.chars true, (c ≠ '+' && c ≠ '-' && c ≠ 'Z') = true := by
      intro c hc
      rcases Parts.inClock hc with hdigit | rfl | rfl
      · have hplus : c ≠ '+' := ne_of_digit? hdigit rfl
        have hminus : c ≠ '-' := ne_of_digit? hdigit rfl
        have hzulu : c ≠ 'Z' := ne_of_digit? hdigit rfl
        simp [hplus, hminus, hzulu]
      · rfl
      · rfl
    rw [List.takeWhile_append_of_pos hinside]
    cases offset with
    | none => simp [offsetChars]
    | some o =>
      rw [offsetChars_some]
      split_ifs <;> simp
  unfold time?
  dsimp only
  rw [hbefore, bytes_chars, clock?_chars h true (stops_offsetChars offset), List.drop_left]
  cases offset with
  | none => rfl
  | some o =>
    obtain ⟨hnear, hwhole⟩ := ho o rfl
    have hsmall := Parts.small_ofMicros hnear
    have hend : Stops [] := fun _ h => nomatch h
    have hzone := clock?_chars hsmall false hend
    rw [List.append_nil] at hzone
    have hmicros : (if ((Parts.ofMicros o.natAbs).hour * 3600 + (Parts.ofMicros o.natAbs).minute * 60
        + (Parts.ofMicros o.natAbs).second : Int) = 0 then 0
        else ((Parts.ofMicros o.natAbs).hour * 3600 + (Parts.ofMicros o.natAbs).minute * 60
        + (Parts.ofMicros o.natAbs).second : Int) * secondMicros + (Parts.ofMicros o.natAbs).micro) =
        o.natAbs := by
      unfold Parts.ofMicros secondMicros
      dsimp only
      split_ifs <;> omega
    rw [offsetChars_some]
    by_cases hneg : o < 0
    · rw [if_pos hneg]
      simp [bytes_chars, hzone, hmicros, abs_of_neg hneg]
    · rw [if_neg hneg]
      simp [bytes_chars, hzone, hmicros, abs_of_nonneg (Int.not_lt.mp hneg)]

end Clock

/-! ### Dates -/

section Date

/-- The written date. -/
def dateChars (date : Date) : List Char :=
  lastDigits 4 date.year ++ '-' :: (lastDigits 2 date.month ++ '-' :: lastDigits 2 date.day)

theorem Date.Valid.small {date : Date} (h : date.Valid) :
    date.year < 10 ^ 4 ∧ date.month < 10 ^ 2 ∧ date.day < 10 ^ 2 := by
  obtain ⟨⟨-, hyear⟩, ⟨-, hmonth⟩, -, hday⟩ := h
  have hlength : monthDays date.year date.month ≤ 31 := by
    unfold monthDays
    split
    · split_ifs <;> omega
    all_goals omega
  omega

theorem length_dateChars (date : Date) : (dateChars date).length = 10 := by
  simp [dateChars, length_lastDigits]

/-- The fifth character of a written date tells that it has hyphens, and the sixth that it is one
of a month. -/
theorem dateWidth?_dateChars (date : Date) (rest : List Char) :
    dateWidth? (dateChars date ++ rest) = some 10 := by
  obtain ⟨year, month, day⟩ := date
  have hmonth : Nat.digitChar (month / 10 % 10) ≠ 'W' :=
    ne_of_digit? (by rw [digit?_digitChar (by omega)]; rfl) rfl
  unfold dateWidth? dateChars
  simp [lastDigits, hmonth]

/-- A written date is read as year, month and day. -/
theorem date?_dateChars {date : Date} (h : date.Valid) (rest : List Char) :
    date? (dateChars date ++ rest) 10 = some (date.year, date.month, date.day) := by
  obtain ⟨hyear, hmonth, hday⟩ := h.small
  have hfirst : Nat.digitChar (date.month / 10 % 10) ≠ 'W' :=
    ne_of_digit? (by rw [digit?_digitChar (by omega)]; rfl) rfl
  have hmonths (more : List Char) : lastDigits 2 date.month ++ more =
      Nat.digitChar (date.month / 10 % 10) :: Nat.digitChar (date.month % 10) :: more := rfl
  have hread := digits?_lastDigits hmonth ('-' :: (lastDigits 2 date.day ++ rest))
  unfold date? dateChars
  simp only [List.append_assoc, List.cons_append]
  rw [digits?_lastDigits hyear]
  simp only [Option.bind_eq_bind, Option.bind_some, List.head?_cons, if_true, List.drop_one,
    List.tail_cons]
  split
  · rename_i heq
    rw [hmonths] at heq
    exact absurd (List.cons.inj heq).1 hfirst
  · simp [hread, digits?_lastDigits hday]

end Date

/-! ### Moments -/

/-- The moment of a date and a time of day. -/
def momentOf (date : Date) (p : Parts) (offset : Option Int) : Moment where
  civil := (date.toDays : Int) * dayMicros +
    ((p.hour : Int) * 3600 + p.minute * 60 + p.second) * secondMicros + p.micro
  offset := offset

/-- A date of the calendar, a time of day and an offset below a day pass all checks. -/
theorem checked_eq {date : Date} (hdate : date.Valid) {p : Parts} (hp : p.Small)
    {offset : Option Int} (ho : ∀ o ∈ offset, o.natAbs < 86400000000) (more : Bool) :
    checked (date.year, date.month, date.day) ⟨p.hour, p.minute, p.second, p.micro, more⟩ offset =
      .ok (momentOf date p offset) := by
  obtain ⟨hyear, hmonth, hday⟩ := hdate
  obtain ⟨hhour, hminute, hsecond, -⟩ := hp
  have hgo (reject : String → Except Fault Moment) :
      checked.go ⟨p.hour, p.minute, p.second, p.micro, more⟩ offset date.year date.month date.day
        reject = .ok (momentOf date p offset) := by
    unfold checked.go
    dsimp only
    rw [if_neg (by simp; omega), if_neg (by simp; omega), if_neg (by simp; omega),
      if_neg (by omega), if_neg (by omega), if_neg (by omega)]
    rfl
  unfold checked
  dsimp only
  cases offset with
  | none => exact hgo _
  | some o =>
    have hnear := ho o rfl
    have hlimit : dayMicros = 86400000000 := rfl
    dsimp only
    rw [if_neg (by rw [hlimit]; simp only [Bool.or_eq_true, decide_eq_true_eq]; omega)]
    exact hgo _

namespace Moment

def date (m : Moment) : Date := Date.ofDays (m.civil / dayMicros).toNat

def parts (m : Moment) : Parts := Parts.ofMicros (m.civil % dayMicros).toNat

variable {m : Moment}

theorem Proper.valid_date (h : m.Proper) : m.date.Valid := by
  obtain ⟨hfirst, hlast⟩ := h.dated
  refine Date.valid_ofDays ?_
  unfold endOfTime at hlast
  unfold dayMicros secondMicros at *
  omega

theorem time_lt (m : Moment) : (m.civil % dayMicros).toNat < 86400000000 := by
  unfold dayMicros secondMicros
  omega

theorem Proper.momentOf_eq (h : m.Proper) : momentOf m.date m.parts m.offset = m := by
  have hfirst := h.dated.1
  obtain ⟨civil, offset⟩ := m
  unfold momentOf date parts Parts.ofMicros
  rw [Date.toDays_ofDays]
  simp only [mk.injEq, and_true]
  unfold dayMicros secondMicros
  dsimp only at hfirst ⊢
  omega

theorem Proper.toList_iso (h : m.Proper) : m.iso.toList =
    dateChars m.date ++ 'T' :: (m.parts.chars true ++ offsetChars m.offset) := by
  obtain ⟨hyear, hmonth, hday⟩ := h.valid_date.small
  have htwo {n : Nat} (hn : n < 10 ^ 2) : (Moment.two n).toList = lastDigits 2 n :=
    toList_padded (by decide) hn
  have hiso : m.iso = Decimal.padded 4 m.date.year ++ "-" ++ two m.date.month ++ "-" ++
      two m.date.day ++ "T" ++ clockText (m.civil % dayMicros).toNat true ++
      (m.offset.map offsetText).getD "" := rfl
  rw [hiso]
  simp only [String.toList_append, toList_clockText m.time_lt, toList_offset h.offset,
    toList_padded (by decide) hyear, htwo hmonth, htwo hday]
  simp [dateChars, parts]

end Moment

/-- **What is written of a moment is read as that moment.** -/
theorem readMoment_iso {m : Moment} (h : m.Proper) : readMoment m.iso = .ok m := by
  have hdate := h.valid_date
  have hparts : m.parts.Small := Parts.small_ofMicros m.time_lt
  have hlength : 10 < m.iso.toList.length := by
    rw [h.toList_iso, List.length_append, length_dateChars, List.length_cons]
    omega
  have hdrop : m.iso.toList.drop (10 + 1) = m.parts.chars true ++ offsetChars m.offset := by
    rw [h.toList_iso, ← List.drop_drop, ← length_dateChars m.date, List.drop_left]
    rfl
  have hwidth : dateWidth? m.iso.toList = some 10 := by
    rw [h.toList_iso, dateWidth?_dateChars]
  have hread : date? m.iso.toList 10 = some (m.date.year, m.date.month, m.date.day) := by
    rw [h.toList_iso, date?_dateChars hdate]
  have hchecked := checked_eq hdate hparts (fun o ho => (h.offset o ho).near)
    (!(offsetChars m.offset).isEmpty)
  rw [h.momentOf_eq] at hchecked
  unfold readMoment
  dsimp only
  rw [if_neg (by omega), hwidth]
  simp only [Option.bind_eq_bind, Option.bind_some, hread, hdrop, time?_chars hparts h.offset]
  rw [if_neg (by omega)]
  exact hchecked

/-! ### What is read -/

section Read

theorem digit?_lt {c : Char} {d : Nat} (h : digit? c = some d) : d < 10 := by
  unfold digit? at h
  split_ifs at h with hrange
  simp only [Bool.and_eq_true, decide_eq_true_eq] at hrange
  have hle : c.toNat ≤ '9'.toNat := hrange.2
  have hd : c.toNat - '0'.toNat = d := Option.some.inj h
  have hnine : '9'.toNat = 57 := rfl
  have hzero : '0'.toNat = 48 := rfl
  omega

theorem digits?_go_lt {width before n : Nat} {cs rest : List Char}
    (h : digits?.go width before cs = some (n, rest)) : n < (before + 1) * 10 ^ width := by
  induction width generalizing before cs with
  | zero =>
    obtain ⟨rfl, -⟩ := Prod.mk.inj (Option.some.inj h)
    simp
  | succ width ih =>
    cases cs with
    | nil => exact nomatch h
    | cons c more =>
      obtain ⟨d, hd, h⟩ := Option.bind_eq_some_iff.mp h
      have hlt := ih h
      have hdigit := digit?_lt hd
      have hle : (before * 10 + d + 1) * 10 ^ width ≤ (before + 1) * 10 * 10 ^ width :=
        Nat.mul_le_mul_right _ (by omega)
      rw [Nat.pow_succ, Nat.mul_comm (10 ^ width) 10, ← Nat.mul_assoc]
      omega

/-- A fraction has six digits. -/
theorem fraction?_lt {cs rest : List Char} {room n : Nat} (h : fraction? cs room = some (n, rest)) :
    n < 1000000 := by
  obtain ⟨⟨k, more⟩, hk, h⟩ := Option.bind_eq_some_iff.mp h
  obtain ⟨hn, -⟩ := Prod.mk.inj (Option.some.inj h)
  have hlt : k < (0 + 1) * 10 ^ min room 6 := digits?_go_lt hk
  rw [← hn]
  obtain ⟨width, hwidth⟩ : ∃ width, width = min room 6 := ⟨_, rfl⟩
  rw [← hwidth] at hlt ⊢
  have hsix : width ≤ 6 := by omega
  interval_cases width <;> simp at hlt ⊢ <;> omega

theorem clock?_part_micro {count room : Nat} {parts : List Nat} {colons : Bool} {cs : List Char}
    {t : TimeOfDay} (h : clock?.part count parts colons cs room = some t) : t.micro < 1000000 := by
  have hfinish {parts : List Nat} {cs : List Char} {room : Nat}
      (h : clock?.finish parts cs room = some t) : t.micro < 1000000 := by
    obtain ⟨⟨micro, rest⟩, hfraction, h⟩ := Option.bind_eq_some_iff.mp h
    rw [← Option.some.inj h]
    exact fraction?_lt hfraction
  induction count generalizing parts colons cs room with
  | zero => exact hfinish h
  | succ count ih =>
    obtain ⟨⟨n, rest⟩, -, h⟩ := Option.bind_eq_some_iff.mp h
    dsimp only at h
    split_ifs at h
    all_goals first
      | exact ih h
      | exact hfinish h
      | (rw [← Option.some.inj h]; exact Nat.zero_lt_succ _)

/-- A time that is read has an offset that text tells from none, if it is below a day. -/
theorem time?_spec {cs : List Char} {t : TimeOfDay} {offset : Option Int}
    (h : time? cs = some (t, offset)) :
    t.micro < 1000000 ∧ ∀ o ∈ offset, o ≠ 0 → 1000000 ≤ o.natAbs := by
  obtain ⟨clock, hclock, h⟩ := Option.bind_eq_some_iff.mp h
  have hmicro : clock.micro < 1000000 := clock?_part_micro hclock
  dsimp only at h
  split at h
  · split_ifs at h
    obtain ⟨rfl, rfl⟩ := Prod.mk.inj (Option.some.inj h)
    exact ⟨hmicro, fun _ h => nomatch h⟩
  · split_ifs at h
    obtain ⟨rfl, rfl⟩ := Prod.mk.inj (Option.some.inj h)
    exact ⟨hmicro, fun o ho hne => absurd (Option.some.inj ho).symm hne⟩
  · obtain ⟨zone, -, h⟩ := Option.bind_eq_some_iff.mp h
    split_ifs at h
    all_goals
      obtain ⟨rfl, rfl⟩ := Prod.mk.inj (Option.some.inj h)
      refine ⟨hmicro, fun o ho hne => ?_⟩
      have ho := (Option.some.inj ho).symm
      unfold secondMicros at ho
      omega

theorem proper_of_go {year month day : Nat} {clock : TimeOfDay} {offset : Option Int} {m : Moment}
    (h : checked.go clock offset year month day (fun wording => .error (.badCalendar wording)) =
      .ok m) (hmicro : clock.micro < 1000000) (ho : ∀ o ∈ offset, ProperOffset o) : m.Proper := by
  unfold checked.go at h
  split_ifs at h with hyear hmonth hday hhour hminute hsecond
  simp only [Bool.or_eq_true, decide_eq_true_eq, not_or, Nat.not_lt] at hyear hmonth hday
  have hvalid : (Date.mk year month day).Valid := ⟨hyear, hmonth, hday⟩
  have hlt := Date.toDays_lt hvalid
  rw [← Except.ok.inj h]
  refine ⟨?_, ho⟩
  unfold endOfTime dayMicros secondMicros
  dsimp only
  omega

/-- What passes the checks is a date of the calendar, a time of day and an offset below a day. -/
theorem proper_of_checked {date : Nat × Nat × Nat} {clock : TimeOfDay} {offset : Option Int}
    {m : Moment} (h : checked date clock offset = .ok m) (hmicro : clock.micro < 1000000)
    (hwhole : ∀ o ∈ offset, o ≠ 0 → 1000000 ≤ o.natAbs) : m.Proper := by
  unfold checked at h
  cases offset with
  | none => exact proper_of_go h hmicro fun _ h => nomatch h
  | some o =>
    dsimp only at h
    split_ifs at h with hfar
    refine proper_of_go h hmicro fun o' ho' => ?_
    obtain rfl : o = o' := Option.some.inj ho'
    have hlimit : dayMicros = 86400000000 := rfl
    simp only [hlimit, Bool.or_eq_true, decide_eq_true_eq, not_or] at hfar
    exact ⟨by omega, hwhole o rfl⟩

/-- **Every moment that is read is proper.** -/
theorem proper_of_readMoment {shown : String} {m : Moment} (h : readMoment shown = .ok m) :
    m.Proper := by
  unfold readMoment at h
  dsimp only at h
  split_ifs at h
  split at h
  · rename_i date clock offset hread
    obtain ⟨width, -, hread⟩ := Option.bind_eq_some_iff.mp hread
    obtain ⟨date', -, hread⟩ := Option.bind_eq_some_iff.mp hread
    split_ifs at hread
    · obtain ⟨-, hclock⟩ := Prod.mk.inj (Option.some.inj hread)
      obtain ⟨rfl, rfl⟩ := Prod.mk.inj hclock
      exact proper_of_checked h (by decide) fun _ h => nomatch h
    · obtain ⟨⟨t, o⟩, htime, hread⟩ := Option.bind_eq_some_iff.mp hread
      obtain ⟨-, hclock⟩ := Prod.mk.inj (Option.some.inj hread)
      obtain ⟨rfl, rfl⟩ := Prod.mk.inj hclock
      obtain ⟨hmicro, hwhole⟩ := time?_spec htime
      exact proper_of_checked h hmicro hwhole
  · exact nomatch h

end Read

end Parley.Time
