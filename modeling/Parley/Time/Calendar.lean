/-!
# Parley.Time.Calendar — days of the Gregorian calendar

Days are counted from the first of January of year one, which is day `0`.
-/

namespace Parley.Time

/-- A calendar date. -/
structure Date where
  year : Nat
  month : Nat
  day : Nat
  deriving DecidableEq, Repr

def isLeap (year : Nat) : Bool := year % 4 = 0 && (year % 100 ≠ 0 || year % 400 = 0)

def monthDays (year month : Nat) : Nat :=
  match month with
  | 2 => if isLeap year then 29 else 28
  | 4 | 6 | 9 | 11 => 30
  | _ => 31

/-- Days before the first of January of a year. -/
def daysBeforeYear (year : Nat) : Nat :=
  let y := year - 1
  y * 365 + y / 4 - y / 100 + y / 400

/-- Days of a year before the first of a month. -/
def daysBeforeMonth (year month : Nat) : Nat :=
  ((List.range (month - 1)).map fun m => monthDays year (m + 1)).foldr (· + ·) 0

def Date.toDays (d : Date) : Nat :=
  daysBeforeYear d.year + daysBeforeMonth d.year d.month + (d.day - 1)

/-- Month and day of the `n`-th day of a year, counted from zero. -/
def monthOf (year : Nat) : Nat → Nat → Nat → Nat × Nat
  | 0, month, n => (month, n + 1)
  | fuel + 1, month, n =>
    if n < monthDays year month then (month, n + 1)
    else monthOf year fuel (month + 1) (n - monthDays year month)

/-- The date of a day: four hundred years have `146097` days, four years `1461`. -/
def Date.ofDays (n : Nat) : Date :=
  let cycle := n / 146097
  let inCycle := n % 146097
  let century := min 3 (inCycle / 36524)
  let inCentury := inCycle - century * 36524
  let quad := inCentury / 1461
  let inQuad := inCentury % 1461
  let yearInQuad := min 3 (inQuad / 365)
  let year := cycle * 400 + century * 100 + quad * 4 + yearInQuad + 1
  let (month, day) := monthOf year 11 1 (inQuad - yearInQuad * 365)
  ⟨year, month, day⟩

/-- The day of the week, Monday being `1`. -/
def weekday (n : Nat) : Nat := n % 7 + 1

/-- The Monday of the first week of a year: the week that holds its first Thursday. -/
def firstMonday (year : Nat) : Int :=
  let first : Int := daysBeforeYear year
  let day : Int := weekday (daysBeforeYear year)
  if day ≤ 4 then first - (day - 1) else first + (8 - day)

/-- A year has a fifty-third week if it starts on a Thursday, or on a Wednesday and is leap. -/
def hasLongYear (year : Nat) : Bool :=
  let day := weekday (daysBeforeYear year)
  day = 4 || (day = 3 && isLeap year)

/-- The day of a week date; the weeks of the year zero end before the first day. -/
def dayOfWeekDate? (year week day : Nat) : Option Int :=
  if 9999 < year then none
  else if week < 1 || 53 < week || (week = 53 && (year = 0 || !hasLongYear year)) then none
  else if day < 1 || 7 < day then none
  else
    let monday := if year = 0 then firstMonday 1 - 364 else firstMonday year
    some (monday + (week - 1) * 7 + (day - 1))

end Parley.Time
