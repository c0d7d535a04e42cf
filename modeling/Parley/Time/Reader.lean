import Parley.Time.Moment

/-!
# Parley.Time.Reader — moments from text

Accepted are calendar dates and week dates, with or without hyphens, followed by any one separator
and a time with or without colons, a fraction behind a point or a comma, and an offset or `Z`.
-/

namespace Parley.Time

def digit? (c : Char) : Option Nat :=
  if '0' ≤ c && c ≤ '9' then some (c.toNat - '0'.toNat) else none

/-- Exactly `count` digits at the front. -/
def digits? : Nat → List Char → Option (Nat × List Char)
  | count, cs => go count 0 cs
where
  go : Nat → Nat → List Char → Option (Nat × List Char)
    | 0, n, cs => some (n, cs)
    | _ + 1, _, [] => none
    | count + 1, n, c :: cs => do go count (n * 10 + (← digit? c)) cs

/-- Where the date ends, told by the fourth, fifth and eighth characters. -/
def dateWidth? (cs : List Char) : Option Nat :=
  let length := cs.length
  let charAt (i : Nat) : Char := cs.getD i '\x00'
  if length = 7 then some 7
  else if charAt 4 = '-' then
    if charAt 5 = 'W' then
      if 8 < length && charAt 8 = '-' then
        if length = 9 then none
        else if 10 < length && (digit? (charAt 10)).isSome then some 8
        else some 10
      else some 8
    else some 10
  else if charAt 4 = 'W' then
    let run := 7 + ((cs.drop 7).takeWhile fun c => (digit? c).isSome).length
    if run < 9 then some run else if run % 2 = 0 then some 7 else some 8
  else some 8

/-- A date as year, month and day, not yet checked against the calendar.  A week date before the
first day of the calendar has no month. -/
def date? (cs : List Char) (width : Nat) : Option (Nat × Nat × Nat) := do
  let (year, rest) ← digits? 4 cs
  let hyphens := rest.head? = some '-'
  let rest := if hyphens then rest.drop 1 else rest
  let joint (cs : List Char) : Option (List Char) :=
    if hyphens then (if cs.head? = some '-' then some (cs.drop 1) else none) else some cs
  match rest with
  | 'W' :: rest =>
    let (week, rest) ← digits? 2 rest
    let (day, _) ← if cs.length - rest.length < width then (joint rest).bind (digits? 1)
      else some (1, rest)
    let n ← dayOfWeekDate? year week day
    if n < 0 then some (1, 0, 0)
    else
      let date := Date.ofDays n.toNat
      some (date.year, date.month, date.day)
  | rest =>
    let (month, rest) ← digits? 2 rest
    let (day, _) ← (joint rest).bind (digits? 2)
    some (year, month, day)

/-- A time of day in parts, and whether text is left behind it. -/
structure TimeOfDay where
  hour : Nat
  minute : Nat
  second : Nat
  micro : Nat
  more : Bool

/-- The fraction behind the mark: six digits count, further digits are skipped. -/
def fraction? (cs : List Char) (room : Nat) : Option (Nat × List Char) := do
  let width := min room 6
  let (n, rest) ← digits? width cs
  let scale := if width = 0 then 1 else Nat.pow 10 (6 - width)
  some (n * scale, rest.dropWhile fun c => (digit? c).isSome)

/-- Hours, minutes, seconds and a fraction from the first `room` bytes; what follows them still
tells whether the time ends there. -/
def clock? (cs : List Char) (room : Nat) : Option TimeOfDay :=
  part 3 [] true cs room
where
  close (parts : List Nat) (micro : Nat) (more : Bool) : TimeOfDay :=
    let item (i : Nat) : Nat := parts.reverse.getD i 0
    ⟨item 0, item 1, item 2, micro, more⟩
  finish (parts : List Nat) (cs : List Char) (room : Nat) : Option TimeOfDay := do
    let (micro, rest) ← fraction? cs room
    some (close parts micro (!rest.isEmpty))
  part : Nat → List Nat → Bool → List Char → Nat → Option TimeOfDay
    | 0, parts, _, cs, room => finish parts cs room
    | count + 1, parts, colons, cs, room => do
      let (n, rest) ← digits? 2 cs
      let parts := n :: parts
      let colons := if parts.length = 1 then rest.head? = some ':' else colons
      if room ≤ 3 then
        some (close parts 0 (!rest.isEmpty))
      else if colons && rest.head? = some ':' then part count parts colons (rest.drop 1) (room - 3)
      else if rest.head? = some '.' || rest.head? = some ',' then
        finish parts (rest.drop 1) (room - 3)
      else if !colons then part count parts colons rest (room - 2)
      else none

/-- The size of a text in bytes. -/
def bytes (cs : List Char) : Nat := (cs.map Char.utf8Size).foldr (· + ·) 0

/-- A time with an optional offset in microseconds.  An offset below a second is none. -/
def time? (cs : List Char) : Option (TimeOfDay × Option Int) := do
  let before := cs.takeWhile fun c => c ≠ '+' && c ≠ '-' && c ≠ 'Z'
  let clock ← clock? cs (bytes before)
  match cs.drop before.length with
  | [] => if clock.more then none else some (clock, none)
  | 'Z' :: rest => if rest.isEmpty then some (clock, some 0) else none
  | sign :: rest =>
    let zone ← clock? rest (bytes rest)
    if zone.more then none
    else
      let seconds : Int := zone.hour * 3600 + zone.minute * 60 + zone.second
      let micros := if seconds = 0 then 0 else seconds * secondMicros + zone.micro
      some (clock, some (if sign = '-' then -micros else micros))

/-- The wording of a span: its whole days, seconds and microseconds that are not zero. -/
def spanText (micros : Int) : String :=
  let days := micros / dayMicros
  let rest := micros % dayMicros
  let parts := [("days", days), ("seconds", rest / secondMicros),
    ("microseconds", rest % secondMicros)].filter fun part => part.2 ≠ 0
  let shown := parts.map fun (name, n) => name ++ "=" ++ toString n
  "datetime.timedelta(" ++ (if shown.isEmpty then "0" else ", ".intercalate shown) ++ ")"

def checked (date : Nat × Nat × Nat) (clock : TimeOfDay) (offset : Option Int) :
    Except Fault Moment :=
  let (year, month, day) := date
  let reject (wording : String) : Except Fault Moment := .error (.badCalendar wording)
  match offset with
  | some o =>
    if o ≤ -dayMicros || dayMicros ≤ o then
      reject ("offset must be a timedelta strictly between -timedelta(hours=24) and "
        ++ "timedelta(hours=24), not " ++ spanText o ++ ".")
    else go year month day reject
  | none => go year month day reject
where
  go (year month day : Nat) (reject : String → Except Fault Moment) : Except Fault Moment :=
    if year < 1 || 9999 < year then reject ("year " ++ toString year ++ " is out of range")
    else if month < 1 || 12 < month then reject "month must be in 1..12"
    else if day < 1 || monthDays year month < day then reject "day is out of range for month"
    else if 23 < clock.hour then reject "hour must be in 0..23"
    else if 59 < clock.minute then reject "minute must be in 0..59"
    else if 59 < clock.second then reject "second must be in 0..59"
    else
      let days : Int := (Date.mk year month day).toDays
      let seconds : Int := clock.hour * 3600 + clock.minute * 60 + clock.second
      .ok ⟨days * dayMicros + seconds * secondMicros + clock.micro, offset⟩

/-- The moment that a text denotes. -/
def readMoment (text : String) : Except Fault Moment :=
  let cs := text.toList
  let bad : Except Fault Moment := .error (.badTime (Quoting.quote text))
  if cs.length < 7 then bad
  else
    let read : Option ((Nat × Nat × Nat) × TimeOfDay × Option Int) := do
      let width ← dateWidth? cs
      let date ← date? cs width
      if cs.length ≤ width then some (date, ⟨0, 0, 0, 0, false⟩, none)
      else
        let (clock, offset) ← time? (cs.drop (width + 1))
        some (date, clock, offset)
    match read with
    | some (date, clock, offset) => checked date clock offset
    | none => bad

end Parley.Time
