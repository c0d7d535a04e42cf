import Parley.Time.Reader
import Parley.Value.RealText

/-!
# Parley.Time.Stamp — moments as clients of the service write them

A stamp is a calendar date, alone or with a time of day, or a count of seconds since 1970.  Counts
too large for seconds are thousandths of seconds.
-/

namespace Parley.Time

/-- A date with hyphens, checked against the calendar, as days. -/
def stampDate? (cs : List Char) : Option (Int × List Char) := do
  let (year, cs) ← digits? 4 cs
  let ('-' :: cs) := cs | none
  let (month, cs) ← digits? 2 cs
  let ('-' :: cs) := cs | none
  let (day, cs) ← digits? 2 cs
  if year < 1 || month < 1 || 12 < month || day < 1 || monthDays year month < day then none
  else some (((Date.mk year month day).toDays : Int), cs)

/-- Digits behind a point: six count, further digits are skipped. -/
def stampFraction? (cs : List Char) : Option (Nat × List Char) :=
  let run := cs.takeWhile fun c => (digit? c).isSome
  if run.isEmpty then none
  else
    let kept := run.take 6
    (digits? kept.length kept).map fun (n, _) =>
      (n * Nat.pow 10 (6 - kept.length), cs.drop run.length)

/-- Seconds and a fraction, which may be missing, in microseconds. -/
def stampSeconds? (cs : List Char) : Option (Nat × List Char) := do
  match cs with
  | ':' :: cs =>
    let (second, cs) ← digits? 2 cs
    if 59 < second then none
    match cs with
    | '.' :: cs | ',' :: cs =>
      let (micro, cs) ← stampFraction? cs
      some (second * 1000000 + micro, cs)
    | cs => some (second * 1000000, cs)
  | cs => some (0, cs)

/-- A time of day in microseconds. -/
def stampClock? (cs : List Char) : Option (Nat × List Char) := do
  let (hour, cs) ← digits? 2 cs
  let (':' :: cs) := cs | none
  let (minute, cs) ← digits? 2 cs
  if 23 < hour || 59 < minute then none
  let (micros, cs) ← stampSeconds? cs
  some ((hour * 60 + minute) * 60000000 + micros, cs)

/-- An offset of hours and minutes up to the end of the text. -/
def stampOffset? (negative : Bool) (cs : List Char) : Option Int := do
  let (hour, cs) ← digits? 2 cs
  let (minute, cs) ← digits? 2 (if cs.head? = some ':' then cs.drop 1 else cs)
  if !cs.isEmpty || 23 < hour || 59 < minute then none
  let micros : Int := ((hour * 60 + minute) * 60000000 : Nat)
  some (if negative then -micros else micros)

def stampZone? : List Char → Option (Option Int)
  | [] => some none
  | ['Z'] | ['z'] => some (some 0)
  | '+' :: cs => (stampOffset? false cs).map some
  | '-' :: cs => (stampOffset? true cs).map some
  | _ => none

def isStampSeparator (c : Char) : Bool := c = 'T' || c = 't' || c = ' ' || c = '_'

/-- The first moment of 1970, in microseconds from the start of the calendar. -/
def unixStart : Int := ((Date.mk 1970 1 1).toDays : Int) * dayMicros

/-- Counts beyond this are thousandths of seconds. -/
def secondsBound : Nat := 20000000000

/-- The moment of a count of seconds or of thousandths. -/
def stampOfCount? (count : Int) : Option Moment :=
  let micros := if count.natAbs ≤ secondsBound then count * secondMicros else count * 1000
  let civil := unixStart + micros
  if dayMicros * 366 ≤ civil && civil < endOfTime then some (Moment.universal civil) else none

/-- The moment that a stamp denotes. -/
def readStamp? (text : String) : Option Moment :=
  let cs := text.toList
  match stampDate? cs with
  | some (days, []) => some ⟨days * dayMicros, none⟩
  | some (days, c :: rest) => do
    if !(isStampSeparator c) then none
    let (micros, rest) ← stampClock? rest
    let zone ← stampZone? rest
    some ⟨days * dayMicros + micros, zone⟩
  | none =>
    if cs.all (·.toNat < 128) && !(cs.contains '_') then (Numeral.whole? cs).bind stampOfCount?
    else none

end Parley.Time
