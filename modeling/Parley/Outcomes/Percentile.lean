import Parley.Fault

/-!
# Parley.Outcomes.Percentile — the value at a rank

A percentile is always one of the values: the one at the nearest rank, ties between ranks going to
the even one.
-/

namespace Parley.Outcomes

/-- The values in ascending order, equal ones in the order given. -/
def ascending (values : List Number) : List Number := values.mergeSort fun a b => !(b.less a)

/-- The rank of a percentage among `count` values, which may lie outside them. -/
def nearestRank (pct : Number) (count : Nat) : Except Fault Int :=
  let x := (Number.quotient pct 100) * Decimal.floatOfInt count
  match Decimal.roundInt? x with
  | some rank => .ok rank
  | none =>
    if x == x then .error (.tooLarge "cannot convert float infinity to integer")
    else .error (.badValue "cannot convert float NaN to integer")

/-- The value at a rank that counts from one, the first or the last for ranks outside. -/
def atRank (ordered : List Number) (rank : Int) : Number :=
  let index := max 0 (min ((ordered.length : Int) - 1) (rank - 1))
  ordered.getD index.toNat (.real 0)

/-- The value at a percentage of the ordered values; zero if there are none. -/
def percentile (values : List Number) (pct : Number) : Except Fault Number :=
  if values.isEmpty then .ok (.real 0)
  else (nearestRank pct values.length).map (atRank (ascending values))

end Parley.Outcomes
