import Parley.Decimal.Binary64

/-!
# Parley.Decimal.Shortest — the fewest digits that read back

For a positive finite double the reals that round to it form an interval.  `shortest` looks, for
one, two, … seventeen digits, at the two neighbours of the value on that decimal grid; the first
grid with a neighbour in the interval wins, and of two neighbours the nearer one.
-/

namespace Parley.Decimal

/-- The decimal number `digits · 10 ^ exponent`. -/
structure Scientific where
  digits : Nat
  exponent : Int
  deriving DecidableEq, Repr

/-- The interval of reals that round to a positive double, in units of `1 / unit`:
the ends belong to it iff `closed`. -/
structure Interval where
  low : Nat
  value : Nat
  high : Nat
  unit : Nat
  closed : Bool

/-- Half a step down and half a step up; the step down from a power of two is half as wide. -/
def Binary64.interval (b : Binary64) : Interval :=
  let scale := twoPower (b.exponent - 2)
  let down := if b.significand = Nat.pow 2 52 ∧ -1074 < b.exponent then 1 else 2
  { low := (4 * b.significand - down) * scale.1
    value := 4 * b.significand * scale.1
    high := (4 * b.significand + 2) * scale.1
    unit := scale.2
    closed := b.significand % 2 = 0 }

/-- The decimal `n · 10 ^ e` lies in the interval. -/
def Interval.holds (i : Interval) (n : Nat) (e : Int) : Bool :=
  let scale := tenPower e
  let point := n * scale.1 * i.unit
  if i.closed then i.low * scale.2 ≤ point ∧ point ≤ i.high * scale.2
  else i.low * scale.2 < point ∧ point < i.high * scale.2

/-- The least `e` with `value < 10 ^ e`. -/
def Interval.magnitude (i : Interval) : Int :=
  let guess : Int := ((i.value.log2 : Int) - i.unit.log2) * 30103 / 100000
  let below (e : Int) : Bool := i.value * (tenPower e).2 < (tenPower e).1 * i.unit
  (([-1, 0, 1, 2] : List Int).map (guess + ·)).find? below |>.getD (guess + 2)

/-- The neighbour of the value on the grid of step `10 ^ e` that lies in the interval, if any. -/
def Interval.onGrid? (i : Interval) (e : Int) : Option Scientific :=
  let scale := tenPower e
  let num := i.value * scale.2
  let den := i.unit * scale.1
  let below := num / den
  let above := below + 1
  let nearer := if roundDiv num den = below then below else above
  let farther := if nearer = below then above else below
  if i.holds nearer e then some ⟨nearer, e⟩
  else if i.holds farther e then some ⟨farther, e⟩
  else none

/-- Trailing zeros of the digits move into the exponent. -/
def Scientific.trim (d : Scientific) : Scientific :=
  go (d.digits.log2 + 1) d
where
  go : Nat → Scientific → Scientific
    | 0, d => d
    | fuel + 1, d =>
      if d.digits ≠ 0 ∧ d.digits % 10 = 0 then go fuel ⟨d.digits / 10, d.exponent + 1⟩ else d

/-- The fewest digits that read back as the positive double `b`. -/
def shortest (b : Binary64) : Scientific :=
  let i := b.interval
  let magnitude := i.magnitude
  let hit := (List.range 17).findSome? fun (k : Nat) => i.onGrid? (magnitude - 1 - (k : Nat))
  (hit.getD ⟨i.value / i.unit, 0⟩).trim

end Parley.Decimal
