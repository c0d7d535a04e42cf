import Parley.Number

/-!
# Parley.Scalar — what scores and rates are computed with

Formulas for scores, rates and confidences are written once, for any kind of scalar.  The service
computes with `Number`; exact kinds of numbers obey the laws of arithmetic.
-/

namespace Parley

/-- Arithmetic and order for rates. -/
class Scalar (α : Type) extends Add α, Sub α, Mul α, Div α where
  /-- What sums start from. -/
  nothing : α
  /-- The lowest and the highest rate. -/
  low : α
  high : α
  hundredths : Nat → α
  less : α → α → Bool
  atMost : α → α → Bool

namespace Scalar

variable {α : Type} [Scalar α]

/-- The first of the two greatest. -/
def largest (a b : α) : α := if less a b then b else a
/-- The first of the two least. -/
def smallest (a b : α) : α := if less b a then b else a

/-- A value brought between the lowest and the highest rate. -/
def clip (a : α) : α := largest low (smallest high a)

def total (values : List α) : α := values.foldl (· + ·) nothing

/-- The mean of values with weights, brought to a rate; the lowest rate if there is no weight. -/
def weightedRate (terms : List (α × α)) : α :=
  let weight := total (terms.map Prod.fst)
  if atMost weight nothing then low
  else clip (total (terms.map fun t => t.1 * t.2) / weight)

end Scalar

instance : Scalar Number where
  nothing := .int 0
  low := .real 0
  high := .real 1
  hundredths n := .real (Number.quotient (.int n) (.int 100))
  less := Number.less
  atMost := Number.atMost

end Parley
