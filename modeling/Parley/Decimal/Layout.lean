import Parley.Decimal.Shortest

/-!
# Parley.Decimal.Layout — written forms of doubles

`Layout.render` writes a double with the fewest digits that read back, in the positional or the
exponent form that the layout asks for.  `fixed` writes a given number of places and `roundPlaces`
rounds to them; both round the exact binary value.
-/

namespace Parley.Decimal

/-- The decisions of a written form. -/
structure Layout where
  /-- The decimal point stands at least this many digits right of the first digit … -/
  leastPoint : Int
  /-- … and at most this many, in the positional form. -/
  mostPoint : Int
  /-- What follows a whole number. -/
  whole : String
  /-- Least number of digits of an exponent. -/
  exponentWidth : Nat
  infinity : String
  notANumber : String

/-- Positional from `0.0001` up to below `10 ^ 16`, else `1e+16`, `1e-07`; whole numbers end in
`.0`. -/
def Layout.plain : Layout := ⟨-3, 16, ".0", 2, "inf", "nan"⟩

/-- The plain layout with the names that JSON text has for what is not finite. -/
def Layout.json : Layout := { Layout.plain with infinity := "Infinity", notANumber := "NaN" }

def zeros (n : Nat) : String := String.ofList (List.replicate n '0')

/-- The digits of `n`, at least `width` of them. -/
def padded (width n : Nat) : String :=
  let digits := toString n
  zeros (width - digits.length) ++ digits

/-- The digits cut at position `at`, as text before and after. -/
def cut (digits : String) (position : Nat) : String × String :=
  (String.ofList (digits.toList.take position), String.ofList (digits.toList.drop position))

/-- A positive decimal in this layout. -/
def Layout.decimal (l : Layout) (d : Scientific) : String :=
  let digits := toString d.digits
  let point := (digits.length : Int) + d.exponent
  if l.leastPoint ≤ point ∧ point ≤ l.mostPoint then
    if point ≤ 0 then "0." ++ zeros (-point).toNat ++ digits
    else if digits.length ≤ point.toNat then digits ++ zeros (point.toNat - digits.length) ++ l.whole
    else
      let parts := cut digits point.toNat
      parts.1 ++ "." ++ parts.2
  else
    let parts := cut digits 1
    let exponent := point - 1
    let fraction := if parts.2.isEmpty then "" else "." ++ parts.2
    let sign := if exponent < 0 then "-" else "+"
    parts.1 ++ fraction ++ "e" ++ sign ++ padded l.exponentWidth exponent.natAbs

def signed (negative : Bool) (text : String) : String := if negative then "-" ++ text else text

/-- A double with the fewest digits that read back. -/
def Layout.render (l : Layout) (x : Float) : String :=
  match Float64.ofFloat x with
  | .notANumber => l.notANumber
  | .infinite negative => signed negative l.infinity
  | .finite b =>
    signed b.negative (if b.significand = 0 then "0" ++ l.whole else l.decimal (shortest b))

/-- The exact value of `b`, rounded to an integer count of `10 ^ -places`. -/
def Binary64.places (b : Binary64) (places : Nat) : Nat :=
  roundDiv (b.ratio.1 * Nat.pow 10 places) b.ratio.2

/-- A count of `10 ^ -places` written with that many places. -/
def pointed (places n : Nat) : String :=
  if places = 0 then toString n
  else
    let digits := padded (places + 1) n
    let parts := cut digits (digits.length - places)
    parts.1 ++ "." ++ parts.2

/-- A double with a fixed number of places; a tie of the exact value goes to the even digit. -/
def fixed (places : Nat) (x : Float) : String :=
  match Float64.ofFloat x with
  | .notANumber => "nan"
  | .infinite negative => signed negative "inf"
  | .finite b => signed b.negative (pointed places (b.places places))

/-- The double nearest to `x` rounded to a number of places. -/
def roundPlaces (places : Nat) (x : Float) : Float :=
  match Float64.ofFloat x with
  | .finite b => nearestFloat b.negative (b.places places) (Nat.pow 10 places)
  | _ => x

/-- The integer nearest to `x`, ties to even; `none` for what is not finite. -/
def roundInt? (x : Float) : Option Int :=
  match Float64.ofFloat x with
  | .finite b => some (if b.negative then -(b.places 0 : Int) else b.places 0)
  | _ => none

/-- The integer part of `x`, cut toward zero; `none` for what is not finite. -/
def truncInt? (x : Float) : Option Int :=
  match Float64.ofFloat x with
  | .finite b =>
    let n : Int := (b.ratio.1 / b.ratio.2 : Nat)
    some (if b.negative then -n else n)
  | _ => none

end Parley.Decimal
