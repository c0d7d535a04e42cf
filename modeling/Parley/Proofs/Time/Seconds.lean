import Mathlib.Algebra.Group.Nat.Defs
import Mathlib.Tactic.SplitIfs
import Parley.Time.Seconds

/-!
# Parley.Proofs.Time.Seconds — sums of seconds keep their order

Rounding to doubles keeps the order and leaves doubles alone.  So a sum of seconds is one, and a
reading comes before a rounded sum only if it comes before the exact one
(`Seconds.lt_exact_of_lt_add`).
-/

namespace Parley

namespace Decimal

variable {a b d m : Nat}

/-- Rounded quotients keep the order. -/
theorem roundDiv_le_roundDiv (h : a ≤ b) : roundDiv a d ≤ roundDiv b d := by
  rcases Nat.lt_or_eq_of_le (Nat.div_le_div_right (c := d) h) with hlt | heq
  · rcases roundDiv_eq_or a d with ha | ha <;> rcases roundDiv_eq_or b d with hb | hb <;> omega
  · have hmod : a % d ≤ b % d := by
      have ha := Nat.div_add_mod a d
      have hb := Nat.div_add_mod b d
      rw [heq] at ha
      omega
    simp only [roundDiv, heq]
    split_ifs <;> omega

theorem le_roundDiv (hd : 0 < d) (h : m * d ≤ a) : m ≤ roundDiv a d :=
  Nat.le_trans (Nat.le_of_eq (roundDiv_mul m hd).symm) (roundDiv_le_roundDiv h)

theorem roundDiv_le (hd : 0 < d) (h : a ≤ m * d) : roundDiv a d ≤ m :=
  Nat.le_trans (roundDiv_le_roundDiv h) (Nat.le_of_eq (roundDiv_mul m hd))

end Decimal

namespace Time

open Decimal

/-! ### Magnitudes -/

section Magnitude

variable {n k : Nat}

theorem roundMagnitude_of_lt (h : n < Nat.pow 2 53) : roundMagnitude n = n := if_pos h

theorem roundMagnitude_of_le (h : Nat.pow 2 53 ≤ n) :
    roundMagnitude n = roundDiv n (2 ^ (n.log2 - 52)) * 2 ^ (n.log2 - 52) :=
  if_neg (Nat.not_lt_of_le h)

theorem ne_zero_of_le (h : Nat.pow 2 53 ≤ n) : n ≠ 0 :=
  Nat.ne_of_gt (Nat.lt_of_lt_of_le (by decide) h)

theorem le_log2_of_le (h : Nat.pow 2 53 ≤ n) : 53 ≤ n.log2 :=
  (Nat.le_log2 (ne_zero_of_le h)).mpr h

/-- A magnitude is rounded to something between two powers of two. -/
theorem pow_log2_le_roundMagnitude (h : Nat.pow 2 53 ≤ n) :
    2 ^ n.log2 ≤ roundMagnitude n ∧ roundMagnitude n ≤ 2 ^ (n.log2 + 1) := by
  have hlog := le_log2_of_le h
  have hunit : 0 < 2 ^ (n.log2 - 52) := Nat.pow_pos (by decide)
  have hlow : 2 ^ n.log2 = 2 ^ 52 * 2 ^ (n.log2 - 52) := by rw [← Nat.pow_add]; congr 1; omega
  have hhigh : 2 ^ (n.log2 + 1) = 2 ^ 53 * 2 ^ (n.log2 - 52) := by
    rw [← Nat.pow_add]; congr 1; omega
  rw [roundMagnitude_of_le h, hlow, hhigh]
  constructor
  · refine Nat.mul_le_mul_right _ (le_roundDiv hunit ?_)
    rw [← hlow]
    exact Nat.log2_self_le (ne_zero_of_le h)
  · refine Nat.mul_le_mul_right _ (roundDiv_le hunit ?_)
    rw [← hhigh]
    exact Nat.le_of_lt Nat.lt_log2_self

/-- Rounded magnitudes keep the order. -/
theorem roundMagnitude_le_roundMagnitude {a b : Nat} (h : a ≤ b) :
    roundMagnitude a ≤ roundMagnitude b := by
  rcases Nat.lt_or_ge b (Nat.pow 2 53) with hb | hb
  · rwa [roundMagnitude_of_lt hb, roundMagnitude_of_lt (Nat.lt_of_le_of_lt h hb)]
  · have hfloor := (pow_log2_le_roundMagnitude hb).1
    rcases Nat.lt_or_ge a (Nat.pow 2 53) with ha | ha
    · rw [roundMagnitude_of_lt ha]
      have hpow : (2 : Nat) ^ 53 ≤ 2 ^ b.log2 := Nat.pow_le_pow_right (by decide) (le_log2_of_le hb)
      exact Nat.le_trans (Nat.le_of_lt ha) (Nat.le_trans hpow hfloor)
    · have hlog : a.log2 ≤ b.log2 := by
        rw [Nat.le_log2 (ne_zero_of_le hb)]
        exact Nat.le_trans (Nat.log2_self_le (ne_zero_of_le ha)) h
      rcases Nat.lt_or_eq_of_le hlog with hlt | heq
      · have hpow : (2 : Nat) ^ (a.log2 + 1) ≤ 2 ^ b.log2 := Nat.pow_le_pow_right (by decide) hlt
        exact Nat.le_trans (pow_log2_le_roundMagnitude ha).2 (Nat.le_trans hpow hfloor)
      · rw [roundMagnitude_of_le ha, roundMagnitude_of_le hb, heq]
        exact Nat.mul_le_mul_right _ (roundDiv_le_roundDiv h)

/-- A magnitude with at most fifty-three binary digits is left alone. -/
theorem roundMagnitude_mul_pow {m : Nat} (hm : m < 2 ^ 53) (k : Nat) :
    roundMagnitude (m * 2 ^ k) = m * 2 ^ k := by
  rcases Nat.lt_or_ge (m * 2 ^ k) (Nat.pow 2 53) with hlt | hge
  · exact roundMagnitude_of_lt hlt
  · have hlog : (m * 2 ^ k).log2 - 52 ≤ k := by
      have hbound : m * 2 ^ k < 2 ^ (53 + k) := by
        rw [Nat.pow_add]
        exact Nat.mul_lt_mul_of_pos_right hm (Nat.pow_pos (by decide))
      have hpow : 2 ^ (m * 2 ^ k).log2 < 2 ^ (53 + k) :=
        Nat.lt_of_le_of_lt (Nat.log2_self_le (ne_zero_of_le hge)) hbound
      have := (Nat.pow_lt_pow_iff_right (by decide)).mp hpow
      omega
    rw [roundMagnitude_of_le hge]
    obtain ⟨j, hj⟩ := Nat.exists_eq_add_of_le' hlog
    generalize (m * 2 ^ k).log2 - 52 = e at hj
    subst hj
    rw [Nat.pow_add, ← Nat.mul_assoc, roundDiv_mul _ (Nat.pow_pos (by decide))]

/-- What is rounded is left alone. -/
theorem roundMagnitude_roundMagnitude (n : Nat) :
    roundMagnitude (roundMagnitude n) = roundMagnitude n := by
  rcases Nat.lt_or_ge n (Nat.pow 2 53) with hlt | hge
  · rw [roundMagnitude_of_lt hlt, roundMagnitude_of_lt hlt]
  · have hle : roundDiv n (2 ^ (n.log2 - 52)) ≤ 2 ^ 53 := by
      refine roundDiv_le (Nat.pow_pos (by decide)) ?_
      have hlog := le_log2_of_le hge
      rw [← Nat.pow_add, show 53 + (n.log2 - 52) = n.log2 + 1 by omega]
      exact Nat.le_of_lt Nat.lt_log2_self
    rw [roundMagnitude_of_le hge]
    rcases Nat.lt_or_eq_of_le hle with hm | hm
    · exact roundMagnitude_mul_pow hm _
    · -- the next power of two has one binary digit
      rw [hm, show 2 ^ 53 * 2 ^ (n.log2 - 52) = 2 ^ 52 * 2 ^ (n.log2 - 52 + 1) by
        rw [Nat.pow_succ 2 (n.log2 - 52)]; omega]
      exact roundMagnitude_mul_pow (by decide) _

end Magnitude

/-! ### Seconds -/

section Units

variable {i j : Int}

theorem roundUnits_of_nonneg (h : 0 ≤ i) : roundUnits i = roundMagnitude i.natAbs :=
  if_neg (Int.not_lt.mpr h)

theorem roundUnits_of_neg (h : i < 0) : roundUnits i = -(roundMagnitude i.natAbs : Int) := if_pos h

/-- Rounded sums keep the order. -/
theorem roundUnits_le_roundUnits (h : i ≤ j) : roundUnits i ≤ roundUnits j := by
  rcases Int.lt_or_le i 0 with hi | hi
  · rw [roundUnits_of_neg hi]
    rcases Int.lt_or_le j 0 with hj | hj
    · rw [roundUnits_of_neg hj]
      have hle : roundMagnitude j.natAbs ≤ roundMagnitude i.natAbs :=
        roundMagnitude_le_roundMagnitude (by omega)
      omega
    · rw [roundUnits_of_nonneg hj]
      omega
  · rw [roundUnits_of_nonneg hi, roundUnits_of_nonneg (Int.le_trans hi h)]
    exact Int.ofNat_le.mpr (roundMagnitude_le_roundMagnitude (by omega))

theorem roundUnits_roundUnits (i : Int) : roundUnits (roundUnits i) = roundUnits i := by
  rcases Int.lt_or_le i 0 with hi | hi
  · rw [roundUnits_of_neg hi]
    rcases Nat.eq_zero_or_pos (roundMagnitude i.natAbs) with hzero | hpos
    · rw [hzero]
      rfl
    · rw [roundUnits_of_neg (by omega), Int.natAbs_neg, Int.natAbs_natCast,
        roundMagnitude_roundMagnitude]
  · rw [roundUnits_of_nonneg hi, roundUnits_of_nonneg (Int.natCast_nonneg _), Int.natAbs_natCast,
      roundMagnitude_roundMagnitude]

end Units

namespace Seconds

variable {now s t u : Seconds}

/-- A reading that is a double. -/
def IsDouble (s : Seconds) : Prop := roundUnits s.units = s.units

instance : DecidablePred IsDouble := fun _ => inferInstanceAs (Decidable (_ = _))

theorem isDouble_add (s t : Seconds) : (s + t).IsDouble := roundUnits_roundUnits _

theorem add_le_add_right (h : s ≤ t) (u : Seconds) : s + u ≤ t + u :=
  roundUnits_le_roundUnits (Int.add_le_add_right h u.units)

/-- A clock does not go back. -/
theorem le_add (hnow : now.IsDouble) (h : 0 ≤ t) : now ≤ now + t :=
  calc now.units = roundUnits now.units := Eq.symm hnow
    _ ≤ roundUnits (now.units + t.units) := roundUnits_le_roundUnits (Int.le_add_of_nonneg_right h)

/-- A reading that is before a rounded sum is before the exact sum. -/
theorem lt_exact_of_lt_add (hnow : now.IsDouble) (h : now < s + t) :
    now.units < s.units + t.units := by
  refine Int.not_le.mp fun hle => ?_
  have hround : roundUnits (s.units + t.units) ≤ now.units := hnow ▸ roundUnits_le_roundUnits hle
  exact absurd h (Int.not_lt.mpr hround)

end Seconds

end Time

end Parley
