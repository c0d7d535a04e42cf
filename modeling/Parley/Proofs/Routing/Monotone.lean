import Mathlib.Algebra.Order.BigOperators.Group.List
import Mathlib.Algebra.Order.Field.Rat
import Mathlib.Data.List.Forall2
import Mathlib.Tactic.GCongr
import Mathlib.Tactic.Linarith
import Mathlib.Tactic.NormNum
import Parley.Proofs.Routing.Rules

/-!
# Parley.Proofs.Routing.Monotone — the worse the baseline path does, the sooner it is left

The formulas of the policy over the rational numbers, where they obey the laws of arithmetic.  A mean
with weights that are not negative grows with its values (`weightedRate_mono`), and the score, the
failures to capture an answer, and the errors are its values.  The threshold falls as the strategy gets
bolder.  `answer_mono`: a template that is routed to the enhanced path still is when anything of this
changes for the worse, and every confidence is a rate.
-/

namespace Parley

/-! ### Exact scalars -/

/-- Exact arithmetic. -/
instance : Scalar ℚ where
  nothing := 0
  low := 0
  high := 1
  hundredths n := n / 100
  less a b := decide (a < b)
  atMost a b := decide (a ≤ b)

/-- A number from zero to one. -/
def IsRate (x : ℚ) : Prop := 0 ≤ x ∧ x ≤ 1

namespace Scalar

theorem largest_eq_max (a b : ℚ) : largest a b = max a b := by
  show (if decide (a < b) = true then b else a) = max a b
  by_cases h : a < b
  · simp [h, le_of_lt h]
  · simp [h, not_lt.mp h]

theorem smallest_eq_min (a b : ℚ) : smallest a b = min a b := by
  show (if decide (b < a) = true then b else a) = min a b
  by_cases h : b < a
  · simp [h, le_of_lt h]
  · simp [h, not_lt.mp h]

theorem clip_eq (a : ℚ) : clip a = max 0 (min 1 a) := by
  unfold clip
  rw [largest_eq_max, smallest_eq_min]
  rfl

theorem total_eq_sum (values : List ℚ) : total values = values.sum := by
  rw [List.sum_eq_foldl]
  rfl

theorem isRate_clip (a : ℚ) : IsRate (clip a) := by
  rw [clip_eq]
  exact ⟨le_max_left _ _, max_le zero_le_one (min_le_left _ _)⟩

theorem clip_mono {a b : ℚ} (h : a ≤ b) : clip a ≤ clip b := by
  rw [clip_eq, clip_eq]
  gcongr

theorem weightedRate_eq (terms : List (ℚ × ℚ)) : weightedRate terms =
    if (terms.map Prod.fst).sum ≤ 0 then 0
    else clip ((terms.map fun t => t.1 * t.2).sum / (terms.map Prod.fst).sum) := by
  rw [← total_eq_sum, ← total_eq_sum]
  show (if decide _ = true then _ else _) = _
  simp only [decide_eq_true_eq]
  rfl

theorem isRate_weightedRate (terms : List (ℚ × ℚ)) : IsRate (weightedRate terms) := by
  rw [weightedRate_eq]
  split_ifs
  · exact ⟨le_refl 0, zero_le_one⟩
  · exact isRate_clip _

/-- A term weighs as much as another one, and its value is no less. -/
def Raises (t t' : ℚ × ℚ) : Prop := t'.1 = t.1 ∧ 0 ≤ t.1 ∧ t.2 ≤ t'.2

/-- **A mean grows with its values**, if no weight is negative. -/
theorem weightedRate_mono {terms terms' : List (ℚ × ℚ)} (h : List.Forall₂ Raises terms terms') :
    weightedRate terms ≤ weightedRate terms' := by
  have hweights : terms'.map Prod.fst = terms.map Prod.fst := by
    induction h with
    | nil => rfl
    | cons hraises _ ih => rw [List.map_cons, List.map_cons, ih, hraises.1]
  have hsums : (terms.map fun t => t.1 * t.2).sum ≤ (terms'.map fun t => t.1 * t.2).sum := by
    clear hweights
    induction h with
    | nil => exact le_refl _
    | cons hraises _ ih =>
      obtain ⟨hweight, hnonneg, hvalue⟩ := hraises
      rw [List.map_cons, List.map_cons, List.sum_cons, List.sum_cons, hweight]
      gcongr
  rw [weightedRate_eq, weightedRate_eq, hweights]
  split_ifs with htotal
  · exact le_refl 0
  · have hpos := le_of_lt (not_le.mp htotal)
    exact clip_mono (by gcongr)

end Scalar

namespace Complexity

/-- A score is of the lowest level if it reaches no bound, in whatever order the bounds are. -/
theorem RiskBounds.level_eq_low_iff {bounds : RiskBounds ℚ} {score : ℚ} :
    bounds.level score = .low ↔
      score < bounds.medium ∧ score < bounds.high ∧ score < bounds.critical := by
  show (if decide (bounds.critical ≤ score) = true then RiskLevel.critical
    else if decide (bounds.high ≤ score) = true then .high
    else if decide (bounds.medium ≤ score) = true then .medium else .low) = .low ↔ _
  simp only [decide_eq_true_eq]
  split_ifs with hcritical hhigh hmedium
  · simp [hcritical]
  · simp [hhigh]
  · simp [hmedium]
  · simp [not_le.mp hcritical, not_le.mp hhigh, not_le.mp hmedium]

end Complexity

namespace Routing

open Complexity (RiskBounds)
open Router (Call)

/-! ### Confidence and threshold -/

/-- The least eager strategy is conservative, the most eager one aggressive. -/
def Strategy.boldness : Strategy → Nat
  | conservative => 0
  | balanced => 1
  | aggressive => 2

/-- What a strategy adds to a threshold. -/
def Strategy.offset : Strategy → ℚ
  | conservative => 15 / 100
  | balanced => 0
  | aggressive => -15 / 100

theorem Strategy.shift_eq (s : Strategy) (threshold : ℚ) : s.shift threshold = threshold + s.offset := by
  cases s with
  | conservative => rfl
  | balanced => rfl
  | aggressive =>
    show threshold - (15 : ℕ) / 100 = threshold + -15 / 100
    norm_num [sub_eq_add_neg, neg_div]

theorem Strategy.offset_antitone {s s' : Strategy} (h : s.boldness ≤ s'.boldness) :
    s'.offset ≤ s.offset := by
  cases s <;> cases s' <;> simp [boldness, offset] at h ⊢ <;> norm_num

/-- Conversations went no better: fewer answers were captured, or more errors were made. -/
structure LiveRates.Worsens (l l' : LiveRates ℚ) : Prop where
  sampleSize : l'.sampleSize = l.sampleSize
  capture : Option.Rel (fun rate rate' => rate' ≤ rate) l.captureSuccessRate l'.captureSuccessRate
  errors : l.errorRate ≤ l'.errorRate
  enhancedFallbackRate : l'.enhancedFallbackRate = l.enhancedFallbackRate
  enhancedSampleSize : l'.enhancedSampleSize = l.enhancedSampleSize

/-- A template at the level of risk that its score reaches. -/
def Assessment.ofScore (bounds : RiskBounds ℚ) (modules : List Capability) (score : ℚ) :
    Assessment ℚ :=
  ⟨score, bounds.level score, modules⟩

namespace Policy

/-- No weight is negative. -/
structure Weighs (p : Policy ℚ) : Prop where
  score : 0 ≤ p.scoreWeight
  capture : 0 ≤ p.captureWeight
  error : 0 ≤ p.errorWeight

variable {p : Policy ℚ} {a a' : Assessment ℚ} {live live' : Option (LiveRates ℚ)}

theorem isRate_confidence (p : Policy ℚ) (a : Assessment ℚ) (live : Option (LiveRates ℚ)) :
    IsRate (p.confidence a live) := Scalar.isRate_weightedRate _

theorem terms_raise (hp : p.Weighs) (hscore : a.score ≤ a'.score)
    (hlive : Option.Rel LiveRates.Worsens live live') :
    List.Forall₂ Scalar.Raises (p.terms a live) (p.terms a' live') := by
  refine .cons ⟨rfl, hp.score, hscore⟩ ?_
  cases hlive with
  | none => exact .nil
  | @some l l' hworsens =>
    dsimp only
    rw [hworsens.sampleSize]
    split_ifs
    · refine List.rel_append ?_ (.cons ⟨rfl, hp.error, hworsens.errors⟩ .nil)
      have hcapture := hworsens.capture
      generalize l.captureSuccessRate = capture, l'.captureSuccessRate = capture' at hcapture
      cases hcapture with
      | none => exact .nil
      | some hfalls => exact .cons ⟨rfl, hp.capture, sub_le_sub_left hfalls 1⟩ .nil
    · exact .nil

/-- **The confidence grows** with the score and as conversations go worse. -/
theorem confidence_mono (hp : p.Weighs) (hscore : a.score ≤ a'.score)
    (hlive : Option.Rel LiveRates.Worsens live live') :
    p.confidence a live ≤ p.confidence a' live' :=
  Scalar.weightedRate_mono (terms_raise hp hscore hlive)

/-- **The threshold falls** as the strategy gets bolder. -/
theorem threshold_antitone {strategy : Strategy} (h : p.strategy.boldness ≤ strategy.boldness) :
    ({ p with strategy } : Policy ℚ).threshold ≤ p.threshold := by
  have hshift : strategy.shift p.confidenceThreshold ≤ p.strategy.shift p.confidenceThreshold := by
    rw [Strategy.shift_eq, Strategy.shift_eq]
    have hoffset := Strategy.offset_antitone h
    gcongr
  unfold threshold
  simp only [Scalar.smallest_eq_min, Scalar.largest_eq_max]
  gcongr

/-! ### Decisions -/

/-- What the enhanced path takes: some risk, no suspension, confidence, and modules that help. -/
theorem decide_enhanced_iff : (p.decide a live).path = .enhanced ↔
    a.risk ≠ .low ∧ p.suspension? live = none ∧ p.threshold ≤ p.confidence a live ∧
      a.modules ≠ [] := by
  unfold decide
  by_cases hrisk : a.risk = .low
  · simp [hrisk]
  · rw [if_neg hrisk]
    cases hsuspended : p.suspension? live with
    | some rate => simp
    | none =>
      unfold weigh
      show (if (Decidable.decide (p.threshold ≤ p.confidence a live) && !a.modules.isEmpty) = true
        then (_ : Choice ℚ) else _).path = .enhanced ↔ _
      split_ifs with hweighed
      · simpa [hrisk] using hweighed
      · simpa [hrisk] using hweighed

/-- The fallbacks of late have not changed. -/
theorem suspension?_congr (h : Option.Rel LiveRates.Worsens live live') :
    p.suspension? live' = p.suspension? live := by
  cases h with
  | none => rfl
  | some hworsens =>
    unfold suspension?
    dsimp only
    rw [hworsens.enhancedFallbackRate, hworsens.enhancedSampleSize]

theorem isRate_decide (hlow : IsRate p.lowRiskConfidence) (a : Assessment ℚ)
    (live : Option (LiveRates ℚ)) : IsRate (p.decide a live).confidence := by
  obtain ⟨hzero, hone⟩ := isRate_confidence p a live
  unfold decide
  split_ifs
  · exact hlow
  · split
    · show IsRate ((90 : ℕ) / 100)
      exact ⟨by norm_num, by norm_num⟩
    · unfold weigh
      dsimp only
      split_ifs
      · exact ⟨hzero, hone⟩
      · exact ⟨sub_nonneg.mpr hone, sub_le_self 1 hzero⟩

/-- **What speaks for the enhanced path speaks for it more** when the score rises, when conversations
go worse, and when the strategy gets bolder. -/
theorem enhanced_of_worse (hp : p.Weighs) {bounds : RiskBounds ℚ} {modules : List Capability}
    {score score' : ℚ} (hscore : score ≤ score')
    (hlive : Option.Rel LiveRates.Worsens live live') {strategy : Strategy}
    (hbold : p.strategy.boldness ≤ strategy.boldness)
    (h : (p.decide (.ofScore bounds modules score) live).path = .enhanced) :
    (({ p with strategy } : Policy ℚ).decide (.ofScore bounds modules score') live').path =
      .enhanced := by
  rw [decide_enhanced_iff] at h ⊢
  obtain ⟨hrisk, hsuspension, hconfidence, hmodules⟩ := h
  refine ⟨fun hlow => hrisk ?_, (suspension?_congr hlive).trans hsuspension, ?_, hmodules⟩
  · obtain ⟨hmedium, hhigh, hcritical⟩ := RiskBounds.level_eq_low_iff.mp hlow
    exact RiskBounds.level_eq_low_iff.mpr ⟨lt_of_le_of_lt hscore hmedium,
      lt_of_le_of_lt hscore hhigh, lt_of_le_of_lt hscore hcritical⟩
  · calc ({ p with strategy } : Policy ℚ).threshold
        ≤ p.threshold := threshold_antitone hbold
      _ ≤ p.confidence (.ofScore bounds modules score) live := hconfidence
      _ ≤ p.confidence (.ofScore bounds modules score') live' := confidence_mono hp hscore hlive

end Policy

/-! ### Answers -/

/-- What a router that keeps nothing answers where nothing is switched off or forced: the choice of the
policy, and outside the rollout the baseline path for sure. -/
def Policy.answer {α : Type} [Scalar α] (p : Policy α) (joins : Bool) (a : Assessment α)
    (live : Option (LiveRates α)) : Path × α :=
  let choice := p.decide a live
  if choice.path = .baseline || joins then (choice.path, choice.confidence)
  else (.baseline, Scalar.high)

namespace Router

variable {config : RouterConfig} {c : Call}

theorem gate_eq_none (hoff : ¬SwitchedOff config c.context) (hforced : ¬Forced config c.context) :
    gate config c = none := by
  have hnot : isForced config c.context = false := by simpa [isForced, Forced] using hforced
  unfold gate
  cases hreason : switchedOff? config c.context with
  | some reason => exact absurd (switchedOff_of_some hreason) hoff
  | none => simp [hnot]

/-- **A router answers so.** -/
theorem route_eq_answer {r : Router} (hcache : r.cache = [])
    (hoff : ¬SwitchedOff r.config c.context) (hforced : ¬Forced r.config c.context)
    (a : Assessment Number) (live : Option (LiveRates Number)) :
    ((r.route c a live).1.path, (r.route c a live).1.confidence) =
      r.config.policy.answer (inRollout r.config c.context) a live := by
  have hkept : r.kept? c = none := by
    unfold kept? Cache.lookup?
    rw [hcache]
    rfl
  rw [route_of_open (gate_eq_none hoff hforced) hkept]
  unfold applyRollout Policy.answer
  show ((if (Router.decide _ _ _ _).path = .baseline || _ then _ else _ : Decision).path, _) =
    if (Router.decide r.config c a live).path = .baseline || _ then _ else _
  split_ifs <;> rfl

end Router

section Answers

variable {p : Policy ℚ} {joins : Bool} {a : Assessment ℚ} {live : Option (LiveRates ℚ)}

theorem Policy.answer_enhanced_iff :
    (p.answer joins a live).1 = .enhanced ↔ (p.decide a live).path = .enhanced ∧ joins = true := by
  unfold answer
  dsimp only
  cases (p.decide a live).path <;> cases joins <;> simp

theorem Policy.isRate_answer (hlow : IsRate p.lowRiskConfidence) (joins : Bool) (a : Assessment ℚ)
    (live : Option (LiveRates ℚ)) : IsRate (p.answer joins a live).2 := by
  unfold answer
  dsimp only
  split_ifs
  · exact isRate_decide hlow a live
  · exact ⟨zero_le_one, le_refl 1⟩

end Answers

/-- **Routing is monotone.**  A router that keeps nothing, with nothing switched off or forced, answers
as `Policy.answer` says, whatever the numbers.  Over the rationals, with weights that are not negative,
the confidence in the enhanced path and the one in the answer are rates; and a message that takes the
enhanced path still does when the score rises, fewer answers are captured, more errors are made or the
strategy gets bolder, also at the same time. -/
theorem answer_mono :
    (∀ (r : Router) (c : Call) (a : Assessment Number) (live : Option (LiveRates Number)),
      r.cache = [] → ¬SwitchedOff r.config c.context → ¬Forced r.config c.context →
      ((r.route c a live).1.path, (r.route c a live).1.confidence) =
        r.config.policy.answer (Router.inRollout r.config c.context) a live) ∧
    ∀ p : Policy ℚ, p.Weighs →
      (∀ a live, IsRate (p.confidence a live)) ∧
      (IsRate p.lowRiskConfidence → ∀ joins a live, IsRate (p.answer joins a live).2) ∧
      ∀ joins bounds modules score score' live live' strategy, score ≤ score' →
        Option.Rel LiveRates.Worsens live live' → p.strategy.boldness ≤ strategy.boldness →
        (p.answer joins (.ofScore bounds modules score) live).1 = .enhanced →
        (({ p with strategy } : Policy ℚ).answer joins (.ofScore bounds modules score')
          live').1 = .enhanced := by
  refine ⟨fun r c a live hcache hoff hforced => Router.route_eq_answer hcache hoff hforced a live,
    fun p hp => ⟨p.isRate_confidence, fun hlow => p.isRate_answer hlow, ?_⟩⟩
  intro joins bounds modules score score' live live' strategy hscore hlive hbold h
  obtain ⟨henhanced, hjoins⟩ := Policy.answer_enhanced_iff.mp h
  exact Policy.answer_enhanced_iff.mpr
    ⟨Policy.enhanced_of_worse hp hscore hlive hbold henhanced, hjoins⟩

/-! A hard template, and conversations with it on two days. -/

def exactPolicy : Policy ℚ := ⟨6 / 10, .balanced, 6 / 10, 25 / 100, 15 / 100, 95 / 100, 20, 1 / 2⟩

def exactBounds : RiskBounds ℚ := ⟨1 / 4, 1 / 2, 3 / 4⟩

def goodDay : LiveRates ℚ := ⟨50, some (1 / 2), 1 / 5, 0, 0⟩

def badDay : LiveRates ℚ := ⟨50, some (1 / 4), 2 / 5, 0, 0⟩

/-- The template takes the enhanced path on the good day, with a confidence of 139 in 200, so on the bad
day also if it has become harder and the strategy bolder. -/
theorem answer_mono_days :
    exactPolicy.Weighs ∧ IsRate exactPolicy.lowRiskConfidence ∧ goodDay.Worsens badDay ∧
    exactPolicy.answer true (.ofScore exactBounds [.enhancedCapture] (9 / 10)) (some goodDay) =
      (.enhanced, 139 / 200) ∧
    IsRate (exactPolicy.answer true (.ofScore exactBounds [.enhancedCapture] (9 / 10))
      (some goodDay)).2 ∧
    (({ exactPolicy with strategy := .aggressive } : Policy ℚ).answer true
      (.ofScore exactBounds [.enhancedCapture] (19 / 20)) (some badDay)).1 = .enhanced ∧
    let answered := ((Router.new .default).route ⟨survey "1", surveyed "acme" "ann", surveyClock⟩
      surveyEvidence.1 surveyEvidence.2).1
    answered.path = .enhanced ∧ (answered.path, answered.confidence) = Policy.default.answer
      (Router.inRollout .default (surveyed "acme" "ann")) surveyEvidence.1 surveyEvidence.2 := by
  have hp : exactPolicy.Weighs := by constructor <;> norm_num [exactPolicy]
  have hlow : IsRate exactPolicy.lowRiskConfidence := by constructor <;> norm_num [exactPolicy]
  have hworsens : goodDay.Worsens badDay :=
    ⟨rfl, .some (by norm_num), by norm_num [goodDay, badDay], rfl, rfl⟩
  have hgood : exactPolicy.answer true (.ofScore exactBounds [.enhancedCapture] (9 / 10))
      (some goodDay) = (.enhanced, 139 / 200) := by
    decide +kernel
  obtain ⟨hroute, hpolicy⟩ := answer_mono
  obtain ⟨-, hrates, hmono⟩ := hpolicy exactPolicy hp
  refine ⟨hp, hlow, hworsens, hgood, hrates hlow _ _ _, ?_, by decide +kernel, ?_⟩
  · exact hmono true exactBounds [.enhancedCapture] (9 / 10) (19 / 20) (some goodDay) (some badDay)
      .aggressive (by norm_num) (.some hworsens) (by decide) (congrArg Prod.fst hgood)
  · exact hroute (.new .default) ⟨survey "1", surveyed "acme" "ann", surveyClock⟩ surveyEvidence.1
      surveyEvidence.2 rfl (by simp [SwitchedOff, RouterConfig.default, Router.new])
      (by simp [Forced, RouterConfig.default, Router.new])

end Routing

end Parley
