import Mathlib.Algebra.Order.Field.Power
import Mathlib.Tactic.FieldSimp
import Mathlib.Tactic.Linarith
import Mathlib.Tactic.NormNum
import Mathlib.Tactic.Positivity
import Mathlib.Tactic.Ring
import TestGate.Double

/-!
How far doubles are from what they stand for. Main statement: a number of 64 bits times a power of
ten has a double, unless it comes close to the largest one.
-/

namespace TestGate.Double

/-! ## Rounding to whole numbers -/

/-- Rounding moves a ratio by a half at most. -/
theorem roundDiv_near
    (numerator : Nat) {denominator : Nat} (positive : 0 < denominator) :
    (roundDiv numerator denominator : ℚ) ≤ numerator / denominator + 1 / 2 ∧
      (numerator / denominator : ℚ) - 1 / 2 ≤ roundDiv numerator denominator := by
  have parts : denominator * (numerator / denominator) + numerator % denominator = numerator :=
    Nat.div_add_mod numerator denominator
  have lessRest : numerator % denominator < denominator := Nat.mod_lt numerator positive
  have near : 2 * (denominator * roundDiv numerator denominator) ≤ 2 * numerator + denominator ∧
      2 * numerator ≤ 2 * (denominator * roundDiv numerator denominator) + denominator := by
    have next : denominator * (numerator / denominator + 1) =
        denominator * (numerator / denominator) + denominator := Nat.mul_succ _ _
    rw [roundDiv]
    split
    · omega
    · split
      · omega
      · rcases Nat.mod_two_eq_zero_or_one (numerator / denominator) with even | odd
        · rw [even, Nat.add_zero]
          omega
        · rw [odd]
          omega
  have isPositive : (0 : ℚ) < denominator := by exact_mod_cast positive
  have above : 2 * ((denominator : ℚ) * roundDiv numerator denominator) ≤
      2 * numerator + denominator := by exact_mod_cast near.1
  have below : 2 * (numerator : ℚ) ≤
      2 * (denominator * roundDiv numerator denominator) + denominator := by
    exact_mod_cast near.2
  constructor
  · rw [← sub_le_iff_le_add, le_div_iff₀ isPositive]
    linarith
  · rw [sub_le_iff_le_add, div_le_iff₀ isPositive]
    linarith

/-- It goes to one of the two whole numbers around it. -/
theorem roundDiv_cases
    (numerator denominator : Nat) :
    roundDiv numerator denominator = numerator / denominator ∨
      roundDiv numerator denominator = numerator / denominator + 1 := by
  rw [roundDiv]
  split
  · exact Or.inl rfl
  · split
    · exact Or.inr rfl
    · rcases Nat.mod_two_eq_zero_or_one (numerator / denominator) with even | odd
      · exact Or.inl (by rw [even, Nat.add_zero])
      · exact Or.inr (by rw [odd])

/-- Rounding at most doubles a ratio. -/
theorem roundDiv_le_double
    (numerator : Nat) {denominator : Nat} (positive : 0 < denominator) :
    (roundDiv numerator denominator : ℚ) ≤ 2 * (numerator / denominator) := by
  have near := (roundDiv_near numerator positive).1
  by_cases isZero : roundDiv numerator denominator = 0
  · rw [isZero, Nat.cast_zero]
    positivity
  · have atLeastOne : (1 : ℚ) ≤ roundDiv numerator denominator := by
      exact_mod_cast Nat.one_le_iff_ne_zero.mpr isZero
    linarith

/-! ## Powers -/

theorem zpow_of_nonneg
    {base : Nat} {exponent : Int}
    (nonneg : 0 ≤ exponent) :
    (base : ℚ) ^ exponent = (base ^ exponent.toNat : Nat) := by
  obtain ⟨n, rfl⟩ := Int.eq_ofNat_of_zero_le nonneg
  rw [Int.toNat_natCast, zpow_natCast, Nat.cast_pow]

theorem zpow_of_negative
    {base : Nat} {exponent : Int}
    (negative : ¬ 0 ≤ exponent) :
    (base : ℚ) ^ exponent = ((base ^ (-exponent).toNat : Nat) : ℚ)⁻¹ := by
  have nonneg : 0 ≤ -exponent := by omega
  rw [← zpow_of_nonneg nonneg, zpow_neg, inv_inv]

/-- A ratio with a power of two on either side. -/
theorem ratio_eq
    (significand : Nat) (exponent : Int) :
    0 < (ratio significand exponent).2 ∧
      ((ratio significand exponent).1 : ℚ) / (ratio significand exponent).2 =
        significand * 2 ^ exponent := by
  rw [ratio]
  split
  · rename_i nonneg
    have power : (2 : ℚ) ^ exponent = (2 ^ exponent.toNat : Nat) := zpow_of_nonneg nonneg
    rw [power]
    exact ⟨Nat.one_pos, by simp⟩
  · rename_i negative
    have power : (2 : ℚ) ^ exponent = ((2 ^ (-exponent).toNat : Nat) : ℚ)⁻¹ :=
      zpow_of_negative negative
    rw [power]
    exact ⟨Nat.pow_pos (by decide), by simp [div_eq_mul_inv]⟩

/-! ## Rounding to doubles -/

/-- The magnitude of a double. -/
def magnitude (double : Double) : ℚ :=
  double.significand * 2 ^ double.exponent

theorem magnitude_nonneg
    (double : Double) :
    0 ≤ double.magnitude := by
  rw [magnitude]
  positivity

/-- Whether a double fits in 64 bits. -/
structure IsFinite (double : Double) : Prop where
  significand : double.significand < 2 ^ 53
  low : lowestExponent ≤ double.exponent
  high : double.exponent ≤ highestExponent

theorem isFinite_zero
    (negative : Bool) :
    (zero negative).IsFinite :=
  ⟨Nat.two_pow_pos 53, le_refl _, (by decide : lowestExponent ≤ highestExponent)⟩

section Rounding

variable {numerator denominator : Nat}

/-- The significand that a ratio has at some exponent. -/
def significandAt (numerator denominator : Nat) (exponent : Int) : Nat :=
  if 0 ≤ exponent then
    roundDiv numerator (denominator * Nat.pow 2 exponent.toNat)
  else
    roundDiv (numerator * Nat.pow 2 (-exponent).toNat) denominator

/-- It is rounded once. -/
theorem significandAt_eq
    (numerator : Nat) (positive : 0 < denominator) (exponent : Int) :
    ∃ above below : Nat, 0 < below ∧ significandAt numerator denominator exponent =
      roundDiv above below ∧ (above / below : ℚ) = numerator / denominator / 2 ^ exponent := by
  rw [significandAt]
  split
  · rename_i nonneg
    have power : (2 : ℚ) ^ exponent = (2 ^ exponent.toNat : Nat) := zpow_of_nonneg nonneg
    refine ⟨numerator, denominator * 2 ^ exponent.toNat, ?_, rfl, ?_⟩
    · exact Nat.mul_pos positive (Nat.pow_pos (by decide))
    · rw [power, Nat.cast_mul, div_div]
  · rename_i negative
    have power : (2 : ℚ) ^ exponent = ((2 ^ (-exponent).toNat : Nat) : ℚ)⁻¹ :=
      zpow_of_negative negative
    refine ⟨numerator * 2 ^ (-exponent).toNat, denominator, positive, rfl, ?_⟩
    rw [power, div_inv_eq_mul, Nat.cast_mul, mul_div_right_comm]

/-- Whether a ratio has 53 bits at some exponent. -/
theorem fits_iff
    (numerator : Nat) (positive : 0 < denominator) (exponent : Int) :
    (if 0 ≤ exponent then
        decide (denominator * Nat.pow 2 exponent.toNat * Nat.pow 2 52 ≤ numerator)
      else
        decide (denominator * Nat.pow 2 52 ≤ numerator * Nat.pow 2 (-exponent).toNat)) = true ↔
      (2 ^ 52 * 2 ^ exponent : ℚ) ≤ numerator / denominator := by
  have isPositive : (0 : ℚ) < denominator := by exact_mod_cast positive
  rw [le_div_iff₀ isPositive]
  split
  · rename_i nonneg
    have power : (2 : ℚ) ^ exponent = (2 ^ exponent.toNat : Nat) := zpow_of_nonneg nonneg
    rw [power, decide_eq_true_eq, Nat.pow_eq, Nat.pow_eq, ← Nat.cast_le (α := ℚ)]
    push_cast
    constructor <;> intro le <;> linarith
  · rename_i negative
    have power : (2 : ℚ) ^ exponent = ((2 ^ (-exponent).toNat : Nat) : ℚ)⁻¹ :=
      zpow_of_negative negative
    have powerPositive : (0 : ℚ) < (2 ^ (-exponent).toNat : Nat) := by positivity
    rw [power, decide_eq_true_eq, Nat.pow_eq, Nat.pow_eq, mul_right_comm,
      mul_inv_le_iff₀ powerPositive, mul_comm _ (denominator : ℚ)]
    exact_mod_cast Iff.rfl

/-- A ratio lies within a factor of two around the power of two that its logarithms tell. -/
theorem log2_bounds
    (numeratorPositive : 0 < numerator) (positive : 0 < denominator) :
    (2 ^ ((numerator.log2 : Int) - denominator.log2 - 1) : ℚ) < numerator / denominator ∧
      (numerator / denominator : ℚ) < 2 ^ ((numerator.log2 : Int) - denominator.log2 + 1) := by
  have isPositive : (0 : ℚ) < denominator := by exact_mod_cast positive
  have powers : ∀ exponent : Int, (0 : ℚ) < 2 ^ exponent := fun exponent => by positivity
  have numeratorLow : (2 ^ (numerator.log2 : Int) : ℚ) ≤ numerator := by
    rw [zpow_natCast]
    exact_mod_cast Nat.log2_self_le numeratorPositive.ne'
  have numeratorHigh : (numerator : ℚ) < 2 ^ ((numerator.log2 : Int) + 1) := by
    have high : numerator < 2 ^ (numerator.log2 + 1) := Nat.lt_log2_self
    exact_mod_cast high
  have denominatorLow : (2 ^ (denominator.log2 : Int) : ℚ) ≤ denominator := by
    rw [zpow_natCast]
    exact_mod_cast Nat.log2_self_le positive.ne'
  have denominatorHigh : (denominator : ℚ) < 2 ^ ((denominator.log2 : Int) + 1) := by
    have high : denominator < 2 ^ (denominator.log2 + 1) := Nat.lt_log2_self
    exact_mod_cast high
  constructor
  · rw [lt_div_iff₀ isPositive]
    calc (2 ^ ((numerator.log2 : Int) - denominator.log2 - 1) : ℚ) * denominator
        < 2 ^ ((numerator.log2 : Int) - denominator.log2 - 1) *
            2 ^ ((denominator.log2 : Int) + 1) :=
          mul_lt_mul_of_pos_left denominatorHigh (powers _)
      _ = 2 ^ (numerator.log2 : Int) := by
          rw [← zpow_add₀ two_ne_zero]
          congr 1
          omega
      _ ≤ numerator := numeratorLow
  · rw [div_lt_iff₀ isPositive]
    calc (numerator : ℚ) < 2 ^ ((numerator.log2 : Int) + 1) := numeratorHigh
      _ = 2 ^ ((numerator.log2 : Int) - denominator.log2 + 1) * 2 ^ (denominator.log2 : Int) := by
          rw [← zpow_add₀ two_ne_zero]
          congr 1
          omega
      _ ≤ 2 ^ ((numerator.log2 : Int) - denominator.log2 + 1) * denominator :=
          mul_le_mul_of_nonneg_left denominatorLow (powers _).le

theorem two_pow_mul
    (places : Nat) (exponent : Int) :
    (2 ^ places * 2 ^ exponent : ℚ) = 2 ^ ((places : Int) + exponent) := by
  rw [zpow_add₀ two_ne_zero, zpow_natCast]

theorem two_zpow_mono
    {low high : Int}
    (le : low ≤ high) :
    (2 ^ low : ℚ) ≤ 2 ^ high :=
  zpow_le_zpow_right₀ (by norm_num) le

/-- What the exponent of a ratio says about its size. -/
theorem exponentFor_spec
    (numeratorPositive : 0 < numerator) (positive : 0 < denominator) :
    lowestExponent ≤ exponentFor numerator denominator ∧
      (numerator / denominator : ℚ) < 2 ^ 53 * 2 ^ exponentFor numerator denominator ∧
      (exponentFor numerator denominator = lowestExponent ∨
        (2 ^ 52 * 2 ^ exponentFor numerator denominator : ℚ) ≤ numerator / denominator) := by
  obtain ⟨low, high⟩ := log2_bounds numeratorPositive positive
  generalize isEstimate : (numerator.log2 : Int) - denominator.log2 - 52 = estimate
  -- without the lowest exponent the bounds hold on both sides
  obtain ⟨free, isFree, freeHigh, freeLow⟩ : ∃ free : Int,
      exponentFor numerator denominator = max lowestExponent free ∧
        (numerator / denominator : ℚ) < 2 ^ 53 * 2 ^ free ∧
        (2 ^ 52 * 2 ^ free : ℚ) ≤ numerator / denominator := by
    have fits := fits_iff numerator positive estimate
    simp only [exponentFor, isEstimate]
    by_cases enough : (2 ^ 52 * 2 ^ estimate : ℚ) ≤ numerator / denominator
    · refine ⟨estimate, by rw [if_pos (fits.mpr enough)], ?_, enough⟩
      rw [two_pow_mul]
      exact high.trans_le (two_zpow_mono (by omega))
    · refine ⟨estimate - 1, by rw [if_neg (mt fits.mp enough)], ?_, ?_⟩
      · rw [not_le, two_pow_mul] at enough
        rw [two_pow_mul]
        exact enough.trans_le (two_zpow_mono (by omega))
      · rw [two_pow_mul]
        exact (two_zpow_mono (by omega)).trans low.le
  rw [isFree]
  by_cases isLow : lowestExponent ≤ free
  · rw [max_eq_right isLow]
    exact ⟨isLow, freeHigh, Or.inr freeLow⟩
  · rw [max_eq_left (by omega)]
    refine ⟨le_refl _, freeHigh.trans_le ?_, Or.inl rfl⟩
    rw [two_pow_mul, two_pow_mul]
    exact two_zpow_mono (by omega)

/-- The magnitude that a ratio is rounded to. -/
def roundedRatio (numerator denominator : Nat) : ℚ :=
  significandAt numerator denominator (exponentFor numerator denominator) *
    2 ^ exponentFor numerator denominator

theorem roundedRatio_near
    (numerator : Nat) (positive : 0 < denominator) :
    let unit : ℚ := 2 ^ exponentFor numerator denominator
    roundedRatio numerator denominator ≤ numerator / denominator + unit / 2 ∧
      (numerator / denominator : ℚ) - unit / 2 ≤ roundedRatio numerator denominator ∧
      roundedRatio numerator denominator ≤ 2 * (numerator / denominator) := by
  intro unit
  have unitPositive : 0 < unit := by positivity
  obtain ⟨above, below, belowPositive, isRounded, sameRatio⟩ :=
    significandAt_eq numerator positive (exponentFor numerator denominator)
  have near := roundDiv_near above belowPositive
  have double := roundDiv_le_double above belowPositive
  have scaled : (numerator / denominator / unit : ℚ) * unit = numerator / denominator :=
    div_mul_cancel₀ _ unitPositive.ne'
  rw [sameRatio] at near double
  rw [roundedRatio, isRounded]
  refine ⟨?_, ?_, ?_⟩
  · calc (roundDiv above below : ℚ) * unit
        ≤ (numerator / denominator / unit + 1 / 2) * unit :=
          mul_le_mul_of_nonneg_right near.1 unitPositive.le
      _ = numerator / denominator + unit / 2 := by rw [add_mul, scaled]; ring
  · calc (numerator / denominator : ℚ) - unit / 2
        = (numerator / denominator / unit - 1 / 2) * unit := by rw [sub_mul, scaled]; ring
      _ ≤ roundDiv above below * unit := mul_le_mul_of_nonneg_right near.2 unitPositive.le
  · calc (roundDiv above below : ℚ) * unit
        ≤ 2 * (numerator / denominator / unit) * unit :=
          mul_le_mul_of_nonneg_right double unitPositive.le
      _ = 2 * (numerator / denominator) := by rw [mul_assoc, scaled]

/-- From one on, rounding is as exact as 53 bits allow. -/
theorem roundedRatio_of_one_le
    (positive : 0 < denominator) (atLeastOne : (1 : ℚ) ≤ numerator / denominator) :
    roundedRatio numerator denominator ≤ numerator / denominator * (1 + 1 / 2 ^ 53) ∧
      (numerator / denominator : ℚ) / 2 ≤ roundedRatio numerator denominator := by
  have numeratorPositive : 0 < numerator := by
    by_contra isZero
    rw [Nat.eq_zero_of_not_pos isZero] at atLeastOne
    norm_num at atLeastOne
  obtain ⟨_, high, lowest | low⟩ := exponentFor_spec numeratorPositive positive
  · rw [lowest, two_pow_mul] at high
    have small : (2 ^ ((53 : Nat) + lowestExponent) : ℚ) ≤ 2 ^ (0 : Int) :=
      two_zpow_mono (by decide)
    rw [zpow_zero] at small
    exact absurd atLeastOne (not_le.mpr (high.trans_le small))
  · obtain ⟨above, below, _⟩ := roundedRatio_near numerator positive
    constructor
    · linarith
    · linarith

/-- From here on numbers are beyond the largest double. -/
def limit : ℚ :=
  (2 ^ 53 - 1 / 2) * 2 ^ highestExponent

theorem ofRatio_eq
    (negative : Bool) (numeratorPositive : 0 < numerator) :
    ofRatio negative numerator denominator =
      if significandAt numerator denominator (exponentFor numerator denominator) = 2 ^ 53 then
        if highestExponent < exponentFor numerator denominator + 1 then none
        else some ⟨negative, 2 ^ 52, exponentFor numerator denominator + 1⟩
      else
        if highestExponent < exponentFor numerator denominator then none
        else some ⟨negative, significandAt numerator denominator
          (exponentFor numerator denominator), exponentFor numerator denominator⟩ := by
  rw [ofRatio, if_neg numeratorPositive.ne']
  simp only
  rw [← significandAt, Nat.pow_eq, Nat.pow_eq]
  by_cases isTop : significandAt numerator denominator (exponentFor numerator denominator) = 2 ^ 53
  · simp only [if_pos isTop]
  · simp only [if_neg isTop]

theorem ofRatio_zero
    (negative : Bool) (denominator : Nat) :
    ofRatio negative 0 denominator = some (zero negative) :=
  if_pos rfl

/-- What a ratio is rounded to, if it is rounded at all. -/
theorem magnitude_of_ofRatio
    {negative : Bool} {double : Double}
    (numeratorPositive : 0 < numerator)
    (isRounded : ofRatio negative numerator denominator = some double) :
    double.magnitude = roundedRatio numerator denominator := by
  rw [ofRatio_eq negative numeratorPositive] at isRounded
  rw [magnitude, roundedRatio]
  split at isRounded
  · rename_i isTop
    split at isRounded
    · cases isRounded
    · cases isRounded
      simp only [isTop]
      rw [zpow_add₀ two_ne_zero]
      push_cast
      ring
  · split at isRounded
    · cases isRounded
    · cases isRounded
      rfl

/-- What lies below the limit has a double. -/
theorem ofRatio_isSome
    (negative : Bool) (positive : 0 < denominator)
    (inRange : (numerator / denominator : ℚ) < limit) :
    (ofRatio negative numerator denominator).isSome = true := by
  rcases Nat.eq_zero_or_pos numerator with rfl | numeratorPositive
  · rw [ofRatio_zero]
    rfl
  obtain ⟨_, _, low⟩ := exponentFor_spec numeratorPositive positive
  have near := (roundedRatio_near numerator positive).1
  have notHigher : exponentFor numerator denominator ≤ highestExponent := by
    by_contra higher
    have beyond : (2 ^ 53 * 2 ^ highestExponent : ℚ) ≤
        2 ^ 52 * 2 ^ exponentFor numerator denominator := by
      rw [two_pow_mul, two_pow_mul]
      exact two_zpow_mono (by omega)
    have isLow : exponentFor numerator denominator ≠ lowestExponent := by
      have order : lowestExponent < highestExponent := by decide
      omega
    have large := low.resolve_left isLow
    have unitPositive : (0 : ℚ) < 2 ^ highestExponent := by positivity
    rw [limit] at inRange
    linarith
  -- the last significand of the highest exponent is not rounded up to a higher one
  have notTop : significandAt numerator denominator (exponentFor numerator denominator) = 2 ^ 53 →
      exponentFor numerator denominator + 1 ≤ highestExponent := by
    intro isTop
    by_contra tooHigh
    have isHighest : exponentFor numerator denominator = highestExponent := by omega
    rw [roundedRatio, isTop, isHighest] at near
    rw [limit] at inRange
    push_cast at near
    linarith
  rw [ofRatio_eq negative numeratorPositive]
  split
  · rename_i isTop
    rw [if_neg (not_lt.mpr (notTop isTop))]
    rfl
  · rw [if_neg (not_lt.mpr notHigher)]
    rfl

/-- What is rounded fits in 64 bits. -/
theorem isFinite_of_ofRatio
    {negative : Bool} {double : Double}
    (positive : 0 < denominator)
    (isRounded : ofRatio negative numerator denominator = some double) :
    double.IsFinite := by
  rcases Nat.eq_zero_or_pos numerator with rfl | numeratorPositive
  · rw [ofRatio_zero, Option.some.injEq] at isRounded
    subst isRounded
    exact isFinite_zero negative
  obtain ⟨low, high, _⟩ := exponentFor_spec numeratorPositive positive
  have near := (roundedRatio_near numerator positive).1
  rw [roundedRatio] at near
  have unitPositive : (0 : ℚ) < 2 ^ exponentFor numerator denominator := by positivity
  have atMost : significandAt numerator denominator (exponentFor numerator denominator) ≤
      2 ^ 53 := by
    have below : (significandAt numerator denominator (exponentFor numerator denominator) : ℚ) <
        2 ^ 53 + 1 := by
      refine lt_of_mul_lt_mul_right ?_ unitPositive.le
      linarith
    exact Nat.lt_succ_iff.mp (by exact_mod_cast below)
  rw [ofRatio_eq negative numeratorPositive] at isRounded
  split at isRounded
  · split at isRounded
    · cases isRounded
    · rename_i notHigher
      cases isRounded
      exact ⟨Nat.pow_lt_pow_right (by decide) (by decide), low.trans (Int.le_add_one (le_refl _)),
        not_lt.mp notHigher⟩
  · rename_i notTop
    split at isRounded
    · cases isRounded
    · rename_i notHigher
      cases isRounded
      exact ⟨lt_of_le_of_ne atMost notTop, low, not_lt.mp notHigher⟩

/-- What is rounded at most doubles. -/
theorem magnitude_le_of_ofRatio
    {negative : Bool} {double : Double}
    (positive : 0 < denominator)
    (isRounded : ofRatio negative numerator denominator = some double) :
    double.magnitude ≤ 2 * (numerator / denominator) := by
  rcases Nat.eq_zero_or_pos numerator with rfl | numeratorPositive
  · rw [ofRatio_zero, Option.some.injEq] at isRounded
    subst isRounded
    simp [magnitude, zero]
  · rw [magnitude_of_ofRatio numeratorPositive isRounded]
    exact (roundedRatio_near numerator positive).2.2

end Rounding

/-! ## Products and quotients -/

theorem mul_eq
    (left right : Double) :
    left.mul right = ofRatio left.negative
      (left.significand * right.significand * (ratio 1 (left.exponent + right.exponent)).1)
      (ratio 1 (left.exponent + right.exponent)).2 := rfl

theorem mul_isSome
    {left right : Double}
    (inRange : left.magnitude * right.magnitude < limit) :
    (left.mul right).isSome = true := by
  obtain ⟨positive, isPower⟩ := ratio_eq 1 (left.exponent + right.exponent)
  rw [mul_eq]
  apply ofRatio_isSome left.negative positive
  have same : ((left.significand * right.significand *
      (ratio 1 (left.exponent + right.exponent)).1 : Nat) : ℚ) /
        (ratio 1 (left.exponent + right.exponent)).2 = left.magnitude * right.magnitude := by
    rw [Nat.cast_mul, mul_div_assoc, isPower, zpow_add₀ two_ne_zero, magnitude, magnitude]
    push_cast
    ring
  rw [same]
  exact inRange

theorem isFinite_of_mul
    {left right double : Double}
    (isProduct : left.mul right = some double) :
    double.IsFinite := by
  rw [mul_eq] at isProduct
  exact isFinite_of_ofRatio (ratio_eq 1 (left.exponent + right.exponent)).1 isProduct

section Quotients

variable {left right : Double}

theorem div_eq
    (left right : Double) :
    left.div right = ofRatio left.negative
      (left.significand * (ratio 1 (left.exponent - right.exponent)).1)
      (right.significand * (ratio 1 (left.exponent - right.exponent)).2) := rfl

theorem quotient_eq
    (left right : Double) :
    ((left.significand * (ratio 1 (left.exponent - right.exponent)).1 : Nat) : ℚ) /
        (right.significand * (ratio 1 (left.exponent - right.exponent)).2 : Nat) =
      left.magnitude / right.magnitude := by
  obtain ⟨positive, isPower⟩ := ratio_eq 1 (left.exponent - right.exponent)
  rw [Nat.cast_mul, Nat.cast_mul, mul_div_mul_comm, isPower, zpow_sub₀ two_ne_zero, magnitude,
    magnitude, mul_div_mul_comm, Nat.cast_one, one_mul]

/-- A quotient by a double above zero has a double, which is at most twice as large. -/
theorem div_spec
    (positive : 0 < right.significand) (inRange : left.magnitude / right.magnitude < limit) :
    ∃ quotient, left.div right = some quotient ∧
      quotient.magnitude ≤ 2 * (left.magnitude / right.magnitude) := by
  obtain ⟨ratioPositive, _⟩ := ratio_eq 1 (left.exponent - right.exponent)
  have below := Nat.mul_pos positive ratioPositive
  rw [← quotient_eq] at inRange ⊢
  obtain ⟨quotient, isQuotient⟩ :=
    Option.isSome_iff_exists.mp (ofRatio_isSome left.negative below inRange)
  exact ⟨quotient, isQuotient, magnitude_le_of_ofRatio below isQuotient⟩

theorem isFinite_of_div
    {double : Double}
    (positive : 0 < right.significand) (isQuotient : left.div right = some double) :
    double.IsFinite := by
  rw [div_eq] at isQuotient
  exact isFinite_of_ofRatio
    (Nat.mul_pos positive (ratio_eq 1 (left.exponent - right.exponent)).1) isQuotient

end Quotients

/-- A natural number below the limit has a double close by. -/
theorem ofNat_spec
    {n : Nat} (negative : Bool)
    (positive : 0 < n) (inRange : (n : ℚ) < limit) :
    ∃ double, ofNat negative n = some double ∧ double.magnitude ≤ n * (1 + 1 / 2 ^ 53) ∧
      (n : ℚ) / 2 ≤ double.magnitude := by
  have asRatio : ((n : ℚ) / (1 : Nat)) = n := by simp
  obtain ⟨double, isDouble⟩ :=
    Option.isSome_iff_exists.mp (ofRatio_isSome negative Nat.one_pos (asRatio ▸ inRange))
  have atLeastOne : (1 : ℚ) ≤ (n : ℚ) / (1 : Nat) := by
    rw [asRatio]
    exact_mod_cast positive
  have close := roundedRatio_of_one_le Nat.one_pos atLeastOne
  rw [← magnitude_of_ofRatio positive isDouble, asRatio] at close
  exact ⟨double, isDouble, close⟩

/-! ## Scaling -/

theorem two_limit :
    2 * limit = (18014398509481983 : ℚ) * 2 ^ 971 := by
  rw [limit, highestExponent, show (2 : ℚ) ^ (971 : Int) = 2 ^ 971 from zpow_ofNat 2 971]
  generalize (2 : ℚ) ^ 971 = power
  ring

theorem ten_pow_lt_limit : (10 ^ 308 : ℚ) < limit := by
  have whole : 2 * 10 ^ 308 < 18014398509481983 * 2 ^ 971 := by decide +kernel
  have inRatios := (Nat.cast_lt (α := ℚ)).mpr whole
  rw [Nat.cast_mul, Nat.cast_mul, Nat.cast_pow, Nat.cast_pow, Nat.cast_ofNat, Nat.cast_ofNat,
    Nat.cast_ofNat, ← two_limit] at inRatios
  exact lt_of_mul_lt_mul_left inRatios (by decide)

theorem limit_lt_ten_pow : limit < 10 ^ 309 := by
  have whole : 18014398509481983 * 2 ^ 971 < 2 * 10 ^ 309 := by decide +kernel
  have inRatios := (Nat.cast_lt (α := ℚ)).mpr whole
  rw [Nat.cast_mul, Nat.cast_mul, Nat.cast_pow, Nat.cast_pow, Nat.cast_ofNat, Nat.cast_ofNat,
    Nat.cast_ofNat, ← two_limit] at inRatios
  exact lt_of_mul_lt_mul_left inRatios (by decide)

theorem moderate_lt_limit : (2 ^ 102 : ℚ) < limit :=
  calc (2 ^ 102 : ℚ) ≤ 10 ^ 31 := by norm_num
    _ ≤ 10 ^ 308 := pow_le_pow_right₀ (by norm_num) (by decide)
    _ < limit := ten_pow_lt_limit

/-- Each power of ten that scaling uses has a double close by. -/
theorem ofNat_ten_pow
    {places : Nat}
    (le : places ≤ longestScale) :
    ∃ double, ofNat false (Nat.pow 10 places) = some double ∧
      double.magnitude ≤ 10 ^ places * (1 + 1 / 2 ^ 53) ∧
      (10 ^ places : ℚ) / 2 ≤ double.magnitude ∧ 0 < double.significand := by
  have asRatio : ((Nat.pow 10 places : Nat) : ℚ) = 10 ^ places := by
    rw [Nat.pow_eq, Nat.cast_pow, Nat.cast_ofNat]
  have inRange : ((Nat.pow 10 places : Nat) : ℚ) < limit := by
    rw [asRatio]
    exact (pow_le_pow_right₀ (by norm_num) le).trans_lt ten_pow_lt_limit
  have positive : 0 < Nat.pow 10 places := Nat.pow_pos (by decide)
  obtain ⟨double, isDouble, above, below⟩ := ofNat_spec false positive inRange
  rw [asRatio] at above below
  refine ⟨double, isDouble, above, below, ?_⟩
  by_contra isZero
  rw [magnitude, Nat.eq_zero_of_not_pos isZero, Nat.cast_zero, zero_mul] at below
  have powerPositive : (0 : ℚ) < 10 ^ places := by positivity
  exact absurd below (not_le.mpr (half_pos powerPositive))

/-- Nothing moderate is scaled down beyond the limit. -/
theorem scaleDown_isSome
    {value : Double} {down steps : Nat}
    (moderate : value.magnitude ≤ 2 ^ 100) :
    (value.scaleDown down steps).isSome = true := by
  induction steps generalizing value down with
  | zero => rfl
  | succ steps inductionHypothesis =>
    rw [scaleDown]
    by_cases isZero : value.significand = 0
    · rw [if_pos isZero]
      rfl
    rw [if_neg isZero]
    have valueNonneg := value.magnitude_nonneg
    by_cases isLast : down ≤ longestScale
    · obtain ⟨power, isPower, _, large, positive⟩ := ofNat_ten_pow isLast
      have atLeastOne : (1 : ℚ) ≤ 10 ^ down := one_le_pow₀ (by norm_num)
      have inRange : value.magnitude / power.magnitude < limit := by
        have small : value.magnitude / power.magnitude ≤ 2 ^ 101 := by
          rw [div_le_iff₀ (by linarith)]
          linarith
        exact (small.trans (by norm_num)).trans_lt moderate_lt_limit
      obtain ⟨quotient, isQuotient, _⟩ := div_spec positive inRange
      rw [if_pos isLast, isPower]
      simp only [bind, Option.bind, isQuotient]
      rfl
    · obtain ⟨power, isPower, _, large, positive⟩ := ofNat_ten_pow (le_refl longestScale)
      have atLeastFour : (4 : ℚ) ≤ 10 ^ longestScale :=
        calc (4 : ℚ) ≤ 10 ^ 1 := by norm_num
          _ ≤ 10 ^ longestScale := pow_le_pow_right₀ (by norm_num) (by decide)
      have smaller : value.magnitude / power.magnitude ≤ value.magnitude / 2 := by
        rw [div_le_iff₀ (by linarith)]
        nlinarith
      have inRange : value.magnitude / power.magnitude < limit := by
        have large := moderate_lt_limit
        linarith
      obtain ⟨quotient, isQuotient, isSmall⟩ := div_spec positive inRange
      rw [if_neg isLast, isPower]
      simp only [bind, Option.bind, isQuotient]
      exact inductionHypothesis (by linarith)

theorem isFinite_of_scaleDown
    {value double : Double} {down steps : Nat}
    (isFinite : value.IsFinite) (isScaled : value.scaleDown down steps = some double) :
    double.IsFinite := by
  induction steps generalizing value down with
  | zero =>
    cases isScaled
    exact isFinite
  | succ steps inductionHypothesis =>
    rw [scaleDown] at isScaled
    split at isScaled
    · cases isScaled
      exact isFinite
    split at isScaled
    · rename_i isLast
      obtain ⟨power, isPower, _, _, positive⟩ := ofNat_ten_pow isLast
      rw [isPower] at isScaled
      exact isFinite_of_div positive isScaled
    · obtain ⟨power, isPower, _, _, positive⟩ := ofNat_ten_pow (le_refl longestScale)
      rw [isPower] at isScaled
      obtain ⟨quotient, isQuotient, further⟩ := Option.bind_eq_some_iff.mp
        (show (value.div power).bind _ = some double from isScaled)
      exact inductionHypothesis (isFinite_of_div positive isQuotient) further

/-- Scaled digits fit in 64 bits. -/
theorem isFinite_of_ofScaled
    {negative : Bool} {digits : Nat} {scale : Int} {double : Double}
    (isScaled : ofScaled negative digits scale = some double) :
    double.IsFinite := by
  obtain ⟨value, isValue, further⟩ := Option.bind_eq_some_iff.mp isScaled
  have isFinite : value.IsFinite := isFinite_of_ofRatio Nat.one_pos isValue
  split at further
  · cases further
    exact isFinite
  split at further
  · exact isFinite_of_scaleDown isFinite further
  split at further
  · obtain ⟨power, _, isProduct⟩ := Option.bind_eq_some_iff.mp further
    exact isFinite_of_mul isProduct
  · cases further

/-- A number of 64 bits times a power of ten has a double, unless it comes close to the limit. -/
theorem ofScaled_isSome
    (negative : Bool) {digits : Nat} {scale : Int}
    (positive : 0 < digits) (bounded : digits < 2 ^ 64)
    (inRange : 0 ≤ scale → (digits * 10 ^ scale : ℚ) * (1 + 1 / 2 ^ 53) ^ 2 < limit) :
    (ofScaled negative digits scale).isSome = true := by
  have digitsSmall : (digits : ℚ) ≤ 2 ^ 64 := by exact_mod_cast bounded.le
  have digitsBelow : (digits : ℚ) < limit :=
    (digitsSmall.trans (by norm_num)).trans_lt moderate_lt_limit
  have digitsPositive : (1 : ℚ) ≤ digits := by exact_mod_cast positive
  obtain ⟨value, isValue, close, _⟩ := ofNat_spec negative positive digitsBelow
  rw [ofScaled, isValue]
  simp only [bind, Option.bind]
  by_cases isZero : value.significand = 0
  · rw [if_pos isZero]
    rfl
  rw [if_neg isZero]
  by_cases down : scale < 0
  · rw [if_pos down]
    apply scaleDown_isSome
    have factor : (1 + 1 / 2 ^ 53 : ℚ) ≤ 2 := by norm_num
    have atMost : value.magnitude ≤ 2 ^ 65 := by nlinarith
    exact atMost.trans (by norm_num)
  · rw [if_neg down]
    have nonneg : 0 ≤ scale := by omega
    have small := inRange nonneg
    have asPower : (10 ^ scale : ℚ) = 10 ^ scale.natAbs := by
      obtain ⟨places, rfl⟩ := Int.eq_ofNat_of_zero_le nonneg
      rw [zpow_natCast, Int.natAbs_natCast]
    rw [asPower] at small
    have powerPositive : (0 : ℚ) < 10 ^ scale.natAbs := by positivity
    have places : scale.natAbs ≤ longestScale := by
      by_contra tooMany
      have large : (10 ^ 309 : ℚ) ≤ 10 ^ scale.natAbs :=
        pow_le_pow_right₀ (by norm_num) (by rw [longestScale] at tooMany; omega)
      have larger : (10 ^ scale.natAbs : ℚ) ≤
          digits * 10 ^ scale.natAbs * (1 + 1 / 2 ^ 53) ^ 2 :=
        calc (10 ^ scale.natAbs : ℚ) ≤ digits * 10 ^ scale.natAbs :=
              le_mul_of_one_le_left powerPositive.le digitsPositive
          _ ≤ digits * 10 ^ scale.natAbs * (1 + 1 / 2 ^ 53) ^ 2 :=
              le_mul_of_one_le_right (by positivity) (by norm_num)
      have beyond := limit_lt_ten_pow
      exact absurd (large.trans (larger.trans small.le)) (not_le.mpr beyond)
    obtain ⟨power, isPower, powerClose, _⟩ := ofNat_ten_pow places
    rw [if_pos places, isPower]
    apply mul_isSome
    calc value.magnitude * power.magnitude
        ≤ digits * (1 + 1 / 2 ^ 53) * (10 ^ scale.natAbs * (1 + 1 / 2 ^ 53)) :=
          mul_le_mul close powerClose power.magnitude_nonneg (by positivity)
      _ = digits * 10 ^ scale.natAbs * (1 + 1 / 2 ^ 53) ^ 2 := by ring
      _ < limit := small

end TestGate.Double
