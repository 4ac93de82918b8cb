import TestGate.Double.Shortest
import TestGate.Proofs.DoubleRounding

/-!
The decimals that doubles are written as. Main statement: the search for the shortest decimal comes
to an end within seventeen digits, at a decimal that is half a unit above the double at most.
-/

namespace TestGate.Double

/-! ## Powers of two and of ten -/

section Powers

variable {base other : ℚ} {low high whole : Nat} {x y : Int}

theorem zpow_anti
    (positive : 0 < base) (le : base ≤ other) (nonpos : y ≤ 0) :
    other ^ y ≤ base ^ y := by
  have otherPositive : 0 < other := positive.trans_le le
  have turned : (base ^ (-y) : ℚ) ≤ other ^ (-y) :=
    zpow_le_zpow_left₀ (show 0 ≤ -y by omega) positive.le le
  rwa [zpow_neg, zpow_neg, inv_le_inv₀ (by positivity) (by positivity)] at turned

/-- Powers of two bases compare as large powers of the bases do. -/
theorem zpow_le_zpow_of_pow
    (baseLarge : 1 ≤ base) (otherPositive : 0 < other) (wholePositive : whole ≠ 0)
    (isLow : base ^ low ≤ other ^ whole) (isHigh : other ^ whole ≤ base ^ high)
    (lowLe : whole * x ≤ low * y) (highLe : whole * x ≤ high * y) :
    base ^ x ≤ other ^ y := by
  have basePositive : 0 < base := by linarith
  refine le_of_pow_le_pow_left₀ wholePositive (by positivity) ?_
  have leftPower : (base ^ x) ^ whole = base ^ (whole * x) := by
    rw [mul_comm, zpow_mul, zpow_natCast]
  have rightPower : (other ^ y) ^ whole = (other ^ whole) ^ y := by
    rw [← zpow_natCast, ← zpow_natCast, zpow_comm]
  rw [leftPower, rightPower]
  by_cases nonneg : 0 ≤ y
  · calc base ^ (whole * x) ≤ base ^ (low * y) := zpow_le_zpow_right₀ baseLarge lowLe
      _ = (base ^ low) ^ y := by rw [zpow_mul, zpow_natCast]
      _ ≤ (other ^ whole) ^ y := zpow_le_zpow_left₀ nonneg (by positivity) isLow
  · calc base ^ (whole * x) ≤ base ^ (high * y) := zpow_le_zpow_right₀ baseLarge highLe
      _ = (base ^ high) ^ y := by rw [zpow_mul, zpow_natCast]
      _ ≤ (other ^ whole) ^ y := zpow_anti (by positivity) isHigh (by omega)

end Powers

/-- The logarithm of two to the base ten lies between these two fractions of 100000. -/
theorem log_bounds :
    (10 : ℚ) ^ 30102 ≤ 2 ^ 100000 ∧ (2 : ℚ) ^ 100000 ≤ 10 ^ 30103 := by
  have whole : 10 ^ 30102 ≤ 2 ^ 100000 ∧ 2 ^ 100000 ≤ 10 ^ 30103 := by decide +kernel
  have low := (Nat.cast_le (α := ℚ)).mpr whole.1
  have high := (Nat.cast_le (α := ℚ)).mpr whole.2
  rw [Nat.cast_pow, Nat.cast_pow, Nat.cast_ofNat, Nat.cast_ofNat] at low high
  exact ⟨low, high⟩

theorem ten_zpow_le_two_zpow
    {x y : Int}
    (lowLe : 100000 * x ≤ 30102 * y) (highLe : 100000 * x ≤ 30103 * y) :
    (10 ^ x : ℚ) ≤ 2 ^ y :=
  zpow_le_zpow_of_pow (by norm_num) (by norm_num) (by decide) log_bounds.1 log_bounds.2
    lowLe highLe

theorem two_zpow_le_ten_zpow
    {x y : Int}
    (lowLe : 30102 * y ≤ 100000 * x) (highLe : 30103 * y ≤ 100000 * x) :
    (2 ^ y : ℚ) ≤ 10 ^ x := by
  have turned : (10 ^ (-x) : ℚ) ≤ 2 ^ (-y) := ten_zpow_le_two_zpow (by omega) (by omega)
  rwa [zpow_neg, zpow_neg, inv_le_inv₀ (by positivity) (by positivity)] at turned

/-! ## The decimal point -/

section Points

variable {numerator denominator : Nat}

/-- One step of the search compares the ratio with a power of ten. -/
theorem pointFrom_succ
    (positive : 0 < denominator) (start : Int) (steps : Nat) :
    pointFrom numerator denominator start (steps + 1) =
      if (numerator / denominator : ℚ) < 10 ^ start then start
      else pointFrom numerator denominator (start + 1) steps := by
  have isPositive : (0 : ℚ) < denominator := by exact_mod_cast positive
  rw [pointFrom]
  by_cases nonneg : 0 ≤ start
  · have power : (10 : ℚ) ^ start = (10 ^ start.toNat : Nat) := zpow_of_nonneg nonneg
    have isBelow : numerator < denominator * Nat.pow 10 start.toNat ↔
        (numerator / denominator : ℚ) < 10 ^ start := by
      rw [div_lt_iff₀ isPositive, power, Nat.pow_eq, mul_comm denominator]
      exact_mod_cast Iff.rfl
    simp only [if_pos nonneg, isBelow]
  · have power : (10 : ℚ) ^ start = ((10 ^ (-start).toNat : Nat) : ℚ)⁻¹ :=
      zpow_of_negative nonneg
    have powerPositive : (0 : ℚ) < (10 ^ (-start).toNat : Nat) := by positivity
    have isBelow : numerator * Nat.pow 10 (-start).toNat < denominator ↔
        (numerator / denominator : ℚ) < 10 ^ start := by
      rw [div_lt_iff₀ isPositive, power, Nat.pow_eq, inv_mul_eq_div, lt_div_iff₀ powerPositive]
      exact_mod_cast Iff.rfl
    simp only [if_neg nonneg, isBelow]

/-- The point that is found is the least one from the start on. -/
theorem pointFrom_spec
    (positive : 0 < denominator) {start : Int} {steps : Nat}
    (inReach : (numerator / denominator : ℚ) < 10 ^ (start + steps)) :
    (numerator / denominator : ℚ) < 10 ^ pointFrom numerator denominator start steps ∧
      (pointFrom numerator denominator start steps = start ∨
        10 ^ (pointFrom numerator denominator start steps - 1) ≤
          (numerator / denominator : ℚ)) := by
  induction steps generalizing start with
  | zero =>
    rw [Nat.cast_zero, add_zero] at inReach
    exact ⟨inReach, Or.inl rfl⟩
  | succ steps inductionHypothesis =>
    rw [pointFrom_succ positive]
    by_cases isBelow : (numerator / denominator : ℚ) < 10 ^ start
    · rw [if_pos isBelow]
      exact ⟨isBelow, Or.inl rfl⟩
    · rw [if_neg isBelow]
      have further : start + 1 + steps = start + (steps + 1 : Nat) := by push_cast; ring
      obtain ⟨high, isNext | low⟩ := inductionHypothesis (further ▸ inReach)
      · refine ⟨high, Or.inr ?_⟩
        rw [isNext, add_sub_cancel_right]
        exact not_lt.mp isBelow
      · exact ⟨high, Or.inr low⟩

/-- The point is right for all ratios that are not extremely large or small. -/
theorem decimalPoint_spec
    (numeratorPositive : 0 < numerator) (positive : 0 < denominator)
    (large : (2 ^ (-2000 : Int) : ℚ) ≤ numerator / denominator)
    (small : (numerator / denominator : ℚ) < 2 ^ (2000 : Int)) :
    (10 ^ (decimalPoint numerator denominator - 1) : ℚ) ≤ numerator / denominator ∧
      (numerator / denominator : ℚ) < 10 ^ decimalPoint numerator denominator := by
  obtain ⟨low, high⟩ := log2_bounds numeratorPositive positive
  rw [decimalPoint]
  generalize (numerator.log2 : Int) - denominator.log2 = binary at *
  have bounds : -2001 < binary ∧ binary < 2001 := by
    have below := (zpow_lt_zpow_iff_right₀ one_lt_two).mp (large.trans_lt high)
    have above := (zpow_lt_zpow_iff_right₀ one_lt_two).mp (low.trans small)
    omega
  have isFloor := Int.ediv_mul_add_emod (binary * 30103) 100000
  have rest := Int.emod_nonneg (binary * 30103) (show (100000 : Int) ≠ 0 by decide)
  have lessRest := Int.emod_lt_of_pos (binary * 30103) (show (0 : Int) < 100000 by decide)
  have sameDiv : Int.fdiv (binary * 30103) 100000 = binary * 30103 / 100000 :=
    Int.fdiv_eq_ediv_of_nonneg _ (by decide)
  generalize isStart : Int.fdiv (binary * 30103) 100000 - 1 = start
  have inReach : (numerator / denominator : ℚ) < 10 ^ (start + (8 : Nat)) :=
    high.trans_le (two_zpow_le_ten_zpow (by omega) (by omega))
  obtain ⟨above, isFirst | below⟩ := pointFrom_spec positive inReach
  · rw [isFirst] at above ⊢
    exact ⟨(ten_zpow_le_two_zpow (by omega) (by omega)).trans low.le, above⟩
  · exact ⟨below, above⟩

end Points

/-! ## Decimal grids -/

namespace Neighbourhood

/-- The least of what rounds to the double. -/
def lower (area : Neighbourhood) : ℚ :=
  area.low / area.denominator

/-- The double itself. -/
def middle (area : Neighbourhood) : ℚ :=
  area.value / area.denominator

/-- The most of what rounds to the double. -/
def upper (area : Neighbourhood) : ℚ :=
  area.high / area.denominator

/-- Whether an amount rounds to the double. -/
def contains (area : Neighbourhood) (amount : ℚ) : Bool :=
  if area.endsIncluded then
    area.lower ≤ amount && amount ≤ area.upper
  else
    area.lower < amount && amount < area.upper

theorem le_upper
    {area : Neighbourhood} {amount : ℚ}
    (contained : area.contains amount = true) :
    amount ≤ area.upper := by
  rw [contains] at contained
  split at contained
  · rw [Bool.and_eq_true, decide_eq_true_eq, decide_eq_true_eq] at contained
    exact contained.2
  · rw [Bool.and_eq_true, decide_eq_true_eq, decide_eq_true_eq] at contained
    exact contained.2.le

theorem contains_of_between
    {area : Neighbourhood} {amount : ℚ}
    (above : area.lower < amount) (below : amount < area.upper) :
    area.contains amount = true := by
  rw [contains]
  split
  · simp [above.le, below.le]
  · simp [above, below]

end Neighbourhood

/-- A power of ten as a ratio of two numbers, one of which is one. -/
def gridRatio (places : Int) : Nat × Nat :=
  if 0 ≤ places then (1, Nat.pow 10 places.toNat) else (Nat.pow 10 (-places).toNat, 1)

theorem gridRatio_spec
    (places : Int) :
    0 < (gridRatio places).1 ∧ 0 < (gridRatio places).2 ∧
      (10 ^ places : ℚ) = (gridRatio places).2 / (gridRatio places).1 := by
  rw [gridRatio]
  by_cases nonneg : 0 ≤ places
  · have power : (10 : ℚ) ^ places = (10 ^ places.toNat : Nat) := zpow_of_nonneg nonneg
    rw [if_pos nonneg, power]
    exact ⟨Nat.one_pos, Nat.pow_pos (by decide), by simp⟩
  · have power : (10 : ℚ) ^ places = ((10 ^ (-places).toNat : Nat) : ℚ)⁻¹ :=
      zpow_of_negative nonneg
    rw [if_neg nonneg, power]
    exact ⟨Nat.pow_pos (by decide), Nat.one_pos, by simp⟩

section Grids

variable {denominator up down : Nat}

/-- Amounts over a denominator are compared with multiples of a unit in natural numbers. -/
theorem div_le_mul_iff
    (positive : 0 < denominator) (upPositive : 0 < up) (down amount digits : Nat) :
    ((amount : ℚ) / denominator ≤ digits * (down / up) ↔
        amount * up ≤ digits * (denominator * down)) ∧
      (digits * (down / up) ≤ (amount : ℚ) / denominator ↔
        digits * (denominator * down) ≤ amount * up) := by
  have denominatorPositive : (0 : ℚ) < denominator := by exact_mod_cast positive
  have isPositive : (0 : ℚ) < up := by exact_mod_cast upPositive
  have reordered : digits * (denominator * down) = digits * down * denominator := by ring
  rw [reordered, ← mul_div_assoc, div_le_div_iff₀ denominatorPositive isPositive,
    div_le_div_iff₀ isPositive denominatorPositive]
  exact ⟨by exact_mod_cast Iff.rfl, by exact_mod_cast Iff.rfl⟩

/-- Whether a number on a grid rounds to the double. -/
theorem contains_iff
    {area : Neighbourhood}
    (positive : 0 < area.denominator) (upPositive : 0 < up) (digits : Nat) :
    area.contains (digits * (down / up)) =
      if area.endsIncluded then
        area.low * up ≤ digits * (area.denominator * down) &&
          digits * (area.denominator * down) ≤ area.high * up
      else
        area.low * up < digits * (area.denominator * down) &&
          digits * (area.denominator * down) < area.high * up := by
  have low := div_le_mul_iff positive upPositive down area.low digits
  have high := div_le_mul_iff positive upPositive down area.high digits
  simp only [Neighbourhood.contains, Neighbourhood.lower, Neighbourhood.upper]
  simp only [← not_le, low.1, low.2, high.1, high.2]

theorem find?_three
    (test : Nat → Bool) (a b c : Nat) :
    [a, b, c].find? test =
      if test a then some a else if test b then some b else if test c then some c else none := by
  cases isFirst : test a with
  | true => simp [isFirst]
  | false =>
    cases isSecond : test b with
    | true => simp [isFirst, isSecond]
    | false => cases isThird : test c with
      | true => simp [isFirst, isSecond, isThird]
      | false => simp [isFirst, isSecond, isThird]

/-- The three numbers that are tried on a grid. -/
theorem onGrid?_eq
    {area : Neighbourhood}
    (positive : 0 < area.denominator) (point : Int) (count : Nat) :
    ∃ floor nearest : Nat,
      (floor : ℚ) * 10 ^ (point - count) ≤ area.middle ∧
      area.middle < (floor + 1 : Nat) * 10 ^ (point - count) ∧
      (nearest = floor ∨ nearest = floor + 1) ∧
      |(nearest : ℚ) * 10 ^ (point - count) - area.middle| ≤ 10 ^ (point - count) / 2 ∧
      onGrid? area point count = [nearest, floor, floor + 1].find? fun digits : Nat =>
        area.contains (digits * 10 ^ (point - count)) := by
  obtain ⟨upPositive, downPositive, isUnit⟩ := gridRatio_spec (point - count)
  rw [onGrid?]
  simp only
  rw [← gridRatio]
  generalize gridRatio (point - count) = sides at *
  obtain ⟨up, down⟩ := sides
  simp only at upPositive downPositive isUnit ⊢
  rw [isUnit]
  have unitPositive : 0 < area.denominator * down := Nat.mul_pos positive downPositive
  generalize isFloor : area.value * up / (area.denominator * down) = floor
  have floorLe := Nat.div_mul_le_self (area.value * up) (area.denominator * down)
  have ltNext := Nat.lt_mul_div_succ (area.value * up) unitPositive
  rw [isFloor] at floorLe ltNext
  refine ⟨floor, roundDiv (area.value * up) (area.denominator * down), ?_, ?_, ?_, ?_, ?_⟩
  · exact (div_le_mul_iff positive upPositive down area.value floor).2.mpr floorLe
  · rw [← not_le]
    refine mt (div_le_mul_iff positive upPositive down area.value (floor + 1)).2.mp ?_
    rw [not_le, mul_comm (floor + 1)]
    exact ltNext
  · rw [← isFloor]
    exact roundDiv_cases _ _
  · have near := roundDiv_near (area.value * up) unitPositive
    have stepPositive : (0 : ℚ) < down / up :=
      div_pos (by exact_mod_cast downPositive) (by exact_mod_cast upPositive)
    have isMiddle : area.middle =
        ((area.value * up : Nat) : ℚ) / (area.denominator * down : Nat) * (down / up) := by
      have denominatorNonzero : (area.denominator : ℚ) ≠ 0 := by exact_mod_cast positive.ne'
      have upNonzero : (up : ℚ) ≠ 0 := by exact_mod_cast upPositive.ne'
      have downNonzero : (down : ℚ) ≠ 0 := by exact_mod_cast downPositive.ne'
      rw [Neighbourhood.middle]
      push_cast
      field_simp
    have distance : |(roundDiv (area.value * up) (area.denominator * down) : ℚ) -
        (area.value * up : Nat) / (area.denominator * down : Nat)| ≤ 1 / 2 :=
      abs_le.mpr ⟨by linarith, by linarith⟩
    rw [isMiddle, ← sub_mul, abs_mul, abs_of_pos stepPositive]
    calc _ ≤ 1 / 2 * (down / up : ℚ) := mul_le_mul_of_nonneg_right distance stepPositive.le
      _ = down / up / 2 := by ring
  · rw [find?_three]
    simp only [contains_iff positive upPositive]

end Grids

section Search

variable {area : Neighbourhood} {point : Int} {count : Nat}

/-- What is found on a grid has as many digits as the grid, or is the next power of ten. -/
theorem onGrid?_spec
    {digits : Nat}
    (positive : 0 < area.denominator) (countPositive : 0 < count)
    (low : 10 ^ (point - 1) ≤ area.middle) (high : area.middle < 10 ^ point)
    (found : onGrid? area point count = some digits) :
    10 ^ (count - 1) ≤ digits ∧ digits ≤ 10 ^ count ∧
      (digits : ℚ) * 10 ^ (point - count) ≤ area.upper := by
  obtain ⟨floor, nearest, floorLe, ltNext, isNearest, _, same⟩ := onGrid?_eq positive point count
  rw [same] at found
  have contained := List.find?_some found
  have isTried := List.mem_of_find?_eq_some found
  have unitPositive : (0 : ℚ) < 10 ^ (point - count) := by positivity
  have floorLow : 10 ^ (count - 1) ≤ floor := by
    have below : ((10 ^ (count - 1) : Nat) : ℚ) * 10 ^ (point - count) = 10 ^ (point - 1) := by
      rw [Nat.cast_pow, Nat.cast_ofNat, ← zpow_natCast, ← zpow_add₀ (by norm_num)]
      congr 1
      omega
    have less := lt_of_mul_lt_mul_right ((below.trans_le low).trans_lt ltNext) unitPositive.le
    have whole : 10 ^ (count - 1) < floor + 1 := by exact_mod_cast less
    omega
  have floorHigh : floor < 10 ^ count := by
    have above : ((10 ^ count : Nat) : ℚ) * 10 ^ (point - count) = 10 ^ point := by
      rw [Nat.cast_pow, Nat.cast_ofNat, ← zpow_natCast, ← zpow_add₀ (by norm_num)]
      congr 1
      omega
    have less := lt_of_mul_lt_mul_right (floorLe.trans_lt (high.trans_eq above.symm))
      unitPositive.le
    exact_mod_cast less
  have isFloorOrNext : digits = floor ∨ digits = floor + 1 := by
    simp only [List.mem_cons, List.not_mem_nil, or_false] at isTried
    omega
  exact ⟨by omega, by omega, Neighbourhood.le_upper contained⟩

/-- The nearest number on a grid that is fine enough rounds to the double. -/
theorem onGrid?_isSome
    (positive : 0 < area.denominator)
    (roomBelow : (10 ^ (point - count) : ℚ) / 2 < area.middle - area.lower)
    (roomAbove : (10 ^ (point - count) : ℚ) / 2 < area.upper - area.middle) :
    (onGrid? area point count).isSome = true := by
  obtain ⟨floor, nearest, _, _, _, near, same⟩ := onGrid?_eq positive point count
  obtain ⟨notBelow, notAbove⟩ := abs_le.mp near
  rw [same, List.find?_isSome]
  exact ⟨nearest, List.mem_cons_self,
    Neighbourhood.contains_of_between (by linarith) (by linarith)⟩

/-- Whether a decimal has so many digits and is at most some amount. -/
structure Decimal.Spans (decimal : Decimal) (length : Nat) (bound : ℚ) : Prop where
  positive : 0 < length
  low : 10 ^ (length - 1) ≤ decimal.digits
  high : decimal.digits < 10 ^ length
  bounded : (decimal.digits : ℚ) * 10 ^ (decimal.point - length) ≤ bound

/-- What is found on a grid is written with as many digits as the grid. -/
theorem spans_of_onGrid?
    {digits : Nat}
    (positive : 0 < area.denominator) (countPositive : 0 < count)
    (low : 10 ^ (point - 1) ≤ area.middle) (high : area.middle < 10 ^ point)
    (found : onGrid? area point count = some digits) :
    Decimal.Spans
      (if digits = Nat.pow 10 count then ⟨Nat.pow 10 (count - 1), point + 1⟩ else ⟨digits, point⟩)
      count area.upper := by
  obtain ⟨digitsLow, digitsHigh, bounded⟩ := onGrid?_spec positive countPositive low high found
  rw [Nat.pow_eq, Nat.pow_eq]
  by_cases isNext : digits = 10 ^ count
  · rw [if_pos isNext]
    refine ⟨countPositive, le_refl _, Nat.pow_lt_pow_right (by decide) (by omega), ?_⟩
    have sameAmount : ((10 ^ (count - 1) : Nat) : ℚ) * 10 ^ (point + 1 - count) =
        digits * 10 ^ (point - count) := by
      rw [isNext, Nat.cast_pow, Nat.cast_pow, Nat.cast_ofNat, ← zpow_natCast, ← zpow_natCast,
        ← zpow_add₀ (by norm_num), ← zpow_add₀ (by norm_num)]
      congr 1
      omega
    exact sameAmount.trans_le bounded
  · rw [if_neg isNext]
    exact ⟨countPositive, digitsLow, by change digits < 10 ^ count; omega, bounded⟩

/-- The search ends at a decimal, if one of the grids is fine enough. -/
theorem shortestFrom_spec
    {steps : Nat}
    (positive : 0 < area.denominator) (countPositive : 0 < count)
    (low : 10 ^ (point - 1) ≤ area.middle) (high : area.middle < 10 ^ point)
    (succeeds : (onGrid? area point (count + steps)).isSome = true) :
    ∃ length ≤ count + steps,
      (shortestFrom area point count (steps + 1)).Spans length area.upper := by
  induction steps generalizing count with
  | zero =>
    obtain ⟨digits, found⟩ := Option.isSome_iff_exists.mp succeeds
    rw [Nat.add_zero] at found
    refine ⟨count, le_refl _, ?_⟩
    simp only [shortestFrom, found]
    exact spans_of_onGrid? positive countPositive low high found
  | succ steps inductionHypothesis =>
    rw [shortestFrom]
    cases found : onGrid? area point count with
    | some digits =>
      exact ⟨count, by omega, spans_of_onGrid? positive countPositive low high found⟩
    | none =>
      have further : count + (steps + 1) = count + 1 + steps := by omega
      rw [further] at succeeds ⊢
      exact inductionHypothesis (by omega) succeeds

end Search

/-! ## Doubles -/

section Doubles

variable {double : Double}

/-- What rounds to a double reaches half a unit up, and at least a quarter of a unit down. -/
theorem neighbourhood_spec
    (positive : 0 < double.significand) :
    0 < (neighbourhood double).denominator ∧
      (neighbourhood double).middle = double.magnitude ∧
      (neighbourhood double).upper = double.magnitude + 2 ^ double.exponent / 2 ∧
      ((neighbourhood double).lower = double.magnitude - 2 ^ double.exponent / 2 ∨
        double.significand = 2 ^ 52 ∧
          (neighbourhood double).lower = double.magnitude - 2 ^ double.exponent / 4) := by
  obtain ⟨denominatorPositive, isPower⟩ := ratio_eq 1 (double.exponent - 2)
  have quarter : ∀ amount : Nat, ((amount * (ratio 1 (double.exponent - 2)).1 : Nat) : ℚ) /
      (ratio 1 (double.exponent - 2)).2 = amount * (2 ^ double.exponent / 4) := by
    intro amount
    rw [Nat.cast_mul, mul_div_assoc, isPower, zpow_sub₀ two_ne_zero]
    norm_num
  refine ⟨denominatorPositive, ?_, ?_, ?_⟩
  · rw [Neighbourhood.middle, neighbourhood, quarter, magnitude]
    push_cast
    ring
  · rw [Neighbourhood.upper, neighbourhood, quarter, magnitude]
    push_cast
    ring
  · rw [Neighbourhood.lower, neighbourhood, quarter, magnitude]
    split
    · rename_i isPowerOfTwo
      refine Or.inr ⟨isPowerOfTwo.1, ?_⟩
      rw [Nat.cast_sub (by omega)]
      push_cast
      ring
    · refine Or.inl ?_
      rw [Nat.cast_sub (by omega)]
      push_cast
      ring

/-- A grid of seventeen digits is fine enough for any double. -/
theorem onGrid?_seventeen
    {point : Int}
    (isFinite : double.IsFinite) (positive : 0 < double.significand)
    (low : 10 ^ (point - 1) ≤ double.magnitude) :
    (onGrid? (neighbourhood double) point 17).isSome = true := by
  obtain ⟨denominatorPositive, isMiddle, isUpper, isLower⟩ := neighbourhood_spec positive
  have unitPositive : (0 : ℚ) < 2 ^ double.exponent := by positivity
  have scaled : (10 ^ 16 : ℚ) * 10 ^ (point - (17 : Nat)) = 10 ^ (point - 1) := by
    rw [← zpow_natCast, ← zpow_add₀ (by norm_num)]
    congr 1
    push_cast
    ring
  rw [← scaled] at low
  have atMost : double.magnitude ≤ 2 ^ 53 * 2 ^ double.exponent := by
    refine mul_le_mul_of_nonneg_right ?_ unitPositive.le
    exact_mod_cast isFinite.significand.le
  have isFine : (10 ^ (point - (17 : Nat)) : ℚ) < 2 ^ double.exponent := by
    generalize (10 : ℚ) ^ (point - (17 : Nat)) = step at *
    generalize (2 : ℚ) ^ double.exponent = unit at *
    linarith
  apply onGrid?_isSome denominatorPositive
  · rcases isLower with isLower | ⟨isPowerOfTwo, isLower⟩
    · rw [isMiddle, isLower, sub_sub_cancel]
      exact div_lt_div_of_pos_right isFine two_pos
    · have isPower : double.magnitude = 2 ^ 52 * 2 ^ double.exponent := by
        rw [magnitude, isPowerOfTwo]
        push_cast
        rfl
      rw [isMiddle, isLower, sub_sub_cancel]
      generalize (10 : ℚ) ^ (point - (17 : Nat)) = step at *
      generalize (2 : ℚ) ^ double.exponent = unit at *
      linarith
  · rw [isMiddle, isUpper, add_sub_cancel_left]
    exact div_lt_div_of_pos_right isFine two_pos

/-- The shortest decimal of a double has at most seventeen digits and is at most half a unit above
the double. -/
theorem shortest_spans
    (isFinite : double.IsFinite) (positive : 0 < double.significand) :
    ∃ length ≤ 17,
      double.shortest.Spans length (double.magnitude + 2 ^ double.exponent / 2) := by
  obtain ⟨denominatorPositive, isMiddle, isUpper, isLower⟩ := neighbourhood_spec positive
  have unitPositive : (0 : ℚ) < 2 ^ double.exponent := by positivity
  have atLeastOne : (1 : ℚ) ≤ double.significand := by exact_mod_cast positive
  have atMost : (double.significand : ℚ) < 2 ^ 53 := by exact_mod_cast isFinite.significand
  have large : (2 ^ (-2000 : Int) : ℚ) ≤ double.magnitude :=
    calc (2 ^ (-2000 : Int) : ℚ) ≤ 2 ^ double.exponent :=
          two_zpow_mono (by have low := isFinite.low; rw [lowestExponent] at low; omega)
      _ ≤ double.magnitude := le_mul_of_one_le_left unitPositive.le atLeastOne
  have small : double.magnitude < 2 ^ (2000 : Int) :=
    calc double.magnitude < 2 ^ 53 * 2 ^ double.exponent :=
          mul_lt_mul_of_pos_right atMost unitPositive
      _ ≤ 2 ^ (2000 : Int) := by
          have high := isFinite.high
          rw [highestExponent] at high
          rw [two_pow_mul]
          exact two_zpow_mono (by omega)
  have valuePositive : 0 < (neighbourhood double).value := by
    by_contra isZero
    have noMiddle : (neighbourhood double).middle = 0 := by
      rw [Neighbourhood.middle, Nat.eq_zero_of_not_pos isZero, Nat.cast_zero, zero_div]
    rw [← isMiddle, noMiddle] at large
    exact absurd large (not_le.mpr (by positivity))
  rw [← isMiddle] at large small
  obtain ⟨low, high⟩ := decimalPoint_spec valuePositive denominatorPositive large small
  have succeeds : (onGrid? (neighbourhood double) (decimalPoint (neighbourhood double).value
      (neighbourhood double).denominator) (1 + 16)).isSome = true :=
    onGrid?_seventeen isFinite positive (low.trans_eq isMiddle)
  rw [← isUpper]
  exact shortestFrom_spec denominatorPositive Nat.one_pos low high succeeds

/-- The two doubles that come closest to the limit have a double again. -/
theorem ofScaled_largest_isSome
    (negative : Bool)
    (isHighest : double.exponent = highestExponent)
    (large : double.significand ∈ [2 ^ 53 - 1, 2 ^ 53 - 2]) :
    10 ^ 16 ≤ double.shortest.digits ∧
      (ofScaled negative double.shortest.digits (double.shortest.point - (17 : Nat))).isSome =
        true := by
  have all : ∀ sign ∈ [true, false], ∀ significand ∈ [2 ^ 53 - 1, 2 ^ 53 - 2],
      10 ^ 16 ≤ (shortest ⟨sign, significand, highestExponent⟩).digits ∧
        ∀ negative ∈ [true, false],
          (ofScaled negative (shortest ⟨sign, significand, highestExponent⟩).digits
            ((shortest ⟨sign, significand, highestExponent⟩).point - (17 : Nat))).isSome =
              true := by
    decide +kernel
  obtain ⟨sign, significand, exponent⟩ := double
  cases isHighest
  have anySign : ∀ sign : Bool, sign ∈ [true, false] := by decide
  obtain ⟨atLeast, isSome⟩ := all sign (anySign sign) significand large
  exact ⟨atLeast, isSome negative (anySign negative)⟩

/-- Any other double, with half a unit more, stays below the limit. -/
theorem inRange_of_not_largest
    (isFinite : double.IsFinite)
    (notLargest : ¬ (double.exponent = highestExponent ∧
      double.significand ∈ [2 ^ 53 - 1, 2 ^ 53 - 2])) :
    (double.magnitude + 2 ^ double.exponent / 2) * (1 + 1 / 2 ^ 53) ^ 2 < limit := by
  have unitPositive : (0 : ℚ) < 2 ^ double.exponent := by positivity
  have highest : (0 : ℚ) < 2 ^ highestExponent := by positivity
  have atMost : (double.significand : ℚ) + 1 ≤ 2 ^ 53 := by exact_mod_cast isFinite.significand
  by_cases isHighest : double.exponent = highestExponent
  · have smaller : double.significand + 3 ≤ 2 ^ 53 := by
      have bound := isFinite.significand
      simp only [List.mem_cons, List.not_mem_nil, or_false, not_and] at notLargest
      have other := notLargest isHighest
      omega
    have atMostLess : (double.significand : ℚ) + 3 ≤ 2 ^ 53 := by exact_mod_cast smaller
    have bounded : ((double.significand : ℚ) + 1 / 2) * (1 + 1 / 2 ^ 53) ^ 2 < 2 ^ 53 - 1 / 2 :=
      calc ((double.significand : ℚ) + 1 / 2) * (1 + 1 / 2 ^ 53) ^ 2
          ≤ (2 ^ 53 - 5 / 2) * (1 + 1 / 2 ^ 53) ^ 2 :=
            mul_le_mul_of_nonneg_right (by linarith) (by positivity)
        _ < 2 ^ 53 - 1 / 2 := by norm_num
    calc (double.magnitude + 2 ^ double.exponent / 2) * (1 + 1 / 2 ^ 53) ^ 2
        = ((double.significand : ℚ) + 1 / 2) * (1 + 1 / 2 ^ 53) ^ 2 * 2 ^ highestExponent := by
          rw [magnitude, isHighest]
          ring
      _ < (2 ^ 53 - 1 / 2) * 2 ^ highestExponent := mul_lt_mul_of_pos_right bounded highest
      _ = limit := rfl
  · have half : (2 ^ double.exponent * 2 : ℚ) ≤ 2 ^ highestExponent := by
      rw [← zpow_add_one₀ two_ne_zero]
      have high := isFinite.high
      exact two_zpow_mono (by omega)
    have bounded : ((double.significand : ℚ) + 1 / 2) * (1 + 1 / 2 ^ 53) ^ 2 <
        2 * (2 ^ 53 - 1 / 2) :=
      calc ((double.significand : ℚ) + 1 / 2) * (1 + 1 / 2 ^ 53) ^ 2
          ≤ 2 ^ 53 * (1 + 1 / 2 ^ 53) ^ 2 :=
            mul_le_mul_of_nonneg_right (by linarith) (by positivity)
        _ < 2 * (2 ^ 53 - 1 / 2) := by norm_num
    calc (double.magnitude + 2 ^ double.exponent / 2) * (1 + 1 / 2 ^ 53) ^ 2
        = ((double.significand : ℚ) + 1 / 2) * (1 + 1 / 2 ^ 53) ^ 2 * 2 ^ double.exponent := by
          rw [magnitude]
          ring
      _ < 2 * (2 ^ 53 - 1 / 2) * 2 ^ double.exponent :=
          mul_lt_mul_of_pos_right bounded unitPositive
      _ = (2 ^ 53 - 1 / 2) * (2 ^ double.exponent * 2) := by ring
      _ ≤ (2 ^ 53 - 1 / 2) * 2 ^ highestExponent :=
          mul_le_mul_of_nonneg_left half (by norm_num)
      _ = limit := rfl

/-- The digits of the shortest decimal, scaled as its point says, have a double again. -/
theorem ofScaled_shortest_isSome
    {length : Nat} (negative : Bool)
    (isFinite : double.IsFinite) (le : length ≤ 17)
    (spans : double.shortest.Spans length (double.magnitude + 2 ^ double.exponent / 2)) :
    (ofScaled negative double.shortest.digits (double.shortest.point - length)).isSome = true := by
  by_cases isLargest : double.exponent = highestExponent ∧
      double.significand ∈ [2 ^ 53 - 1, 2 ^ 53 - 2]
  · obtain ⟨atLeast, isSome⟩ := ofScaled_largest_isSome negative isLargest.1 isLargest.2
    have longer : 16 < length := (Nat.pow_lt_pow_iff_right (by decide)).mp
      (atLeast.trans_lt spans.high)
    obtain rfl : length = 17 := by omega
    exact isSome
  · have positive : 0 < double.shortest.digits :=
      (Nat.pow_pos (by decide)).trans_le spans.low
    have bounded : double.shortest.digits < 2 ^ 64 :=
      calc double.shortest.digits < 10 ^ length := spans.high
        _ ≤ 10 ^ 17 := Nat.pow_le_pow_right (by decide) le
        _ < 2 ^ 64 := by decide
    refine ofScaled_isSome negative positive bounded fun _ => ?_
    calc _ ≤ (double.magnitude + 2 ^ double.exponent / 2) * (1 + 1 / 2 ^ 53) ^ 2 :=
          mul_le_mul_of_nonneg_right spans.bounded (by positivity)
      _ < limit := inRange_of_not_largest isFinite isLargest

end Doubles

end TestGate.Double
