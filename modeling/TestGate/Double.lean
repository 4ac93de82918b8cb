/-!
Finite binary numbers of 64 bits, with the one rounding that all their operations share: a ratio of
natural numbers goes to the nearest double, and a tie goes to the even neighbour.
-/

namespace TestGate

/-- The number `± significand · 2 ^ exponent`. The significand has 53 bits, or fewer at the lowest
exponent, `-1074`; so each double but zero has one form, and zero has one for either sign. -/
structure Double where
  negative : Bool
  significand : Nat
  exponent : Int
deriving DecidableEq, Repr, Inhabited

namespace Double

/-- The exponent of the smallest double above zero. -/
def lowestExponent : Int := -1074

/-- The exponent of the largest doubles. -/
def highestExponent : Int := 971

/-- Zero with a sign. -/
def zero (negative : Bool) : Double where
  negative := negative
  significand := 0
  exponent := lowestExponent

/-- `numerator / denominator` as a natural number; a half goes to the even neighbour. -/
def roundDiv (numerator denominator : Nat) : Nat :=
  let quotient := numerator / denominator
  let twice := 2 * (numerator % denominator)
  if twice < denominator then quotient
  else if denominator < twice then quotient + 1
  else quotient + quotient % 2

/-- The ratio `significand · 2 ^ exponent : 1`, with a nonnegative power of two on either side. -/
def ratio (significand : Nat) (exponent : Int) : Nat × Nat :=
  if 0 ≤ exponent then
    (significand * Nat.pow 2 exponent.toNat, 1)
  else
    (significand, Nat.pow 2 (-exponent).toNat)

/-- The exponent that gives the ratio a significand of 53 bits, if the lowest one allows it. -/
def exponentFor (numerator denominator : Nat) : Int :=
  let estimate : Int := (numerator.log2 : Int) - denominator.log2 - 52
  let fits (exponent : Int) : Bool :=
    if 0 ≤ exponent then
      denominator * Nat.pow 2 exponent.toNat * Nat.pow 2 52 ≤ numerator
    else
      denominator * Nat.pow 2 52 ≤ numerator * Nat.pow 2 (-exponent).toNat
  max lowestExponent (if fits estimate then estimate else estimate - 1)

/-- The double nearest to a ratio, or `none` beyond the largest double. -/
def ofRatio (negative : Bool) (numerator denominator : Nat) : Option Double :=
  if numerator = 0 then
    some (zero negative)
  else
    let exponent := exponentFor numerator denominator
    let rounded :=
      if 0 ≤ exponent then
        roundDiv numerator (denominator * Nat.pow 2 exponent.toNat)
      else
        roundDiv (numerator * Nat.pow 2 (-exponent).toNat) denominator
    let (significand, exponent) :=
      if rounded = Nat.pow 2 53 then (Nat.pow 2 52, exponent + 1) else (rounded, exponent)
    if highestExponent < exponent then none else some ⟨negative, significand, exponent⟩

def ofNat (negative : Bool) (n : Nat) : Option Double :=
  ofRatio negative n 1

/-- The rounded product; the sign is that of the first factor. -/
def mul (left right : Double) : Option Double :=
  let (numerator, denominator) := ratio 1 (left.exponent + right.exponent)
  ofRatio left.negative (left.significand * right.significand * numerator) denominator

/-- The rounded quotient by a double above zero; the sign is that of the dividend. -/
def div (left right : Double) : Option Double :=
  let (numerator, denominator) := ratio 1 (left.exponent - right.exponent)
  ofRatio left.negative (left.significand * numerator) (right.significand * denominator)

/-- The largest power of ten that scaling uses in one step. -/
def longestScale : Nat := 308

/-- Divides by `10 ^ down`, at most `longestScale` places at a time. Zero stays as it is. -/
def scaleDown (value : Double) (down : Nat) : Nat → Option Double
  | 0 => some value
  | steps + 1 => do
    if value.significand = 0 then
      return value
    if down ≤ longestScale then
      value.div (← ofNat false (Nat.pow 10 down))
    else
      scaleDown (← value.div (← ofNat false (Nat.pow 10 longestScale))) (down - longestScale) steps

/-- `digits · 10 ^ exponent` in doubles: the digits are rounded first and then scaled. `none` means
that the number is beyond the largest double. -/
def ofScaled (negative : Bool) (digits : Nat) (exponent : Int) : Option Double := do
  let value ← ofNat negative digits
  if value.significand = 0 then
    return value
  if exponent < 0 then
    scaleDown value exponent.natAbs (exponent.natAbs / longestScale + 1)
  else if exponent.natAbs ≤ longestScale then
    value.mul (← ofNat false (Nat.pow 10 exponent.natAbs))
  else
    none

end Double

end TestGate
