import TestGate.Double
import TestGate.Text.Number

/-!
The fewest decimal digits that read back as a given double, and of those the nearest to it. For one
digit, two digits and so on up to seventeen, the two neighbours of the value on that decimal grid
are tried; the first grid with a neighbour that rounds to the double wins.
-/

namespace TestGate.Double

open Text

/-- A decimal number `0.d₁d₂… · 10 ^ point`. -/
structure Decimal where
  digits : Nat
  point : Int
deriving DecidableEq, Repr

/-- Four times the magnitude, together with the ends of what rounds to it, over one denominator. -/
structure Neighbourhood where
  low : Nat
  value : Nat
  high : Nat
  denominator : Nat
  endsIncluded : Bool

/-- The numbers that round to a double above zero: half the way to either neighbour, both ends
included when the significand is even. Just above a power of two the neighbour below is nearer. -/
def neighbourhood (double : Double) : Neighbourhood :=
  let (numerator, denominator) := ratio 1 (double.exponent - 2)
  let below :=
    if double.significand = Nat.pow 2 52 ∧ lowestExponent < double.exponent then 1 else 2
  { low := (4 * double.significand - below) * numerator
    value := 4 * double.significand * numerator
    high := (4 * double.significand + 2) * numerator
    denominator := denominator
    endsIncluded := double.significand % 2 = 0 }

/-- The least `point` with `numerator / denominator < 10 ^ point`, tried upwards from `start`. -/
def pointFrom (numerator denominator : Nat) (start : Int) : Nat → Int
  | 0 => start
  | steps + 1 =>
    let (scaledNumerator, scaledDenominator) :=
      if 0 ≤ start then
        (numerator, denominator * Nat.pow 10 start.toNat)
      else
        (numerator * Nat.pow 10 (-start).toNat, denominator)
    if scaledNumerator < scaledDenominator then
      start
    else
      pointFrom numerator denominator (start + 1) steps

/-- The place of the decimal point before the first digit of a ratio above zero. -/
def decimalPoint (numerator denominator : Nat) : Int :=
  let binary : Int := (numerator.log2 : Int) - denominator.log2
  pointFrom numerator denominator (Int.fdiv (binary * 30103) 100000 - 1) 8

/-- The neighbour on the grid of `count` digits that rounds to the value, the nearer one if both
do; a tie goes to the even digit. -/
def onGrid? (area : Neighbourhood) (point : Int) (count : Nat) : Option Nat :=
  let places := point - count
  let (up, down) :=
    if 0 ≤ places then (1, Nat.pow 10 places.toNat) else (Nat.pow 10 (-places).toNat, 1)
  let unit := area.denominator * down
  let value := area.value * up
  let floor := value / unit
  let within (digits : Nat) : Bool :=
    if area.endsIncluded then
      area.low * up ≤ digits * unit && digits * unit ≤ area.high * up
    else
      area.low * up < digits * unit && digits * unit < area.high * up
  let nearest := roundDiv value unit
  if within nearest then some nearest
  else if within floor then some floor
  else if within (floor + 1) then some (floor + 1)
  else none

/-- Tries grids from `count` digits on. -/
def shortestFrom (area : Neighbourhood) (point : Int) (count : Nat) : Nat → Decimal
  | 0 => ⟨0, point⟩
  | steps + 1 =>
    match onGrid? area point count with
    | some digits =>
      if digits = Nat.pow 10 count then ⟨Nat.pow 10 (count - 1), point + 1⟩ else ⟨digits, point⟩
    | none => shortestFrom area point (count + 1) steps

/-- The shortest decimal that reads back as a double above zero. -/
def shortest (double : Double) : Decimal :=
  let area := neighbourhood double
  shortestFrom area (decimalPoint area.value area.denominator) 1 17

/-- The lowest decimal exponent that is written without an exponent. -/
def lowestPlain : Int := -5

/-- The highest decimal exponent that is written without an exponent. -/
def highestPlain : Int := 15

/-- The text of a decimal: with a point and at least one digit on both of its sides, or beyond the
plain exponents with one digit before the point and a signed exponent. -/
def Decimal.toText (decimal : Decimal) : String :=
  let digits := natChars decimal.digits
  let exponent := decimal.point - 1
  if exponent < lowestPlain ∨ highestPlain < exponent then
    let fraction := if digits.length ≤ 1 then [] else '.' :: digits.drop 1
    let sign := if exponent < 0 then '-' else '+'
    String.ofList (digits.take 1 ++ fraction ++ ['e', sign]) ++ natText exponent.natAbs
  else if decimal.point ≤ 0 then
    String.ofList (['0', '.'] ++ List.replicate decimal.point.natAbs '0' ++ digits)
  else
    let whole := decimal.point.toNat
    if digits.length ≤ whole then
      String.ofList (digits ++ List.replicate (whole - digits.length) '0' ++ ['.', '0'])
    else
      String.ofList (digits.take whole ++ ['.'] ++ digits.drop whole)

/-- The shortest text that reads back as the double. -/
def toText (double : Double) : String :=
  let sign := if double.negative then "-" else ""
  if double.significand = 0 then sign ++ "0.0" else sign ++ double.shortest.toText

end TestGate.Double
