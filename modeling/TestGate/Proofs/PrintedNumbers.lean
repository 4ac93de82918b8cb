import TestGate.Proofs.PrintedLeaves
import TestGate.Proofs.ShortestDecimals

/-!
The texts of numbers as they are read. Main statements: each whole number that fits in 64 bits is
read as itself, and each finite double is written as a text that is read as a number.
-/

namespace TestGate.Json

open Text Double

/-! ## Numbers from their parts -/

/-- Whether characters are a row of digits. -/
structure IsRow (digits : List Char) : Prop where
  nonempty : digits ≠ []
  allDigits : ∀ c ∈ digits, c.isDigit = true

/-- A row is read up to the first character that is no digit. -/
theorem IsRow.readRow
    {digits rest : List Char}
    (row : IsRow digits) (stops : rest.head?.any Char.isDigit = false)
    (onward : List Char → List Char → Reading) :
    Json.readRow (digits ++ rest) onward = onward digits rest := by
  have takes : rest.takeWhile Char.isDigit = [] ∧ rest.dropWhile Char.isDigit = rest := by
    cases rest with
    | nil => exact ⟨rfl, rfl⟩
    | cons c rest =>
      have noDigit : c.isDigit = false := by simpa using stops
      simp [noDigit]
  have isFilled : digits.isEmpty = false := by simpa using row.nonempty
  rw [Json.readRow]
  simp only [List.takeWhile_append_of_pos row.allDigits, List.dropWhile_append_of_pos row.allDigits,
    takes.1, takes.2, List.append_nil, isFilled]
  rfl

theorem IsRow.readRow_end
    {digits : List Char}
    (row : IsRow digits) (onward : List Char → List Char → Reading) :
    Json.readRow digits onward = onward digits [] := by
  have noMore : ([] : List Char).head?.any Char.isDigit = false := rfl
  have read := row.readRow noMore onward
  rwa [List.append_nil] at read

theorem isRow_natChars
    (n : Nat) :
    IsRow (natChars n) :=
  ⟨natChars_ne_nil n, fun _ => isDigit_of_mem_natChars⟩

theorem isRow_zero : IsRow ['0'] :=
  isRow_natChars 0

section Rows

variable {digits : List Char} {count : Nat}

theorem IsRow.take
    (row : IsRow digits) (positive : 0 < count) :
    IsRow (digits.take count) :=
  ⟨by simp [positive.ne', row.nonempty],
    fun c member => row.allDigits c (List.mem_of_mem_take member)⟩

theorem IsRow.drop
    (row : IsRow digits) (less : count < digits.length) :
    IsRow (digits.drop count) :=
  ⟨by simpa using less, fun c member => row.allDigits c (List.mem_of_mem_drop member)⟩

theorem isDigit_of_mem_zeros
    {c : Char}
    (member : c ∈ List.replicate count '0') :
    c.isDigit = true := by
  rw [List.eq_of_mem_replicate member]
  decide

theorem IsRow.padLeft
    (row : IsRow digits) (count : Nat) :
    IsRow (List.replicate count '0' ++ digits) :=
  ⟨by simp [row.nonempty],
    fun c member => (List.mem_append.mp member).elim isDigit_of_mem_zeros (row.allDigits c)⟩

theorem IsRow.padRight
    (row : IsRow digits) (count : Nat) :
    IsRow (digits ++ List.replicate count '0') :=
  ⟨by simp [row.nonempty],
    fun c member => (List.mem_append.mp member).elim (row.allDigits c) isDigit_of_mem_zeros⟩

end Rows

/-- A fraction behind its point. -/
def fractionChars : Option (List Char) → List Char
  | none => []
  | some digits => '.' :: digits

/-- An exponent behind its letter, with its sign. -/
def exponentChars : Option Int → List Char
  | none => []
  | some exponent => 'e' :: (if exponent < 0 then '-' else '+') :: natChars exponent.natAbs

theorem exponentChars_stops
    (exponent : Option Int) :
    (exponentChars exponent).head?.any Char.isDigit = false := by
  cases exponent with
  | none => rfl
  | some exponent => rfl

theorem fractionChars_stops
    (fraction : Option (List Char)) (exponent : Option Int) :
    (fractionChars fraction ++ exponentChars exponent).head?.any Char.isDigit = false := by
  cases fraction with
  | none => exact exponentChars_stops exponent
  | some digits => rfl

/-- What may follow the digits of a number is read to its end. -/
theorem finishNumber_exponentChars
    (negative : Bool) (whole : List Char) (fraction : Option (List Char)) (exponent : Option Int) :
    finishNumber ⟨negative, whole, fraction, none⟩ (exponentChars exponent) =
      ((⟨negative, whole, fraction, exponent⟩ : NumberParts).toTree, some []) := by
  cases exponent with
  | none => rfl
  | some exponent =>
    have row := (isRow_natChars exponent.natAbs).readRow_end
    by_cases isNegative : exponent < 0
    · have same : -((digitsValue (natChars exponent.natAbs) : Nat) : Int) = exponent := by
        rw [digitsValue_natChars]
        omega
      rw [exponentChars, if_pos isNegative]
      change readRow (natChars exponent.natAbs) (scaled ⟨negative, whole, fraction, none⟩ true) = _
      rw [row, scaled]
      simp only [if_true, same]
    · have same : ((digitsValue (natChars exponent.natAbs) : Nat) : Int) = exponent := by
        rw [digitsValue_natChars]
        omega
      rw [exponentChars, if_neg isNegative]
      change readRow (natChars exponent.natAbs)
        (scaled ⟨negative, whole, fraction, none⟩ false) = _
      rw [row, scaled]
      simp only [Bool.false_eq_true, if_false, same]

theorem readFraction_chars
    {fraction : Option (List Char)}
    (isProper : ∀ digits, fraction = some digits → IsRow digits)
    (negative : Bool) (whole : List Char) (exponent : Option Int) :
    readFraction ⟨negative, whole, none, none⟩
        (fractionChars fraction ++ exponentChars exponent) =
      ((⟨negative, whole, fraction, exponent⟩ : NumberParts).toTree, some []) := by
  cases fraction with
  | none =>
    have finished := finishNumber_exponentChars negative whole none exponent
    rw [fractionChars, List.nil_append, readFraction, finished]
    intro rest isPoint
    cases exponent with
    | none => cases isPoint
    | some exponent => cases isPoint
  | some digits =>
    have row := (isProper digits rfl).readRow (exponentChars_stops exponent)
    change readRow (digits ++ exponentChars exponent) (fun digits behind =>
      finishNumber ⟨negative, whole, some digits, none⟩ behind) = _
    rw [row]
    exact finishNumber_exponentChars negative whole (some digits) exponent

/-- The text of a number with these parts, without its sign. -/
def NumberParts.chars (parts : NumberParts) : List Char :=
  parts.whole ++ (fractionChars parts.fraction ++ exponentChars parts.exponent)

/-- Whether the parts of a number are rows of digits, the first of which does not start with an
idle zero. -/
structure NumberParts.IsProper (parts : NumberParts) : Prop where
  whole : IsRow parts.whole
  noIdleZero : parts.whole = ['0'] ∨ parts.whole.head? ≠ some '0'
  fraction : ∀ digits, parts.fraction = some digits → IsRow digits

/-- A number with proper parts is read to its end. -/
theorem readNumber_chars
    {parts : NumberParts}
    (isProper : parts.IsProper) :
    readNumber parts.negative parts.chars = (parts.toTree, some []) := by
  obtain ⟨negative, whole, fraction, exponent⟩ := parts
  have read := readFraction_chars isProper.fraction negative whole exponent
  have stops := fractionChars_stops fraction exponent
  rcases isProper.noIdleZero with isZero | noZero
  · simp only at isZero
    subst isZero
    rw [NumberParts.chars, List.singleton_append, readNumber, stops]
    exact read
  · obtain ⟨c, digits, isFirst⟩ := List.exists_cons_of_ne_nil isProper.whole.nonempty
    simp only at isFirst noZero
    subst isFirst
    have notZero : c ≠ '0' := by simpa using noZero
    rw [NumberParts.chars, List.cons_append, readNumber_eq negative notZero, ← List.cons_append,
      isProper.whole.readRow stops]
    exact read

/-- No number above zero starts with zero. -/
theorem natChars_head
    {n : Nat}
    (positive : 0 < n) :
    ∃ c rest, natChars n = c :: rest ∧ c ≠ '0' := by
  induction n using Nat.strongRecOn with
  | ind n inductionHypothesis =>
    by_cases small : n < 10
    · have nonzero : ∀ n < 10, 0 < n → Nat.digitChar n ≠ '0' := by decide
      exact ⟨Nat.digitChar n, [], Nat.toDigits_of_lt_base small, nonzero n small positive⟩
    · obtain ⟨c, rest, front, noZero⟩ := inductionHypothesis (n / 10) (by omega) (by omega)
      refine ⟨c, rest ++ [Nat.digitChar (n % 10)], ?_, noZero⟩
      rw [natChars] at front ⊢
      rw [Nat.toDigits_of_base_le (by decide) (by omega), front, List.cons_append]

/-- The digits of a number are read to their end. -/
theorem readNumber_natChars
    (negative : Bool) (n : Nat) :
    readNumber negative (natChars n) =
      ((⟨negative, natChars n, none, none⟩ : NumberParts).toTree, some []) := by
  have noIdleZero : natChars n = ['0'] ∨ (natChars n).head? ≠ some '0' := by
    rcases Nat.eq_zero_or_pos n with rfl | positive
    · exact Or.inl rfl
    · obtain ⟨c, rest, isFirst, noZero⟩ := natChars_head positive
      exact Or.inr (by simpa [isFirst] using noZero)
  have isProper : NumberParts.IsProper ⟨negative, natChars n, none, none⟩ :=
    ⟨isRow_natChars n, noIdleZero, nofun⟩
  have read := readNumber_chars isProper
  rwa [NumberParts.chars, fractionChars, exponentChars, List.append_nil, List.append_nil] at read

/-! ## Digits and scale -/

theorem le_ofDigitChars
    (digits : List Char) (start : Nat) :
    start ≤ Nat.ofDigitChars 10 digits start := by
  induction digits generalizing start with
  | nil => exact Nat.le_refl start
  | cons digit digits inductionHypothesis =>
    rw [Nat.ofDigitChars_cons]
    have longer := inductionHypothesis (10 * start + (digit.toNat - '0'.toNat))
    omega

/-- Appending digits that fit makes the number that they stand for. -/
theorem appendDigits_of_fits
    {digits : List Char} {start : Nat}
    (fits : Nat.ofDigitChars 10 digits start ≤ largestWhole) :
    appendDigits start digits = (Nat.ofDigitChars 10 digits start, []) := by
  induction digits generalizing start with
  | nil => rfl
  | cons digit digits inductionHypothesis =>
    rw [Nat.ofDigitChars_cons, Nat.mul_comm] at fits
    have longer := le_ofDigitChars digits (start * 10 + (digit.toNat - '0'.toNat))
    have firstFits : start * 10 + (digit.toNat - '0'.toNat) ≤ largestWhole := by omega
    rw [appendDigits]
    simp only [firstFits, if_true]
    rw [inductionHypothesis fits, Nat.ofDigitChars_cons, Nat.mul_comm]

/-- All digits of a number, before and behind its point. -/
def NumberParts.digits (parts : NumberParts) : List Char :=
  parts.whole ++ parts.fraction.getD []

/-- The power of ten that the digits of a number are scaled by. -/
def NumberParts.scale (parts : NumberParts) : Int :=
  parts.exponent.getD 0 - (parts.fraction.getD []).length

/-- A number with a fraction or an exponent is a double; none of its digits is lost if they fit. -/
theorem NumberParts.toNumber?_of_fits
    {parts : NumberParts}
    (isScaled : parts.fraction ≠ none ∨ parts.exponent ≠ none)
    (fits : digitsValue parts.digits ≤ largestWhole) :
    parts.toNumber? =
      (Double.ofScaled parts.negative (digitsValue parts.digits) parts.scale).map .double := by
  obtain ⟨negative, whole, fraction, exponent⟩ := parts
  have inTwo : digitsValue (whole ++ fraction.getD []) =
      Nat.ofDigitChars 10 (fraction.getD []) (digitsValue whole) := Nat.ofDigitChars_append 0
  simp only [NumberParts.digits, inTwo] at fits ⊢
  have wholeFits := (le_ofDigitChars (fraction.getD []) (digitsValue whole)).trans fits
  have wholeRead : appendDigits 0 whole = (digitsValue whole, []) := appendDigits_of_fits wholeFits
  have allRead := appendDigits_of_fits fits
  rw [NumberParts.toNumber?, NumberParts.scale]
  cases fraction with
  | some digits =>
    rw [Option.getD_some] at allRead
    simp only [wholeRead, allRead, Option.getD_some]
    congr 2
    simp only [List.length_nil, Nat.sub_zero]
    omega
  | none =>
    cases exponent with
    | some exponent =>
      simp only [wholeRead, Option.getD_none, appendDigits]
      congr 2
      simp only [List.length_nil, Nat.sub_zero, Option.getD_some]
      omega
    | none => simp at isScaled

/-! ## Decimals -/

/-- The parts of the text of a decimal. -/
def partsOf (decimal : Decimal) (negative : Bool) : NumberParts :=
  let digits := natChars decimal.digits
  let exponent := decimal.point - 1
  if exponent < lowestPlain ∨ highestPlain < exponent then
    ⟨negative, digits.take 1, if digits.length ≤ 1 then none else some (digits.drop 1),
      some exponent⟩
  else if decimal.point ≤ 0 then
    ⟨negative, ['0'], some (List.replicate decimal.point.natAbs '0' ++ digits), none⟩
  else
    let whole := decimal.point.toNat
    if digits.length ≤ whole then
      ⟨negative, digits ++ List.replicate (whole - digits.length) '0', some ['0'], none⟩
    else
      ⟨negative, digits.take whole, some (digits.drop whole), none⟩

section Decimals

variable {decimal : Decimal} {length : Nat}

/-- The text consists of these parts. -/
theorem toText_eq_parts
    (decimal : Decimal) (negative : Bool) :
    decimal.toText.toList = (partsOf decimal negative).chars := by
  rw [Decimal.toText, partsOf]
  simp only
  split_ifs
  all_goals
    simp only [NumberParts.chars, fractionChars, exponentChars, natText, String.toList_append,
      String.toList_ofList, List.append_assoc, List.cons_append, List.nil_append, List.append_nil,
      *, if_true, if_false]

/-- They have the sign given, and are those of a double. -/
theorem kind_parts
    (decimal : Decimal) (negative : Bool) :
    (partsOf decimal negative).negative = negative ∧
      ((partsOf decimal negative).fraction ≠ none ∨
        (partsOf decimal negative).exponent ≠ none) := by
  rw [partsOf]
  simp only
  split_ifs
  all_goals simp

/-- The parts are proper. -/
theorem isProper_parts
    (negative : Bool) (positive : 0 < decimal.digits) :
    (partsOf decimal negative).IsProper := by
  have row := isRow_natChars decimal.digits
  obtain ⟨c, rest, isFirst, noZero⟩ := natChars_head positive
  have noZeroHead : (natChars decimal.digits).head? ≠ some '0' := by simpa [isFirst] using noZero
  have takenHead : ∀ count, 0 < count →
      ((natChars decimal.digits).take count).head? ≠ some '0' := by
    intro count countPositive
    rwa [List.head?_take, if_neg countPositive.ne']
  rw [partsOf]
  simp only
  split_ifs with isExponential isShort isSmall isWhole
  · exact ⟨row.take Nat.one_pos, Or.inr (takenHead 1 Nat.one_pos), nofun⟩
  · refine ⟨row.take Nat.one_pos, Or.inr (takenHead 1 Nat.one_pos), fun digits same => ?_⟩
    cases same
    exact row.drop (by omega)
  · refine ⟨isRow_zero, Or.inl rfl, fun digits same => ?_⟩
    cases same
    exact row.padLeft _
  · refine ⟨row.padRight _, Or.inr ?_, fun digits same => ?_⟩
    · rwa [List.head?_append_of_ne_nil _ row.nonempty]
    · cases same
      exact isRow_zero
  · have wholePositive : 0 < decimal.point.toNat := by omega
    refine ⟨row.take wholePositive, Or.inr (takenHead _ wholePositive), fun digits same => ?_⟩
    cases same
    exact row.drop (by omega)

/-- The digits of the text, scaled, are those of the decimal. Idle zeros behind them move the
scale. -/
theorem digits_parts
    (negative : Bool)
    (isLength : (natChars decimal.digits).length = length) (positive : 0 < length)
    (le : length ≤ 17) :
    ∃ zeros : Nat,
      digitsValue (partsOf decimal negative).digits = decimal.digits * 10 ^ zeros ∧
      (partsOf decimal negative).scale = decimal.point - length - zeros ∧
      length + zeros ≤ 17 ∧
      (0 < zeros → (partsOf decimal negative).scale < 0) := by
  have value : Nat.ofDigitChars 10 (natChars decimal.digits) 0 = decimal.digits :=
    digitsValue_natChars decimal.digits
  rw [partsOf]
  simp only
  rw [isLength]
  split_ifs with isExponential isShort isSmall isWhole
  -- with an exponent
  · refine ⟨0, ?_, ?_, by omega, by omega⟩
    · rw [NumberParts.digits, List.take_of_length_le (by omega), Option.getD_none, List.append_nil,
        digitsValue, value, Nat.pow_zero, Nat.mul_one]
    · simp only [NumberParts.scale, Option.getD_some, Option.getD_none, List.length_nil]
      omega
  · refine ⟨0, ?_, ?_, by omega, by omega⟩
    · rw [NumberParts.digits, Option.getD_some, List.take_append_drop, digitsValue, value,
        Nat.pow_zero, Nat.mul_one]
    · simp only [NumberParts.scale, Option.getD_some, List.length_drop, isLength]
      omega
  -- all digits behind the point
  · refine ⟨0, ?_, ?_, by omega, by omega⟩
    · rw [NumberParts.digits, Option.getD_some, digitsValue, Nat.ofDigitChars_append,
        Nat.ofDigitChars_append, Nat.ofDigitChars_replicate_zero]
      have noWhole : Nat.ofDigitChars 10 ['0'] 0 = 0 := rfl
      simp only [noWhole, Nat.mul_zero, value, Nat.pow_zero, Nat.mul_one]
    · simp only [NumberParts.scale, Option.getD_some, Option.getD_none, List.length_append,
        List.length_replicate, isLength]
      omega
  -- all digits before the point: zeros fill up to it, and one stands behind it
  · refine ⟨decimal.point.toNat - length + 1, ?_, ?_, ?_, ?_⟩
    · rw [NumberParts.digits, Option.getD_some, digitsValue, Nat.ofDigitChars_append,
        Nat.ofDigitChars_append, Nat.ofDigitChars_replicate_zero, value]
      have oneMore : ∀ n, Nat.ofDigitChars 10 ['0'] n = 10 * n := fun _ => rfl
      rw [oneMore, Nat.pow_succ]
      ring
    · simp only [NumberParts.scale, Option.getD_some, Option.getD_none, List.length_singleton]
      omega
    · rw [highestPlain] at isExponential
      omega
    · simp only [NumberParts.scale, Option.getD_some, Option.getD_none, List.length_singleton]
      omega
  -- the point among the digits
  · refine ⟨0, ?_, ?_, by omega, by omega⟩
    · rw [NumberParts.digits, Option.getD_some, List.take_append_drop, digitsValue, value,
        Nat.pow_zero, Nat.mul_one]
    · simp only [NumberParts.scale, Option.getD_some, Option.getD_none, List.length_drop, isLength]
      omega

end Decimals

/-- Numbers between two powers of ten have as many digits as the exponent of the higher one. -/
theorem length_natChars
    {n length : Nat}
    (positive : 0 < length) (low : 10 ^ (length - 1) ≤ n) (high : n < 10 ^ length) :
    (natChars n).length = length := by
  have atMost : (natChars n).length ≤ length :=
    (Nat.length_toDigits_le_iff (by decide) positive).mpr high
  have atLeastOne := List.length_pos_of_ne_nil (natChars_ne_nil n)
  by_contra differs
  have shorter : (natChars n).length ≤ length - 1 := by omega
  have less := (Nat.length_toDigits_le_iff (by decide) (by omega)).mp shorter
  exact absurd low (not_le.mpr less)

/-- The shortest text of a double above zero is read as a number. -/
theorem readNumber_shortest
    {double : Double}
    (isFinite : double.IsFinite) (positive : 0 < double.significand) (negative : Bool) :
    ∃ value, readNumber negative double.shortest.toText.toList = (.number value, some []) := by
  obtain ⟨length, le, spans⟩ := shortest_spans isFinite positive
  have digitsPositive : 0 < double.shortest.digits := (Nat.pow_pos (by decide)).trans_le spans.low
  have isLength := length_natChars spans.positive spans.low spans.high
  obtain ⟨zeros, digits, scale, few, below⟩ := digits_parts negative isLength spans.positive le
  obtain ⟨sameNegative, isScaled⟩ := kind_parts double.shortest negative
  have bounded : double.shortest.digits * 10 ^ zeros < 2 ^ 64 :=
    calc double.shortest.digits * 10 ^ zeros < 10 ^ length * 10 ^ zeros :=
          Nat.mul_lt_mul_of_pos_right spans.high (Nat.pow_pos (by decide))
      _ = 10 ^ (length + zeros) := (Nat.pow_add 10 length zeros).symm
      _ ≤ 10 ^ 17 := Nat.pow_le_pow_right (by decide) few
      _ < 2 ^ 64 := by decide
  have fits : digitsValue (partsOf double.shortest negative).digits ≤ largestWhole := by
    rw [digits, largestWhole, Nat.pow_eq]
    omega
  have isNumber : (ofScaled negative (double.shortest.digits * 10 ^ zeros)
      (double.shortest.point - length - zeros)).isSome = true := by
    rcases Nat.eq_zero_or_pos zeros with rfl | someZeros
    · rw [Nat.pow_zero, Nat.mul_one, Nat.cast_zero, sub_zero]
      exact ofScaled_shortest_isSome negative isFinite le spans
    · have down := below someZeros
      rw [scale] at down
      exact ofScaled_isSome negative (Nat.mul_pos digitsPositive (Nat.pow_pos (by decide))) bounded
        fun nonneg => absurd down (not_lt.mpr nonneg)
  obtain ⟨value, isValue⟩ := Option.isSome_iff_exists.mp isNumber
  refine ⟨.double value, ?_⟩
  have read := readNumber_chars (isProper_parts negative digitsPositive)
  rw [sameNegative, ← toText_eq_parts] at read
  rw [read, NumberParts.toTree, NumberParts.toNumber?_of_fits isScaled fits, sameNegative, digits,
    scale, isValue]
  rfl

/-! ## Numbers of 64 bits -/

/-- Whether a number has 64 bits: a whole number, with or without a sign, or a finite double. -/
def Number.IsSound : Number → Prop
  | .integer value => -(2 ^ 63 : Int) ≤ value ∧ value < 2 ^ 64
  | .double value => value.IsFinite

/-- What the text of a number is read as when it stands alone. -/
def Number.readAlone (number : Number) : Reading :=
  match number.toText.toList with
  | '-' :: chars => readNumber true chars
  | chars => readNumber false chars

/-- The number that the text of a number is read as. A double may come out beside what it was. -/
def Number.reread (number : Number) : Number :=
  match number.readAlone with
  | (.number value, _) => value
  | _ => number

/-- Whether the text of a number is read as a number. -/
def Number.IsLegible (number : Number) : Prop :=
  number.readAlone = (.number number.reread, some [])

theorem Number.IsLegible.split
    {number : Number}
    (legible : number.IsLegible) :
    ∃ negative chars, number.toText.toList = (if negative then '-' :: chars else chars) ∧
      readNumber negative chars = (.number number.reread, some []) := by
  rw [IsLegible, readAlone] at legible
  split at legible
  · rename_i chars isNegative
    exact ⟨true, chars, isNegative, legible⟩
  · exact ⟨false, _, rfl, legible⟩

theorem Number.readAlone_of_digit
    {number : Number} {c : Char} {chars : List Char}
    (starts : number.toText.toList = c :: chars) (isDigit : c.isDigit = true) :
    number.readAlone = readNumber false (c :: chars) := by
  rw [readAlone, starts]
  split
  · rename_i others isNegative
    cases isNegative
    exact absurd isDigit (by decide)
  · rfl

theorem Number.reread_of_readAlone
    {number value : Number}
    (read : number.readAlone = (.number value, some [])) :
    number.reread = value ∧ number.IsLegible := by
  have same : number.reread = value := by rw [reread, read]
  exact ⟨same, by rw [IsLegible, same, read]⟩

/-- Whole numbers that fit in 64 bits, with or without a sign, are read as themselves. -/
theorem Number.readAlone_integer
    {value : Int}
    (low : -(2 ^ 63 : Int) ≤ value) (high : value < 2 ^ 64) :
    (Number.integer value).readAlone = (.number (.integer value), some []) := by
  have power : largestWhole = 2 ^ 64 - 1 := by decide
  have digits : ∀ n : Nat, n ≤ largestWhole → appendDigits 0 (natChars n) = (n, []) := by
    intro n fits
    have same : Nat.ofDigitChars 10 (natChars n) 0 = n := digitsValue_natChars n
    have appended : appendDigits 0 (natChars n) = (Nat.ofDigitChars 10 (natChars n) 0, []) :=
      appendDigits_of_fits (by omega)
    rwa [same] at appended
  cases value with
  | ofNat n =>
    have fits : n ≤ largestWhole := by
      have bound : (n : Int) < 2 ^ 64 := high
      omega
    have text : (Number.integer (.ofNat n)).toText.toList = natChars n := by
      simp [Number.toText, intText, natText]
    have allDigits : ∀ c ∈ natChars n, c.isDigit = true := fun c => isDigit_of_mem_natChars
    obtain ⟨c, chars, front⟩ := List.exists_cons_of_ne_nil (natChars_ne_nil n)
    have isDigit : c.isDigit = true := allDigits c (by rw [front]; exact List.mem_cons_self)
    rw [Number.readAlone_of_digit (text.trans front) isDigit, ← front, readNumber_natChars]
    simp [NumberParts.toTree, NumberParts.toNumber?, digits n fits]
  | negSucc n =>
    have fits : n + 1 ≤ 2 ^ 63 := by omega
    have inRange : n + 1 ≤ largestWhole := by omega
    have text : (Number.integer (.negSucc n)).toText.toList = '-' :: natChars (n + 1) := by
      simp [Number.toText, intText, natText]
    have whole : 0 < n + 1 ∧ n + 1 ≤ Nat.pow 2 63 := ⟨Nat.succ_pos n, fits⟩
    rw [Number.readAlone, text]
    simp only [readNumber_natChars, NumberParts.toTree, NumberParts.toNumber?,
      digits (n + 1) inRange]
    simp [whole, Int.negSucc_eq]

/-- The text of a double is read as a number. -/
theorem Number.readAlone_double
    {double : Double}
    (isFinite : double.IsFinite) :
    ∃ value, (Number.double double).readAlone = (.number value, some []) := by
  obtain ⟨body, isText, value, read⟩ : ∃ body,
      (Number.double double).toText.toList = (if double.negative then '-' :: body else body) ∧
      ∃ value, readNumber double.negative body = (.number value, some []) := by
    by_cases isZero : double.significand = 0
    · refine ⟨['0', '.', '0'], ?_, .double (.zero double.negative), ?_⟩
      · cases isNegative : double.negative <;>
          simp [Number.toText, Double.toText, isZero, isNegative]
      · cases double.negative <;> rfl
    · refine ⟨double.shortest.toText.toList, ?_,
        readNumber_shortest isFinite (Nat.pos_of_ne_zero isZero) double.negative⟩
      cases isNegative : double.negative <;>
        simp [Number.toText, Double.toText, isZero, isNegative]
  refine ⟨value, ?_⟩
  cases isNegative : double.negative with
  | true =>
    rw [isNegative] at isText read
    rw [Number.readAlone, isText]
    exact read
  | false =>
    rw [isNegative] at isText read
    obtain ⟨c, rest, isFirst, isDigit⟩ := head_of_readNumber read
    rw [Number.readAlone_of_digit (isText.trans isFirst) isDigit, ← isFirst]
    exact read

/-- The text of a number of 64 bits is read as a number. -/
theorem Number.IsSound.isLegible
    {number : Number}
    (isSound : number.IsSound) :
    number.IsLegible := by
  cases number with
  | integer value =>
    exact (Number.reread_of_readAlone (Number.readAlone_integer isSound.1 isSound.2)).2
  | double double =>
    obtain ⟨value, read⟩ := Number.readAlone_double isSound
    exact (Number.reread_of_readAlone read).2

end TestGate.Json
