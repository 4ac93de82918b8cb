import Mathlib.Data.List.TakeWhile
import TestGate.Json.Literal
import TestGate.Json.Printer

/-!
Printed leaves of JSON texts as they are read. Main statements: a quoted text is read as the text
that was quoted, and a number that is read to its end when it stands alone is so before any
character that cannot go on with it.
-/

namespace TestGate.Json

open Text

/-! ## Quoted texts -/

/-- The piece that an escaped character is read as. -/
def pieceOf (c : Char) : Piece :=
  match escapeChar c with
  | '\\' :: 'u' :: _ => .unit c.toNat
  | _ => .plain c

/-- Control characters are written with two digits, filled up with zeros. -/
theorem hexValue?_of_control
    {value : Nat}
    (isControl : value < 32) :
    hexValue? ['0', '0', Nat.digitChar (value / 16), Nat.digitChar (value % 16)] = some value := by
  have all : ∀ value < 32,
      hexValue? ['0', '0', Nat.digitChar (value / 16), Nat.digitChar (value % 16)] =
        some value := by
    decide
  exact all value isControl

theorem readPieces_escapeChar
    (c : Char) (rest : List Char) :
    readPieces (escapeChar c ++ rest) =
      (pieceOf c :: (readPieces rest).1, (readPieces rest).2) := by
  by_cases isQuote : c = '"'
  · subst isQuote
    rfl
  by_cases isSlash : c = '\\'
  · subst isSlash
    rfl
  by_cases isBackspace : c = '\x08'
  · subst isBackspace
    rfl
  by_cases isFeed : c = '\x0c'
  · subst isFeed
    rfl
  by_cases isNewline : c = '\n'
  · subst isNewline
    rfl
  by_cases isReturn : c = '\r'
  · subst isReturn
    rfl
  by_cases isTab : c = '\t'
  · subst isTab
    rfl
  have plainly : escapeChar c =
      if c.toNat < 0x20 then
        ['\\', 'u', '0', '0', Nat.digitChar (c.toNat / 16), Nat.digitChar (c.toNat % 16)]
      else
        [c] := by
    rw [escapeChar]
    all_goals assumption
  by_cases isControl : c.toNat < 0x20
  · have escaped : escapeChar c =
        ['\\', 'u', '0', '0', Nat.digitChar (c.toNat / 16), Nat.digitChar (c.toNat % 16)] := by
      rw [plainly, if_pos isControl]
    simp only [pieceOf, escaped, List.cons_append, List.nil_append, readPieces,
      hexValue?_of_control isControl]
  · have unescaped : escapeChar c = [c] := by
      rw [plainly, if_neg isControl]
    have isPlain : pieceOf c = .plain c := by
      rw [pieceOf, unescaped]
      split
      · rename_i longer
        simp at longer
      · rfl
    rw [unescaped, isPlain, List.singleton_append, readPieces]
    · rw [if_neg isControl]
    all_goals simp [isQuote, isSlash]

/-- The pieces of an escaped text. -/
theorem readPieces_flatMap
    (chars rest : List Char) :
    readPieces (chars.flatMap escapeChar ++ '"' :: rest) = (chars.map pieceOf, .ok rest) := by
  induction chars with
  | nil => rfl
  | cons c chars inductionHypothesis =>
    rw [List.flatMap_cons, List.append_assoc, readPieces_escapeChar, inductionHypothesis,
      List.map_cons]

theorem pieceOf_cases
    (c : Char) :
    pieceOf c = .plain c ∨ pieceOf c = .unit c.toNat ∧ c.toNat < 0x20 := by
  rw [pieceOf]
  split
  · rename_i digits isEscape
    refine Or.inr ⟨rfl, Decidable.byContradiction fun noControl => ?_⟩
    unfold escapeChar at isEscape
    split at isEscape
    all_goals simp [noControl] at isEscape
  · exact Or.inl rfl

theorem joinPieces?_pieceOf
    (c : Char) (rest : List Piece) :
    joinPieces? (pieceOf c :: rest) = (joinPieces? rest).map (c :: ·) := by
  rcases pieceOf_cases c with isPlain | ⟨isUnit, isControl⟩
  · rw [isPlain, joinPieces?]
  · have notHigh : isHighUnit c.toNat = false := by
      simp [isHighUnit]
      omega
    have notLow : isLowUnit c.toNat = false := by
      simp [isLowUnit]
      omega
    have sameChar : Char.ofNat c.toNat = c := Char.ofNat_toNat c
    rw [isUnit]
    cases rest with
    | nil => simp [joinPieces?, notHigh, notLow, sameChar]
    | cons piece rest =>
      cases piece with
      | plain other => simp [joinPieces?, notHigh, notLow, sameChar]
      | unit value => simp [joinPieces?, notHigh, notLow, sameChar]

theorem joinPieces?_map
    (chars : List Char) :
    joinPieces? (chars.map pieceOf) = some chars := by
  induction chars with
  | nil => rfl
  | cons c chars inductionHypothesis =>
    rw [List.map_cons, joinPieces?_pieceOf, inductionHypothesis, Option.map_some]

/-- A quoted text is read as it was. -/
theorem readQuoted_escaped
    (text : String) (rest : List Char) :
    readQuoted (text.toList.flatMap escapeChar ++ '"' :: rest) = .sound text rest := by
  rw [readQuoted, readPieces_flatMap]
  simp only [joinPieces?_map, String.ofList_toList]

/-! ## Numbers before other characters -/

/-- Whether what follows a number cannot be a part of it. -/
def EndsNumber (rest : List Char) : Prop :=
  ∀ c, rest.head? = some c → c.isDigit = false ∧ c ≠ '.' ∧ c ≠ 'e' ∧ c ≠ 'E'

section Framing

variable {rest : List Char}

theorem EndsNumber.takeWhile_append
    (ends : EndsNumber rest) (chars : List Char) :
    (chars ++ rest).takeWhile Char.isDigit = chars.takeWhile Char.isDigit ∧
      (chars ++ rest).dropWhile Char.isDigit = chars.dropWhile Char.isDigit ++ rest := by
  induction chars with
  | nil =>
    cases rest with
    | nil => simp
    | cons c rest =>
      have noDigit := (ends c rfl).1
      simp [noDigit]
  | cons c chars inductionHypothesis =>
    by_cases isDigit : c.isDigit = true
    · simp [isDigit, inductionHypothesis]
    · simp [isDigit]

/-- Reads a row of digits and goes on behind it. -/
def readRow (chars : List Char) (onward : List Char → List Char → Reading) : Reading :=
  let digits := chars.takeWhile Char.isDigit
  let behind := chars.dropWhile Char.isDigit
  if digits.isEmpty then brokenNumber behind else onward digits behind

theorem EndsNumber.readRow
    {tree : Tree} {chars : List Char} {onward : List Char → List Char → Reading}
    (ends : EndsNumber rest)
    (framed : ∀ digits behind, onward digits behind = (tree, some []) →
      onward digits (behind ++ rest) = (tree, some rest))
    (read : Json.readRow chars onward = (tree, some [])) :
    Json.readRow (chars ++ rest) onward = (tree, some rest) := by
  obtain ⟨sameDigits, further⟩ := ends.takeWhile_append chars
  simp only [Json.readRow, sameDigits, further] at read ⊢
  by_cases noDigits : (chars.takeWhile Char.isDigit).isEmpty = true
  · rw [if_pos noDigits] at read
    simp [brokenNumber] at read
  · rw [if_neg noDigits] at read ⊢
    exact framed _ _ read

/-- The number with an exponent. -/
def scaled (parts : NumberParts) (negative : Bool) (digits behind : List Char) : Reading :=
  let size : Int := digitsValue digits
  ({ parts with exponent := some (if negative then -size else size) }.toTree, some behind)

theorem readExponent_eq
    (parts : NumberParts) {c : Char} {chars : List Char}
    (noPlus : c ≠ '+') (noMinus : c ≠ '-') :
    readExponent parts (c :: chars) = readRow (c :: chars) (scaled parts false) := by
  rw [readExponent]
  · rfl
  · simp [noPlus]
  · simp [noMinus]

theorem EndsNumber.readExponent
    {parts : NumberParts} {tree : Tree} {chars : List Char}
    (ends : EndsNumber rest) (read : readExponent parts chars = (tree, some [])) :
    Json.readExponent parts (chars ++ rest) = (tree, some rest) := by
  have framed : ∀ negative digits behind, scaled parts negative digits behind = (tree, some []) →
      scaled parts negative digits (behind ++ rest) = (tree, some rest) := by
    intro negative digits behind same
    simp only [scaled, Prod.mk.injEq, Option.some.injEq] at same ⊢
    exact ⟨same.1, by rw [same.2, List.nil_append]⟩
  cases chars with
  | nil => simp [Json.readExponent, brokenNumber] at read
  | cons c chars =>
    by_cases isPlus : c = '+'
    · subst isPlus
      exact ends.readRow (framed false) read
    · by_cases isMinus : c = '-'
      · subst isMinus
        exact ends.readRow (framed true) read
      · rw [readExponent_eq parts isPlus isMinus] at read
        rw [List.cons_append, readExponent_eq parts isPlus isMinus]
        exact ends.readRow (framed false) read

theorem EndsNumber.finishNumber
    {parts : NumberParts} {tree : Tree} {chars : List Char}
    (ends : EndsNumber rest) (read : finishNumber parts chars = (tree, some [])) :
    Json.finishNumber parts (chars ++ rest) = (tree, some rest) := by
  cases chars with
  | nil =>
    simp only [Json.finishNumber, Prod.mk.injEq, and_true] at read
    rw [List.nil_append, Json.finishNumber, read]
    · rintro further rfl
      simpa using (ends _ rfl).2.2.1
    · rintro further rfl
      simpa using (ends _ rfl).2.2.2
  | cons c chars =>
    by_cases isSmall : c = 'e'
    · subst isSmall
      exact ends.readExponent read
    · by_cases isLarge : c = 'E'
      · subst isLarge
        exact ends.readExponent read
      · rw [Json.finishNumber] at read
        all_goals simp_all

theorem EndsNumber.readFraction
    {parts : NumberParts} {tree : Tree} {chars : List Char}
    (ends : EndsNumber rest) (read : readFraction parts chars = (tree, some [])) :
    Json.readFraction parts (chars ++ rest) = (tree, some rest) := by
  cases chars with
  | nil =>
    have finished := ends.finishNumber (show Json.finishNumber parts [] = (tree, some []) from read)
    rw [List.nil_append] at finished ⊢
    rw [Json.readFraction, finished]
    rintro further rfl
    simpa using (ends _ rfl).2.1
  | cons c chars =>
    by_cases isPoint : c = '.'
    · subst isPoint
      have framed : ∀ digits behind,
          Json.finishNumber { parts with fraction := some digits } behind = (tree, some []) →
            Json.finishNumber { parts with fraction := some digits } (behind ++ rest) =
              (tree, some rest) :=
        fun _ _ => ends.finishNumber
      exact ends.readRow framed read
    · rw [Json.readFraction] at read
      · rw [List.cons_append, Json.readFraction]
        · exact ends.finishNumber read
        · simp [isPoint]
      · simp [isPoint]

theorem readNumber_eq
    (negative : Bool) {c : Char} {chars : List Char}
    (noZero : c ≠ '0') :
    readNumber negative (c :: chars) =
      readRow (c :: chars) fun digits behind =>
        readFraction ⟨negative, digits, none, none⟩ behind := by
  rw [readNumber]
  · rfl
  · simp [noZero]

/-- A number that is read to its end is read so before other characters, too. -/
theorem EndsNumber.readNumber
    {negative : Bool} {tree : Tree} {chars : List Char}
    (ends : EndsNumber rest) (read : readNumber negative chars = (tree, some [])) :
    Json.readNumber negative (chars ++ rest) = (tree, some rest) := by
  cases chars with
  | nil => simp [Json.readNumber, brokenNumber] at read
  | cons c chars =>
    by_cases isZero : c = '0'
    · subst isZero
      rw [Json.readNumber] at read
      by_cases further : chars.head?.any Char.isDigit = true
      · simp [further, Reading.stop] at read
      · rw [if_neg further] at read
        have noDigit : ¬ (chars ++ rest).head?.any Char.isDigit = true := by
          cases chars with
          | nil =>
            cases rest with
            | nil => simp
            | cons next rest => simp [(ends next rfl).1]
          | cons next chars => simpa using further
        rw [List.cons_append, Json.readNumber, if_neg noDigit]
        exact ends.readFraction read
    · have framed : ∀ digits behind,
          Json.readFraction ⟨negative, digits, none, none⟩ behind = (tree, some []) →
            Json.readFraction ⟨negative, digits, none, none⟩ (behind ++ rest) =
              (tree, some rest) :=
        fun _ _ => ends.readFraction
      rw [readNumber_eq negative isZero] at read
      rw [List.cons_append, readNumber_eq negative isZero]
      exact ends.readRow framed read

end Framing

/-- A number starts with a digit behind its sign. -/
theorem head_of_readNumber
    {negative : Bool} {chars behind : List Char} {tree : Tree}
    (read : readNumber negative chars = (tree, some behind)) :
    ∃ c rest, chars = c :: rest ∧ c.isDigit = true := by
  cases chars with
  | nil => simp [readNumber, brokenNumber] at read
  | cons c chars =>
    refine ⟨c, chars, rfl, ?_⟩
    by_cases isZero : c = '0'
    · rw [isZero]
      decide
    · rw [readNumber_eq negative isZero] at read
      by_contra noDigit
      simp [readRow, noDigit, brokenNumber] at read

end TestGate.Json
