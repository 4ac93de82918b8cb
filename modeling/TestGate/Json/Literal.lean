import TestGate.Json.Tree
import TestGate.Text.Hex
import TestGate.Text.Number

/-!
The leaves of JSON texts: words, numbers and quoted texts.

A number with a fraction, an exponent or more digits than fit is a double. Its leading digits are
kept as a whole number of 64 bits, digits that no longer fit only move the decimal point, and the
outcome is scaled by a power of ten.
-/

namespace TestGate.Json

open Text

/-- What a reader knows after a leaf: the leaf, and the text behind it unless the text stops. -/
abbrev Reading := Tree × Option (List Char)

/-- A text that stops with the same fault for all readers. -/
def Reading.stop (fault : Fault) : Reading :=
  (.broken fault fault, none)

/-! ## Words -/

/-- Passes over `expected` at the front of the text. -/
def passOver (expected text : List Char) : Except Fault (List Char) :=
  match expected, text with
  | [], rest => .ok rest
  | _ :: _, [] => .error .truncated
  | wanted :: expected, c :: rest =>
    if c = wanted then passOver expected rest else .error .malformed

def readWord (word : List Char) (value : Tree) (text : List Char) : Reading :=
  match passOver word text with
  | .ok rest => (value, some rest)
  | .error fault => .stop fault

/-! ## Numbers -/

def largestWhole : Nat := Nat.pow 2 64 - 1

/-- The parts of a number: whole digits, fraction digits and exponent. -/
structure NumberParts where
  negative : Bool
  whole : List Char
  fraction : Option (List Char)
  exponent : Option Int

/-- Where a number breaks off: at the end of the text a strict reader expects more of it. -/
def brokenNumber (rest : List Char) : Reading :=
  (.broken (if rest.isEmpty then .truncated else .malformed) .malformed, none)

/-- Appends digits to a number as long as it fits in 64 bits; also gives the digits left over. -/
def appendDigits (start : Nat) : List Char → Nat × List Char
  | [] => (start, [])
  | digit :: digits =>
    let longer := start * 10 + (digit.toNat - '0'.toNat)
    if longer ≤ largestWhole then appendDigits longer digits else (start, digit :: digits)

/-- The number with these parts, or `none` beyond the largest double. -/
def NumberParts.toNumber? (parts : NumberParts) : Option Number :=
  let (whole, wholeLeft) := appendDigits 0 parts.whole
  match parts.fraction, parts.exponent with
  | none, none =>
    if wholeLeft.isEmpty ∧ (!parts.negative ∨ (0 < whole ∧ whole ≤ Nat.pow 2 63)) then
      some (.integer (if parts.negative then -(whole : Int) else whole))
    else
      (Double.ofScaled parts.negative whole wholeLeft.length).map .double
  | fraction, exponent =>
    let fraction := fraction.getD []
    let (digits, fractionLeft) := appendDigits whole fraction
    let kept := fraction.length - fractionLeft.length
    let scale := (wholeLeft.length : Int) - kept + exponent.getD 0
    (Double.ofScaled parts.negative digits scale).map .double

/-- The number with these parts, as a leaf. -/
def NumberParts.toTree (parts : NumberParts) : Tree :=
  match parts.toNumber? with
  | some value => .number value
  | none => .unsound

/-- Reads an exponent behind its letter and finishes the number. -/
def readExponent (parts : NumberParts) (text : List Char) : Reading :=
  let (negative, rest) :=
    match text with
    | '+' :: rest => (false, rest)
    | '-' :: rest => (true, rest)
    | rest => (false, rest)
  let digits := rest.takeWhile Char.isDigit
  let behind := rest.dropWhile Char.isDigit
  if digits.isEmpty then
    brokenNumber behind
  else
    let size : Int := digitsValue digits
    ({ parts with exponent := some (if negative then -size else size) }.toTree, some behind)

/-- Reads what may follow the whole digits or the fraction: an exponent. -/
def finishNumber (parts : NumberParts) : List Char → Reading
  | 'e' :: rest | 'E' :: rest => readExponent parts rest
  | rest => (parts.toTree, some rest)

/-- Reads what may follow the whole digits: a fraction and an exponent. -/
def readFraction (parts : NumberParts) : List Char → Reading
  | '.' :: rest =>
    let digits := rest.takeWhile Char.isDigit
    let behind := rest.dropWhile Char.isDigit
    if digits.isEmpty then
      brokenNumber behind
    else
      finishNumber { parts with fraction := some digits } behind
  | rest => finishNumber parts rest

/-- Reads a number behind its sign. Only a zero alone starts with zero. -/
def readNumber (negative : Bool) (text : List Char) : Reading :=
  match text with
  | '0' :: rest =>
    if rest.head?.any Char.isDigit then
      .stop .malformed
    else
      readFraction ⟨negative, ['0'], none, none⟩ rest
  | rest =>
    let digits := rest.takeWhile Char.isDigit
    let behind := rest.dropWhile Char.isDigit
    if digits.isEmpty then
      brokenNumber behind
    else
      readFraction ⟨negative, digits, none, none⟩ behind

/-! ## Quoted texts -/

/-- A piece of a quoted text: a character, or a unit of 16 bits written with four digits. -/
inductive Piece where
  | plain (char : Char)
  | unit (value : Nat)
deriving DecidableEq, Repr

def escaped? : Char → Option Char
  | '"' => some '"'
  | '\\' => some '\\'
  | '/' => some '/'
  | 'b' => some '\x08'
  | 'f' => some '\x0c'
  | 'n' => some '\n'
  | 'r' => some '\r'
  | 't' => some '\t'
  | _ => none

/-- The fault of an escape whose four digits are not all there: four bytes of text are looked at
before the text counts as ended. -/
def shortEscapeFault (rest : List Char) : Fault :=
  if (String.ofList rest).utf8ByteSize < 4 then .truncated else .malformed

/-- The pieces up to the closing quote, and the text behind it or the fault that comes first. -/
def readPieces : List Char → List Piece × Except Fault (List Char)
  | [] => ([], .error .truncated)
  | '"' :: rest => ([], .ok rest)
  | ['\\'] => ([], .error .truncated)
  | '\\' :: 'u' :: a :: b :: c :: d :: rest =>
    match hexValue? [a, b, c, d] with
    | some value =>
      let (pieces, outcome) := readPieces rest
      (.unit value :: pieces, outcome)
    | none => ([], .error .malformed)
  | '\\' :: 'u' :: rest => ([], .error (shortEscapeFault rest))
  | '\\' :: c :: rest =>
    match escaped? c with
    | some char =>
      let (pieces, outcome) := readPieces rest
      (.plain char :: pieces, outcome)
    | none => ([], .error .malformed)
  | c :: rest =>
    if c.toNat < 0x20 then
      ([], .error .malformed)
    else
      let (pieces, outcome) := readPieces rest
      (.plain c :: pieces, outcome)

/-- The first half of a pair of units. -/
def isHighUnit (value : Nat) : Bool :=
  0xD800 ≤ value && value ≤ 0xDBFF

/-- The second half of a pair of units. -/
def isLowUnit (value : Nat) : Bool :=
  0xDC00 ≤ value && value ≤ 0xDFFF

/-- The text that the pieces stand for; a half of a pair alone stands for nothing. -/
def joinPieces? : List Piece → Option (List Char)
  | [] => some []
  | .plain char :: rest => (joinPieces? rest).map (char :: ·)
  | .unit high :: .unit low :: rest =>
    if isHighUnit high then
      if isLowUnit low then
        (joinPieces? rest).map
          (Char.ofNat ((high - 0xD800) * 0x400 + (low - 0xDC00) + 0x10000) :: ·)
      else
        none
    else if isLowUnit high then
      none
    else
      (joinPieces? (.unit low :: rest)).map (Char.ofNat high :: ·)
  | .unit value :: rest =>
    if isHighUnit value || isLowUnit value then
      none
    else
      (joinPieces? rest).map (Char.ofNat value :: ·)

/-- The pieces without a first half of a pair at their end. -/
def dropOpenPair (pieces : List Piece) : List Piece :=
  match pieces.getLast? with
  | some (.unit value) => if isHighUnit value then pieces.dropLast else pieces
  | _ => pieces

/-- A quoted text behind its opening quote. -/
inductive Quoted where
  | sound (text : String) (rest : List Char)
  | unsound (rest : List Char)
  | broken (strict skipping : Fault)

def readQuoted (text : List Char) : Quoted :=
  match readPieces text with
  | (pieces, .ok rest) =>
    match joinPieces? pieces with
    | some chars => .sound (String.ofList chars) rest
    | none => .unsound rest
  | (pieces, .error fault) =>
    let strict := if (joinPieces? (dropOpenPair pieces)).isSome then fault else .malformed
    .broken strict fault

end TestGate.Json
