/-!
Percent encoding: a character that may not stand for itself is written as the bytes of its UTF-8
form, each as a percent sign and two capital digits in base sixteen.
-/

namespace TestGate.Text

/-- A digit in base sixteen, in capital letters. -/
def hexDigit (value : Nat) : Char :=
  (Nat.digitChar value).toUpper

def percentByte (byte : UInt8) : List Char :=
  ['%', hexDigit (byte.toNat / 16), hexDigit (byte.toNat % 16)]

/-- The bytes of a character, each behind a percent sign. -/
def percentChar (c : Char) : List Char :=
  (String.utf8EncodeChar c).flatMap percentByte

/-- A text in which the characters that are not `isKept` are encoded. -/
def percentEncode (isKept : Char → Bool) (chars : List Char) : List Char :=
  chars.flatMap fun c => if isKept c then [c] else percentChar c

end TestGate.Text
