/-!
Natural numbers written in decimal. Main statement: the digits of a number are read as that number.
-/

namespace TestGate.Text

/-- The decimal digits of `n`, without leading zeros. -/
def natChars (n : Nat) : List Char :=
  Nat.toDigits 10 n

/-- The decimal text of `n`. -/
def natText (n : Nat) : String :=
  String.ofList (natChars n)

/-- The decimal text of `n`, with a leading minus below zero. -/
def intText (n : Int) : String :=
  match n with
  | .ofNat magnitude => natText magnitude
  | .negSucc below => "-" ++ natText (below + 1)

def digitsValue (digits : List Char) : Nat :=
  Nat.ofDigitChars 10 digits 0

/-- Reads a nonempty row of ASCII digits; leading zeros are allowed. -/
def readNat? (chars : List Char) : Option Nat :=
  if !chars.isEmpty && chars.all Char.isDigit then some (digitsValue chars) else none

/-- The text of `n`, filled up with zeros on the left to `width` characters. -/
def paddedNat (width n : Nat) : String :=
  let digits := natChars n
  String.ofList (List.replicate (width - digits.length) '0' ++ digits)

theorem natChars_ne_nil
    (n : Nat) :
    natChars n ≠ [] := by
  simp [natChars]

theorem isDigit_of_mem_natChars
    {n : Nat} {c : Char}
    (member : c ∈ natChars n) :
    c.isDigit = true :=
  Nat.isDigit_of_mem_toDigits (by decide) (by decide) member

theorem digitsValue_natChars
    (n : Nat) :
    digitsValue (natChars n) = n :=
  Nat.ofDigitChars_toDigits (by decide) (by decide)

end TestGate.Text
