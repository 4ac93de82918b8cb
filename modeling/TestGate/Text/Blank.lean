import TestGate.Text.CharSet

/-!
Blank characters, and the three ways in which blanks part a text: trimming, words, and lists with
a separator. Main statement: no piece holds what parts it from the next.
-/

namespace TestGate.Text

/-- The white space of every script, line ends included. -/
def blankChars : CharSet where
  ranges := [
    (0x9, 0xD), (0x20, 0x20), (0x85, 0x85), (0xA0, 0xA0), (0x1680, 0x1680), (0x2000, 0x200A),
    (0x2028, 0x2029), (0x202F, 0x202F), (0x205F, 0x205F), (0x3000, 0x3000)]

/-- White space of any script. -/
def isBlank (c : Char) : Bool :=
  blankChars.contains c

/-! ## Trimming -/

def trimEnd (chars : List Char) : List Char :=
  (chars.reverse.dropWhile isBlank).reverse

def trimChars (chars : List Char) : List Char :=
  trimEnd (chars.dropWhile isBlank)

def trim (text : String) : String :=
  String.ofList (trimChars text.toList)

/-! ## Parts -/

/-- The pieces of `chars` between the characters that satisfy `isSeparator`; always at least one. -/
def splitWhere (isSeparator : Char → Bool) : List Char → List (List Char)
  | [] => [[]]
  | c :: rest =>
    if isSeparator c then
      [] :: splitWhere isSeparator rest
    else
      match splitWhere isSeparator rest with
      | [] => [[c]]
      | part :: parts => (c :: part) :: parts

/-- The words of a text: its longest pieces without a blank. -/
def words (chars : List Char) : List (List Char) :=
  (splitWhere isBlank chars).filter fun word => !word.isEmpty

/-- The parts of a comma-separated list, trimmed, blank ones left out. -/
def listed (chars : List Char) : List String :=
  ((splitWhere (· == ',') chars).map trimChars).filter (fun part => !part.isEmpty)
    |>.map String.ofList

theorem splitWhere_ne_nil
    (isSeparator : Char → Bool) (chars : List Char) :
    splitWhere isSeparator chars ≠ [] := by
  cases chars with
  | nil => simp [splitWhere]
  | cons c rest =>
    unfold splitWhere
    split
    · simp
    · split <;> simp

/-- No piece holds a separator. -/
theorem not_isSeparator_of_mem_splitWhere
    {isSeparator : Char → Bool} {chars part : List Char} {c : Char}
    (partMember : part ∈ splitWhere isSeparator chars)
    (charMember : c ∈ part) :
    isSeparator c = false := by
  induction chars generalizing part with
  | nil =>
    simp [splitWhere] at partMember
    simp [partMember] at charMember
  | cons head rest inductionHypothesis =>
    unfold splitWhere at partMember
    split at partMember
    · rcases List.mem_cons.mp partMember with rfl | member
      · simp at charMember
      · exact inductionHypothesis member charMember
    · rename_i headNot
      split at partMember
      · rename_i equality
        exact absurd equality (splitWhere_ne_nil isSeparator rest)
      · rename_i first parts equality
        rcases List.mem_cons.mp partMember with rfl | member
        · rcases List.mem_cons.mp charMember with rfl | inFirst
          · simpa using headNot
          · exact inductionHypothesis (by simp [equality]) inFirst
        · exact inductionHypothesis (by simp [equality, member]) charMember

end TestGate.Text
