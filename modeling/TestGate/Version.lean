import TestGate.Text.Blank
import TestGate.Text.Digit
import TestGate.Text.Number

/-!
Product versions: numbers parted by points, compared number by number. Missing numbers at the end
count as zeros, so `6.10` and `6.10.0` are equivalent though they are different versions.
-/

namespace TestGate

open Text

/-- A product version: at least one component, the most significant first. -/
structure Version where
  components : List UInt64
  ne_nil : components ≠ [] := by simp
deriving DecidableEq

namespace Version

/-- The version below which there is no other. -/
def zero : Version where
  components := [0]

instance : Inhabited Version := ⟨zero⟩

/-! ## Order -/

/-- Compares component by component, filling up the shorter side with zeros. -/
def compareComponents : List UInt64 → List UInt64 → Ordering
  | [], rights => if rights.all (· == 0) then .eq else .lt
  | left :: lefts, [] => if (left :: lefts).all (· == 0) then .eq else .gt
  | left :: lefts, right :: rights => (compare left right).then (compareComponents lefts rights)

instance : Ord Version := ⟨fun left right => compareComponents left.components right.components⟩

/-- Whether two versions are equal up to zeros at the end. -/
def equivalent (left right : Version) : Bool :=
  compare left right == .eq

/-- Whether `left` comes before `right`. -/
def before (left right : Version) : Bool :=
  compare left right == .lt

/-- Whether `left` comes before `right` or is equivalent to it. -/
def atMost (left right : Version) : Bool :=
  compare left right != .gt

/-- The earlier version; the first one when they are equivalent. -/
def earlier (left right : Version) : Version :=
  if right.before left then right else left

/-- The earliest version of a list; of equivalent ones the first. -/
def earliest? : List Version → Option Version
  | [] => none
  | version :: versions => some (versions.foldl earlier version)

/-! ## Text -/

def toText (version : Version) : String :=
  ".".intercalate (version.components.map fun component => natText component.toNat)

instance : ToString Version := ⟨toText⟩

/-- Reads one component: ASCII digits that denote a number of 64 bits. -/
def readComponent? (chars : List Char) : Option UInt64 :=
  match readNat? chars with
  | some value => if value < UInt64.size then some (UInt64.ofNat value) else none
  | none => none

def readComponents? (chars : List Char) : Option (List UInt64) :=
  (splitWhere (· == '.') chars).mapM readComponent?

/-- The version that has these components, if there are any. -/
def ofComponents? (components : List UInt64) : Option Version :=
  if nonempty : components = [] then none else some ⟨components, nonempty⟩

/-- Reads a text that is a version and nothing else, blanks around it apart. -/
def parse? (text : String) : Option Version :=
  (readComponents? (trimChars text.toList)).bind ofComponents?

/-- Digits, and points that stand before a digit, as far as they reach. -/
def dottedRun : List Char → List Char
  | [] => []
  | c :: rest =>
    if isDecimalDigit c || (c == '.' && rest.head?.any isDecimalDigit) then
      c :: dottedRun rest
    else
      []

/-- The first row of digits with at least one point between them. -/
def firstDotted? : List Char → Option (List Char)
  | [] => none
  | c :: rest =>
    let run := dottedRun (c :: rest)
    if isDecimalDigit c && run.contains '.' then some run else firstDotted? rest

/-- Finds the first version with at least two components inside a text. -/
def extract? (text : String) : Option Version :=
  (firstDotted? text.toList).bind fun run => parse? (String.ofList run)

end Version

end TestGate
