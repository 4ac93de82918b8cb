/-!
Sets of characters given by ranges of code points. All tables of characters follow Unicode 16, so
that they agree on what has been assigned.
-/

namespace TestGate.Text

/-- A set of characters given by inclusive ranges of code points. -/
structure CharSet where
  ranges : List (Nat × Nat)

/-- A character belongs to the set when its code point lies in one of the ranges. -/
def CharSet.contains (set : CharSet) (c : Char) : Bool :=
  set.ranges.any fun (first, last) => first ≤ c.toNat && c.toNat ≤ last

theorem CharSet.contains_iff
    (set : CharSet) (c : Char) :
    set.contains c = true ↔
      ∃ range ∈ set.ranges, range.1 ≤ c.toNat ∧ c.toNat ≤ range.2 := by
  simp [CharSet.contains, List.any_eq_true]

end TestGate.Text
