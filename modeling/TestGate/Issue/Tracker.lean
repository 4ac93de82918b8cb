import TestGate.Text.Blank

/-!
The two issue trackers and the tags that name them.
-/

namespace TestGate.Issue

open Text

/-- An issue tracker. -/
inductive Tracker where
  | bugzilla
  | jira
deriving DecidableEq, Repr, Inhabited

namespace Tracker

/-- Every tracker, in the order in which they are worked through. -/
def all : List Tracker :=
  [bugzilla, jira]

theorem mem_all (tracker : Tracker) : tracker ∈ all := by
  cases tracker <;> decide

/-- The short name that stands in references. -/
def tag : Tracker → String
  | bugzilla => "BZ"
  | jira => "JR"

def name : Tracker → String
  | bugzilla => "Bugzilla"
  | jira => "Jira"

/-- The tracker with this tag; blanks around it and the case of ASCII letters do not count. -/
def ofTag? (text : String) : Option Tracker :=
  match (trimChars text.toList).map Char.toUpper with
  | ['B', 'Z'] => some bugzilla
  | ['J', 'R'] => some jira
  | _ => none

/-- The place of a tracker among all. -/
def rank : Tracker → Nat
  | bugzilla => 0
  | jira => 1

instance : Ord Tracker := ⟨compareOn rank⟩

instance : Std.TransOrd Tracker :=
  inferInstanceAs (Std.TransCmp (compareOn rank))

instance : Std.LawfulEqOrd Tracker where
  eq_of_compare {left right} same := by
    cases left <;> cases right <;> first | rfl | exact absurd same (by decide)

end Tracker

end TestGate.Issue
