import TestGate.Issue.Tracker

/-!
References to issues: a tracker and the id of an issue there, written `BZ:1625783`. References are
ordered by tracker and then by id.
-/

namespace TestGate.Issue

open Text

/-- An issue of a tracker. -/
structure Reference where
  tracker : Tracker
  id : String
deriving DecidableEq, Repr, Inhabited

namespace Reference

/-- The tag of the tracker and the id, parted by a colon. -/
def toText (reference : Reference) : String :=
  reference.tracker.tag ++ ":" ++ reference.id

instance : ToString Reference := ⟨toText⟩

/-- Reads a reference: a tag, a colon and an id that is not blank. Blanks around both are dropped.
-/
def parse? (text : String) : Option Reference :=
  match text.toList.span (· != ':') with
  | (tag, _ :: id) =>
    match Tracker.ofTag? (String.ofList tag), trimChars id with
    | some _, [] => none
    | some tracker, id => some ⟨tracker, String.ofList id⟩
    | none, _ => none
  | (_, []) => none

instance : Ord Reference := ⟨compareLex (compareOn tracker) (compareOn id)⟩

instance : Std.TransOrd Reference :=
  inferInstanceAs (Std.TransCmp (compareLex (compareOn tracker) (compareOn id)))

instance : Std.LawfulEqOrd Reference where
  eq_of_compare {left right} same := by
    obtain ⟨sameTracker, sameId⟩ := Ordering.then_eq_eq.mp same
    have trackers : left.tracker = right.tracker := Std.LawfulEqCmp.eq_of_compare sameTracker
    have ids : left.id = right.id := Std.LawfulEqCmp.eq_of_compare sameId
    cases left
    cases right
    simp_all

end Reference

end TestGate.Issue
