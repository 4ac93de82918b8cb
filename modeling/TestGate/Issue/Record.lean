import TestGate.Json.Basic

/-!
What a tracker says about an issue, with the verdicts derived from it. A fallback record stands in
for an issue about which nothing is known; it is open and never obsolete.
-/

namespace TestGate.Issue

/-- A flag of an issue, such as an acknowledged version. -/
structure Flag where
  name : String
  status : String := ""
deriving DecidableEq, Repr, Inhabited

/-- What is known about an issue. Fields that a tracker sends and nobody asks about are kept in
`extra`. -/
structure Record where
  id : String := ""
  status : String := ""
  resolution : String := ""
  fixVersions : List String := []
  targetMilestone : Option String := none
  flags : List Flag := []
  duplicateOf : Option String := none
  cloneIds : List String := []
  cloneOf : String := ""
  clones : List Record := []
  isOpen : Option Bool := none
  isDeselected : Option Bool := none
  error : Option String := none
  extra : SortedMap String Json := SortedMap.empty
deriving BEq, Inhabited

namespace Record

/-- The record of an issue about which nothing is known, for the given reason. -/
def fallback (id reason : String) : Record where
  id := id
  isOpen := some true
  isDeselected := some false
  error := some reason

/-- Whether the record stands in for missing data. -/
def isFallback (record : Record) : Bool :=
  record.error.isSome

/-- The record without its verdicts; a fallback record keeps them, since they come from nowhere
else. -/
def forgetVerdicts (record : Record) : Record :=
  if record.isFallback then
    record
  else
    { record with isOpen := none, isDeselected := none }

theorem isFallback_fallback
    (id reason : String) :
    (fallback id reason).isFallback = true := rfl

theorem forgetVerdicts_fallback
    (id reason : String) :
    (fallback id reason).forgetVerdicts = fallback id reason := rfl

end Record

end TestGate.Issue
