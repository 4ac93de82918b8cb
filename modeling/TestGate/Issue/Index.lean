import TestGate.Issue.Reference
import TestGate.Issue.Record
import TestGate.Location

/-!
The issue index: for each referenced issue what is known about it and where it is used.
-/

namespace TestGate.Issue

/-- One use of an issue by a test or a module. -/
structure Usage where
  location : Location
  component : Option String := none
  importance : Option String := none
  componentMark : Option String := none
  kind : String
deriving DecidableEq, Repr, Inhabited

/-- What the index holds for one issue. -/
structure Entry where
  data : Option Record := none
  usedIn : List Usage := []
  isDuplicateTarget : Bool := false
deriving BEq, Inhabited

abbrev Index := SortedMap Reference Entry

namespace Index

/-- Changes the entry of an issue; a missing entry starts out blank. -/
def update (index : Index) (issue : Reference) (change : Entry → Entry) : Index :=
  index.alter issue fun entry => change (entry.getD {})

/-- Makes sure that an issue has an entry. -/
def touch (index : Index) (issue : Reference) : Index :=
  index.update issue id

def addUsage (index : Index) (issue : Reference) (usage : Usage) : Index :=
  index.update issue fun entry => { entry with usedIn := entry.usedIn ++ [usage] }

def setRecord (index : Index) (issue : Reference) (record : Record) : Index :=
  index.update issue fun entry => { entry with data := some record }

/-- Changes what is known about an issue, if anything is. The issue has an entry afterwards. -/
def updateRecord (index : Index) (issue : Reference) (change : Record → Record) : Index :=
  index.update issue fun entry => { entry with data := entry.data.map change }

def record? (index : Index) (issue : Reference) : Option Record :=
  (index.find? issue).bind Entry.data

/-- The issues of one tracker with their entries, in order. -/
def ofTracker (index : Index) (tracker : Tracker) : List (Reference × Entry) :=
  index.entries.filter fun (issue, _) => issue.tracker = tracker

/-- The index without the verdicts of records that are no fallbacks. -/
def forgetVerdicts (index : Index) : Index :=
  index.mapValues fun _ entry => { entry with data := entry.data.map Record.forgetVerdicts }

end Index

end TestGate.Issue
