import TestGate.IssueSource
import TestGate.SortedMap

/-!
Sources whose answers are prepared beforehand: from a table of records, after some failures, or one
answer after another.
-/

namespace TestGate

open Issue

/-- Prepared answers. -/
inductive PreparedSource where
  /-- A table of records by id; the next calls fail, as many as given. -/
  | table (failures : Nat) (records : SortedMap String Record)
  /-- The answers to the next calls; behind them every call fails. -/
  | script (replies : List (Except String (List Record)))

namespace PreparedSource

instance : Inhabited PreparedSource := ⟨table 0 SortedMap.empty⟩

/-- A table with these records; of two with one id the later counts. -/
def ofRecords (failures : Nat) (records : List Record) : PreparedSource :=
  table failures (SortedMap.ofList (records.map fun record => (record.id, record)))

/-- Answers a call: a table gives the records it has, in the order in which they are asked for. -/
def answer (tracker : Tracker) (ids : List String) :
    PreparedSource → Except String (List Record) × PreparedSource
  | table 0 records => (.ok (ids.filterMap records.find?), table 0 records)
  | table (failures + 1) records =>
    (.error (tracker.tag ++ " tracker unavailable"), table failures records)
  | script [] => (.error "script exhausted", script [])
  | script (reply :: replies) => (reply, script replies)

end PreparedSource

/-- A prepared source for each tracker. -/
structure PreparedSources where
  bugzilla : PreparedSource := default
  jira : PreparedSource := default
deriving Inhabited

namespace PreparedSources

def get (prepared : PreparedSources) : Tracker → PreparedSource
  | .bugzilla => prepared.bugzilla
  | .jira => prepared.jira

def set (prepared : PreparedSources) (source : PreparedSource) : Tracker → PreparedSources
  | .bugzilla => { prepared with bugzilla := source }
  | .jira => { prepared with jira := source }

/-- Prepared sources at work; `hasCredentials` tells which trackers may be asked. -/
def sources (hasCredentials : Tracker → Bool) : IssueSources PreparedSources := fun tracker =>
  { hasCredentials := hasCredentials tracker
    fetch := fun ids prepared =>
      let (outcome, source) := (prepared.get tracker).answer tracker ids
      ({ outcome := outcome }, prepared.set source tracker) }

end PreparedSources

end TestGate
