import TestGate.Collection
import TestGate.Resolver

/-!
The fate of each test. A test whose primary issue is obsolete is dropped whatever the filters say; a
test that the filters do not admit is dropped; a test whose guard is open is skipped; all others are
selected.
-/

namespace TestGate

open Issue Text

/-! ## Filters -/

/-- The ids that tests must refer to, for each tracker that is filtered by. -/
structure Filters where
  bugzilla : Option (List String) := none
  jira : Option (List String) := none
deriving DecidableEq, Repr, Inhabited

namespace Filters

/-- The ids of a filter, trimmed and without blank ones; a filter without ids is none. -/
def clean (ids : List String) : Option (List String) :=
  let ids := SortedMap.distinct ((ids.map trim).filter (· != ""))
  if ids.isEmpty then none else some ids

def make (bugzilla jira : Option (List String)) : Filters where
  bugzilla := bugzilla.bind clean
  jira := jira.bind clean

def ids? (filters : Filters) : Tracker → Option (List String)
  | .bugzilla => filters.bugzilla
  | .jira => filters.jira

/-- Whether a test refers, for each tracker that is filtered by, to one of the ids. -/
def admits (filters : Filters) (item : CollectedItem) : Bool :=
  Tracker.all.all fun tracker =>
    (filters.ids? tracker).all fun ids => ids.any fun id => (item.marks tracker).contains id

end Filters

/-! ## Reports -/

/-- What happens to a test. -/
inductive Outcome where
  /-- The test runs, as a skip if a reason is given. -/
  | selected (skip : Option String)
  /-- The test is removed from the run. -/
  | deselected (reason : String)
deriving DecidableEq, Repr, Inhabited

/-- The fate of one test. -/
structure ItemReport where
  nodeId : String
  outcome : Outcome
deriving DecidableEq, Repr, Inhabited

/-- The fates of all tests, in the order of the manifest. -/
structure Report where
  items : List ItemReport := []
deriving DecidableEq, Repr, Inhabited

namespace Outcome

def isSelected : Outcome → Bool
  | selected _ => true
  | deselected _ => false

def isSkipped : Outcome → Bool
  | selected skip => skip.isSome
  | deselected _ => false

def isDeselected : Outcome → Bool
  | selected _ => false
  | deselected _ => true

end Outcome

namespace Report

/-- The ids of the tests with a certain outcome. -/
def idsWhere (report : Report) (condition : Outcome → Bool) : List String :=
  (report.items.filter fun item => condition item.outcome).map ItemReport.nodeId

/-- The tests that run, skipped ones included. -/
def selected (report : Report) : List String :=
  report.idsWhere Outcome.isSelected

def skipped (report : Report) : List String :=
  report.idsWhere Outcome.isSkipped

def deselected (report : Report) : List String :=
  report.idsWhere Outcome.isDeselected

/-- The outcome of a test, if it was collected. -/
def outcome? (report : Report) (nodeId : String) : Option Outcome :=
  (report.items.find? fun item => item.nodeId == nodeId).map ItemReport.outcome

def line (item : ItemReport) : String :=
  match item.outcome with
  | .selected none => "SELECTED    " ++ item.nodeId ++ "\n"
  | .selected (some reason) => "SKIPPED     " ++ item.nodeId ++ " (" ++ reason ++ ")\n"
  | .deselected reason => "DESELECTED  " ++ item.nodeId ++ " (" ++ reason ++ ")\n"

def summary (report : Report) : String :=
  natText report.selected.length ++ " selected, " ++ natText report.skipped.length ++ " skipped, "
    ++ natText report.deselected.length ++ " deselected\n"

/-- A line for each test, and a summary. -/
def toText (report : Report) : String :=
  String.join (report.items.map line) ++ report.summary

def itemToJson (item : ItemReport) : Json :=
  .object <|
    ("node_id", .text item.nodeId) ::
    match item.outcome with
    | .selected skip => ("outcome", .text "selected") :: optionMember "skip" .text skip
    | .deselected reason => [("outcome", .text "deselected"), ("reason", .text reason)]

def toJson (report : Report) : Json :=
  .object [("items", .list (report.items.map itemToJson))]

end Report

/-! ## Deciding -/

/-- The reason for dropping a test whose primary issue is obsolete. -/
def obsoleteReason (issue : Reference) : String :=
  issue.toText ++ " is closed as obsolete"

/-- The reason for dropping a test that the filters do not admit. -/
def filterReason : String := "not matched by --BZ/--JR filter"

namespace Run

variable {σ : Type}

/-- Whether the primary issue of a test is obsolete, if it has one; if so, this is noted. -/
def isDropped (sources : IssueSources σ) (item : CollectedItem) (run : Run σ) :
    Except Failure (Option Reference) × Run σ :=
  match item.primary with
  | none => (.ok none, run)
  | some primary =>
    match run.shouldDeselect sources primary with
    | (.ok true, run) => (.ok (some primary), run.markDeselected primary)
    | (.ok false, run) => (.ok none, run)
    | (.error failure, run) => (.error failure, run)

/-- The outcome of a test that is not dropped. -/
def guardOutcome (sources : IssueSources σ) (item : CollectedItem) (run : Run σ) :
    Except Failure Outcome × Run σ :=
  match item.guard with
  | none => (.ok (.selected none), run)
  | some guard =>
    match run.isOpen sources guard with
    | (.ok true, run) => (.ok (.selected (some guard.toText)), run)
    | (.ok false, run) => (.ok (.selected none), run)
    | (.error failure, run) => (.error failure, run)

def decideItem (sources : IssueSources σ) (filters : Filters) (item : CollectedItem) (run : Run σ) :
    Except Failure Outcome × Run σ :=
  match run.isDropped sources item with
  | (.error failure, run) => (.error failure, run)
  | (.ok (some primary), run) => (.ok (.deselected (obsoleteReason primary)), run)
  | (.ok none, run) =>
    if filters.admits item then
      run.guardOutcome sources item
    else
      (.ok (.deselected filterReason), run)

/-- Puts a notice on a dropped test into the journal. -/
def noteOutcome (item : CollectedItem) (outcome : Outcome) (run : Run σ) : Run σ :=
  match outcome with
  | .deselected reason => run.note (.deselecting item.nodeId reason)
  | .selected _ => run

/-- The fates of tests, decided one after another. -/
def decideAll (sources : IssueSources σ) (filters : Filters) :
    List CollectedItem → Run σ → Except Failure (List ItemReport) × Run σ
  | [], run => (.ok [], run)
  | item :: items, run =>
    match run.decideItem sources filters item with
    | (.error failure, run) => (.error failure, run)
    | (.ok outcome, run) =>
      match decideAll sources filters items (run.noteOutcome item outcome) with
      | (.error failure, run) => (.error failure, run)
      | (.ok reports, run) => (.ok (⟨item.nodeId, outcome⟩ :: reports), run)

def report (sources : IssueSources σ) (filters : Filters) (items : List CollectedItem)
    (run : Run σ) :
    Except Failure Report × Run σ :=
  match decideAll sources filters items run with
  | (.ok items, run) => (.ok ⟨items⟩, run)
  | (.error failure, run) => (.error failure, run)

end Run

end TestGate
