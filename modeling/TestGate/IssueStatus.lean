import TestGate.Cache.Plan
import TestGate.Conclusion
import TestGate.Resolver

/-!
The status of single issues: what the tracker says about each and what follows for tests. Cache
files are read if asked for, and never written.
-/

namespace TestGate

open Issue

/-- What is found out about an issue. -/
structure IssueStatus where
  issue : Reference
  record : Record
  isOpen : Bool
  shouldDeselect : Bool

namespace IssueStatus

/-- The status and the resolution in the tracker, or that they are unknown. -/
def stateText (status : IssueStatus) : String :=
  if status.record.status = "" then "unknown"
  else if status.record.resolution = "" then status.record.status
  else status.record.status ++ "/" ++ status.record.resolution

def line (status : IssueStatus) : String :=
  status.issue.toText ++ "  " ++ status.stateText
    ++ "  is_open=" ++ toString status.isOpen
    ++ "  should_deselect=" ++ toString status.shouldDeselect
    ++ (match status.record.error with
      | some error => "  (" ++ error ++ ")"
      | none => "")
    ++ "\n"

def toJson (status : IssueStatus) : Json :=
  .object <|
    [("issue", .text status.issue.toText), ("status", .text status.record.status),
      ("resolution", .text status.record.resolution), ("is_open", .bool status.isOpen),
      ("should_deselect", .bool status.shouldDeselect)]
      ++ optionMember "error" .text status.record.error

def reportText (form : ReportForm) (statuses : List IssueStatus) : String :=
  match form with
  | .text => String.join (statuses.map line)
  | .json => (Json.list (statuses.map toJson)).reportText

end IssueStatus

namespace Run

variable {σ : Type}

def status (sources : IssueSources σ) (issue : Reference) (run : Run σ) :
    Except Failure IssueStatus × Run σ :=
  match run.isOpen sources issue with
  | (.error failure, run) => (.error failure, run)
  | (.ok isOpen, run) =>
    match run.shouldDeselect sources issue with
    | (.error failure, run) => (.error failure, run)
    | (.ok shouldDeselect, run) =>
      let record := (run.session.index.record? issue).getD {}
      (.ok { issue, record, isOpen, shouldDeselect }, run)

/-- Finds out about issues, one after another. -/
def statuses (sources : IssueSources σ) :
    List Reference → Run σ → Except Failure (List IssueStatus) × Run σ
  | [], run => (.ok [], run)
  | issue :: issues, run =>
    match run.status sources issue with
    | (.error failure, run) => (.error failure, run)
    | (.ok status, run) =>
      match statuses sources issues run with
      | (.error failure, run) => (.error failure, run)
      | (.ok others, run) => (.ok (status :: others), run)

end Run

variable {φ σ : Type} [Storage φ]

/-- The session of a run under some settings, with what the cache files hold. -/
def Session.start (settings : Settings) (index cached : Index) : Session :=
  Session.withCache
    { serverVersion := settings.serverVersion, policy := settings.retryPolicy, index := index }
    cached

def checkIssues
    (settings : Settings) (sources : IssueSources σ) (issues : List Reference)
    (cache : CacheChoice) (files : φ) (world : World σ) :
    Conclusion φ σ (List IssueStatus) :=
  let version := settings.serverVersion
  let plan := Cache.Plan.make files cache.directory cache.requested
  let world := world.noteAll (plan.loadNotices files version)
  match plan.load files version with
  | .error failure => ⟨.error failure, files, world⟩
  | .ok cached =>
    let start : Run σ := ⟨Session.start settings SortedMap.empty cached, world⟩
    let (outcome, run) := start.statuses sources issues
    ⟨outcome, files, run.world⟩

end TestGate
