import TestGate.Issue.Reference
import TestGate.Json.Basic
import TestGate.Text.Number
import TestGate.Text.Quoted

/-!
Notices for the log. Each has a level, the name of the part of the program that it comes from, a
message and named values.
-/

namespace TestGate

open Text

/-- How much a notice matters. -/
inductive Level where
  | debug
  | info
  | warn
deriving DecidableEq, Repr, Inhabited

namespace Level

/-- The place of a level in rising order. -/
def rank : Level → Nat
  | debug => 1
  | info => 2
  | warn => 3

def name : Level → String
  | debug => "DEBUG"
  | info => "INFO"
  | warn => "WARN"

end Level

/-- What a run has to say about its work. -/
inductive Notice where
  /-- A marker gives a reason that is no issue. -/
  | freeTextReason (nodeId marker : String)
  /-- The manifest has been scanned. -/
  | collected (items issues : Nat)
  /-- A requested cache file is not there. -/
  | cacheMissing (path : String)
  /-- A cache file was written for another version. -/
  | cacheOutdated (path writtenFor serverVersion : String)
  /-- A cache file is used. -/
  | cacheUsed (path : String) (issues : Nat)
  /-- A cache file has been written. -/
  | cacheWritten (path : String) (issues : Nat)
  /-- Issues without data are about to be resolved. -/
  | resolving (tracker : Issue.Tracker) (count : Nat)
  /-- The same issues have been asked for before. -/
  | remembered (tracker : Issue.Tracker) (ids : List String)
  /-- A tracker is about to be asked. -/
  | calling (tracker : Issue.Tracker) (ids : List String)
  /-- The issue behind a duplicate is about to be fetched. -/
  | fetchingDuplicate (issue : Issue.Reference)
  /-- A tracker cannot be asked without credentials. -/
  | noCredentials (tracker : Issue.Tracker) (count : Nat)
  /-- A tracker does not know an issue. -/
  | notFound (tracker : Issue.Tracker) (id : String)
  /-- A tracker gave no answer. -/
  | unavailable (tracker : Issue.Tracker) (error : String)
  /-- A call failed and is about to be repeated. -/
  | retrying (tracker : Issue.Tracker) (attempt maxAttempts : Nat) (error : String) (delay : Nat)
  /-- A test is dropped from the run. -/
  | deselecting (nodeId reason : String)
  /-- A search has another page of results. -/
  | nextPage (offset total : Nat)
  /-- A search gave fewer results than it counted. -/
  | fewerIssues (total returned : Nat)
deriving DecidableEq, Repr, Inhabited

namespace Notice

def level : Notice → Level
  | freeTextReason .. | remembered .. | calling .. | fetchingDuplicate .. | deselecting ..
  | nextPage .. => .debug
  | collected .. | cacheOutdated .. | cacheUsed .. | cacheWritten .. | resolving .. => .info
  | cacheMissing .. | noCredentials .. | notFound .. | unavailable .. | retrying ..
  | fewerIssues .. => .warn

/-- The part of the program that a notice comes from. -/
def target : Notice → String
  | freeTextReason .. => "issuegate::collect::collector"
  | collected .. => "issuegate::commands::collect"
  | cacheMissing .. | cacheOutdated .. | cacheUsed .. | cacheWritten .. => "issuegate::cache"
  | resolving .. | remembered .. | calling .. | fetchingDuplicate .. | noCredentials ..
  | notFound .. | unavailable .. => "issuegate::resolve::context"
  | retrying .. => "issuegate::resolve::retry"
  | deselecting .. => "issuegate::apply"
  | nextPage .. | fewerIssues .. => "issuegate::adapters::live::jira"

/-- A duration in the shortest form: seconds, or nanoseconds when there are none. -/
def durationText (seconds : Nat) : String :=
  if seconds = 0 then "0ns" else natText seconds ++ "s"

def message : Notice → String
  | freeTextReason .. => "marker reason is not an issue reference"
  | collected .. => "Collected issue references"
  | cacheMissing .. => "Cache file not found, it will be written after this run"
  | cacheOutdated .. => "Cache written for another version, recomputing issue status"
  | cacheUsed .. => "Using cached issue data"
  | cacheWritten .. => "Wrote issue cache"
  | resolving .. => "Resolving issues"
  | remembered .. => "Memo hit"
  | calling .. => "Calling tracker API"
  | fetchingDuplicate .. => "Fetching duplicate target"
  | noCredentials .. => "No API key configured, treating issues as open"
  | notFound .. => "Issue not found, treating as open"
  | unavailable .. => "Tracker unavailable, treating issues as open"
  | retrying _ _ _ _ delay => "Tracker call failed, retrying in " ++ durationText delay
  | deselecting .. => "Deselecting"
  | nextPage .. => "Fetching next Jira result page"
  | fewerIssues .. => "Jira returned fewer issues than it matched"

def values : Notice → List (String × Json)
  | freeTextReason nodeId marker => [("node_id", .text nodeId), ("marker", .text marker)]
  | collected items issues => [("items", Json.ofNat items), ("issues", Json.ofNat issues)]
  | cacheMissing path => [("path", .text path)]
  | cacheOutdated path writtenFor serverVersion =>
    [("path", .text path), ("written_for", .text writtenFor),
      ("server_version", .text serverVersion)]
  | cacheUsed path issues | cacheWritten path issues =>
    [("path", .text path), ("issues", Json.ofNat issues)]
  | resolving tracker count | noCredentials tracker count =>
    [("tracker", .text tracker.tag), ("count", Json.ofNat count)]
  | remembered tracker ids | calling tracker ids =>
    [("tracker", .text tracker.tag), ("ids", .text (quotedList ids))]
  | fetchingDuplicate issue => [("issue", .text issue.toText)]
  | notFound tracker id => [("tracker", .text tracker.tag), ("id", .text id)]
  | unavailable tracker error => [("tracker", .text tracker.tag), ("error", .text error)]
  | retrying tracker attempt maxAttempts error _ =>
    [("tracker", .text tracker.tag), ("attempt", Json.ofNat attempt),
      ("max_attempts", Json.ofNat maxAttempts), ("error", .text error)]
  | deselecting nodeId reason => [("node_id", .text nodeId), ("reason", .text reason)]
  | nextPage offset total => [("offset", Json.ofNat offset), ("total", Json.ofNat total)]
  | fewerIssues total returned => [("total", Json.ofNat total), ("returned", Json.ofNat returned)]

def toJson (notice : Notice) : Json :=
  .object [("level", .text notice.level.name), ("target", .text notice.target),
    ("fields", .object (("message", .text notice.message) :: notice.values))]

end Notice

end TestGate
