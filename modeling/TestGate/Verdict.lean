import TestGate.Issue.Record
import TestGate.Issue.Tracker
import TestGate.Text.AsciiCase
import TestGate.Version

/-!
Verdicts on a single record: is it a duplicate, does its issue still affect a server, is it
obsolete? Each tracker has its own vocabulary of statuses and resolutions. A fix counts from the
lowest version that names it; Bugzilla fixes may also land in clones.
-/

namespace TestGate

open Issue Text

/-- The words of one tracker. -/
structure Vocabulary where
  /-- Statuses of unfinished work. -/
  openStatuses : List String
  /-- Statuses of finished work. -/
  closedStatuses : List String
  /-- Resolutions of work that was finished without a fix. -/
  unfixed : List String
  /-- The resolution of a duplicate. -/
  duplicate : String
deriving DecidableEq, Repr

/-- The resolution that drops tests instead of skipping them. -/
def obsoleteResolution : String := "Obsolete"

def Vocabulary.bugzilla : Vocabulary where
  openStatuses := ["NEW", "ASSIGNED", "POST", "MODIFIED"]
  closedStatuses := ["ON_QA", "VERIFIED", "RELEASE_PENDING", "CLOSED"]
  unfixed := ["WONTFIX", "CANTFIX", "DEFERRED"]
  duplicate := "DUPLICATE"

def Vocabulary.jira : Vocabulary where
  openStatuses := ["New", "Backlog", "Refinement", "To Do", "In Progress", "Review"]
  closedStatuses := ["Release Pending", "Closed"]
  unfixed := [obsoleteResolution]
  duplicate := "Duplicate"

def Issue.Tracker.vocabulary : Tracker → Vocabulary
  | .bugzilla => .bugzilla
  | .jira => .jira

namespace Vocabulary

def isUnfinished (words : Vocabulary) (record : Record) : Bool :=
  words.openStatuses.contains record.status

def isFinished (words : Vocabulary) (record : Record) : Bool :=
  words.closedStatuses.contains record.status

/-- Whether work on the issue has finished without a fix. -/
def isUnfixed (words : Vocabulary) (record : Record) : Bool :=
  words.isFinished record && words.unfixed.contains record.resolution

end Vocabulary

namespace Issue.Record

/-- Whether the record is a duplicate that names another issue. -/
def isDuplicate (record : Record) (tracker : Tracker) : Bool :=
  record.duplicateOf.isSome && equalIgnoringCase record.resolution tracker.vocabulary.duplicate

def duplicated? (record : Record) (tracker : Tracker) : Option String :=
  if record.isDuplicate tracker then record.duplicateOf else none

/-- The lowest fix version of a Jira record; zero when there is none. -/
def jiraFixVersion (record : Record) : Version :=
  (Version.earliest? (record.fixVersions.filterMap Version.extract?)).getD Version.zero

def acknowledgesVersion (flag : Flag) : Bool :=
  flag.status == "+" && flag.name.startsWith "sat-"

/-- The fix version of a Bugzilla record: its target milestone if that is a version, else the lowest
acknowledged one. -/
def bugzillaFixVersion? (record : Record) : Option Version :=
  (record.targetMilestone.bind Version.parse?).or
    (Version.earliest?
      ((record.flags.filter acknowledgesVersion).filterMap fun flag => Version.extract? flag.name))

/-- Whether a clone brought the fix to a server at `version`: it is finished, was not left unfixed
and names a version. -/
def fixesAsClone (clone : Record) (version : Version) : Bool :=
  Vocabulary.bugzilla.isFinished clone && !Vocabulary.bugzilla.isUnfixed clone
    && clone.bugzillaFixVersion?.any fun fixed => fixed.atMost version

/-- Whether a Bugzilla issue or one of its clones was fixed at or below `version`. An issue without
a fix version counts as fixed everywhere. -/
def isFixedAt (record : Record) (version : Version) : Bool :=
  (record.bugzillaFixVersion?.getD Version.zero).atMost version
    || record.clones.any fun clone => clone.fixesAsClone version

/-- Whether the issue still affects a server at `version`. -/
def affects (record : Record) (tracker : Tracker) (version : Version) : Bool :=
  tracker.vocabulary.isUnfinished record || tracker.vocabulary.isUnfixed record ||
    match tracker with
    | .bugzilla => !record.isFixedAt version
    | .jira => version.before record.jiraFixVersion

/-- Whether tests that use the issue should be dropped from the run. -/
def isObsolete (record : Record) (tracker : Tracker) : Bool :=
  tracker.vocabulary.isFinished record && record.resolution == obsoleteResolution

end Issue.Record

end TestGate
