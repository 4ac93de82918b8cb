import TestGate.Duplicates
import TestGate.Retry

/-!
Resolving issues: filling in what the index does not know yet, and deciding what is open. Each
tracker is asked for all its issues at once; then the issues behind duplicates are fetched one by
one, and the clones of Bugzilla issues together. Equal requests are made once, and records from a
cache are not asked for. Whatever a tracker does not deliver is replaced by a fallback record, so
only a malformed chain of duplicates makes resolving fail.
-/

namespace TestGate

open Issue

/-- What the resolver knows. -/
structure Session where
  serverVersion : Version
  policy : RetryPolicy
  index : Index
  /-- Records from cache files. -/
  cached : SortedMap Reference Record := SortedMap.empty
  /-- The records found for earlier requests. -/
  remembered : List ((Tracker × List String) × List Record) := []

namespace Session

/-- The records of an index, by reference. -/
def recordsOf (index : Index) : SortedMap Reference Record :=
  SortedMap.ofList <| index.entries.filterMap fun (issue, entry) =>
    entry.data.map fun record => (issue, record)

/-- The session that also knows the records of a cache. -/
def withCache (session : Session) (cache : Index) : Session :=
  { session with cached := session.cached.insertAll (recordsOf cache) }

/-! ## Verdicts -/

/-- Whether an issue is open, as far as is known; an unknown issue is. -/
def openStatus (session : Session) (issue : Reference) : Except Failure Bool :=
  match session.index.record? issue with
  | none => .ok true
  | some record =>
    match record.isOpen with
    | some verdict => .ok verdict
    | none => do
      let target := (← session.index.canonical issue).getD record
      return target.isOpen.getD (target.affects issue.tracker session.serverVersion)

/-- Whether tests that use an issue are dropped, as far as is known; for an unknown issue they are
not. -/
def deselectStatus (session : Session) (issue : Reference) : Except Failure Bool :=
  match session.index.record? issue with
  | none => .ok false
  | some record =>
    match record.isDeselected with
    | some verdict => .ok verdict
    | none => do
      let target := (← session.index.canonical issue).getD record
      return target.isDeselected.getD (target.isObsolete issue.tracker)

/-- Notes that tests which use an issue were dropped. -/
def markDeselected (session : Session) (issue : Reference) : Session :=
  { session with
    index := session.index.updateRecord issue fun record =>
      { record with isDeselected := some true } }

/-! ## Steps on the index -/

/-- The issues of a tracker about which nothing is known. -/
def pending (session : Session) (tracker : Tracker) : List Reference :=
  ((session.index.ofTracker tracker).filter fun (_, entry) => entry.data.isNone).map (·.1)

/-- Enters records, each under its own id. -/
def enter (index : Index) (tracker : Tracker) (records : List Record) : Index :=
  records.foldl (fun index record => index.setRecord ⟨tracker, record.id⟩ record) index

/-- Enters a fallback record for each issue about which still nothing is known. -/
def fillGaps (index : Index) (issues : List Reference) : Index :=
  issues.foldl
    (fun index issue =>
      index.update issue fun entry =>
        { entry with
          data := entry.data.or (some (Record.fallback issue.id "not returned by tracker")) })
    index

/-- The issues that the duplicates of a tracker lead to. -/
def duplicateTargets (session : Session) (tracker : Tracker) : List String :=
  (session.index.ofTracker tracker).filterMap fun (_, entry) =>
    entry.data.bind fun record => record.duplicated? tracker

/-- Enters the record of an issue that a duplicate leads to. -/
def enterTarget (index : Index) (issue : Reference) (record : Record) : Index :=
  index.update issue fun entry =>
    { entry with isDuplicateTarget := entry.usedIn.isEmpty, data := some record }

/-- Whether the clones of a record are needed for its verdict and still missing. -/
def needsClones (record : Record) : Bool :=
  record.isOpen.isNone && record.clones.isEmpty && !record.cloneIds.isEmpty

/-- The Bugzilla issues whose clones are needed, with the ids of these. -/
def cloneParents (session : Session) : List (Reference × List String) :=
  (session.index.ofTracker .bugzilla).filterMap fun (issue, entry) =>
    (entry.data.filter needsClones).map fun record => (issue, record.cloneIds)

/-- Attaches those clones that are known to each parent. -/
def attachClones (index : Index) (parents : List (Reference × List String)) (clones : List Record) :
    Index :=
  parents.foldl
    (fun index (issue, ids) =>
      index.updateRecord issue fun record =>
        { record with
          clones := clones.filter fun clone => !clone.isFallback && ids.contains clone.id })
    index

/-- The issues of a tracker that have a record but no verdict. -/
def unjudged (session : Session) (tracker : Tracker) : List Reference :=
  ((session.index.ofTracker tracker).filter fun (_, entry) =>
    entry.data.any fun record => record.isOpen.isNone).map (·.1)

def enterVerdicts (index : Index) (verdicts : List (Reference × Bool)) : Index :=
  verdicts.foldl
    (fun index (issue, verdict) =>
      index.updateRecord issue fun record => { record with isOpen := some verdict })
    index

/-- Decides for each issue of a tracker without a verdict whether it is open. -/
def judge (session : Session) (tracker : Tracker) : Except Failure Session := do
  let verdicts ← (session.unjudged tracker).mapM fun issue => do
    return (issue, ← session.openStatus issue)
  return { session with index := enterVerdicts session.index verdicts }

end Session

/-! ## Fetching -/

/-- A session under way. -/
structure Run (σ : Type) where
  session : Session
  world : World σ

namespace Run

variable {σ : Type}

def withIndex (run : Run σ) (index : Index) : Run σ :=
  { run with session := { run.session with index := index } }

def note (run : Run σ) (notice : Notice) : Run σ :=
  { run with world := run.world.note notice }

/-- The ids that no record carries. -/
def unanswered (records : List Record) (ids : List String) : List String :=
  ids.filter fun id => !records.any fun record => record.id == id

/-- Asks a tracker for issues. Whatever it does not deliver is replaced by fallback records. -/
def fetchRemote (sources : IssueSources σ) (tracker : Tracker) (ids : List String) (run : Run σ) :
    List Record × Run σ :=
  let source := sources tracker
  if !source.hasCredentials then
    (ids.map fun id => Record.fallback id "no API key configured",
      run.note (.noCredentials tracker ids.length))
  else
    let run := run.note (.calling tracker ids)
    match fetchWithRetry source tracker run.session.policy ids run.world with
    | (.ok records, world) =>
      let missing := unanswered records ids
      (records ++ missing.map fun id => Record.fallback id "not found in tracker",
        { run with world := world.record (missing.map fun id => .noted (.notFound tracker id)) })
    | (.error error, world) =>
      (ids.map fun id => Record.fallback id error,
        { run with world := world.note (.unavailable tracker error) })

/-- Fetches issues: what an equal request found before, else records from the cache and one call for
all others. -/
def fetchBatch (sources : IssueSources σ) (tracker : Tracker) (ids : List String) (run : Run σ) :
    List Record × Run σ :=
  let wanted := SortedMap.distinct ids
  if wanted.isEmpty then
    ([], run)
  else
    match run.session.remembered.lookup (tracker, wanted) with
    | some records => (records, run.note (.remembered tracker wanted))
    | none =>
      let cached? (id : String) : Option Record := run.session.cached.find? ⟨tracker, id⟩
      let known := wanted.filterMap cached?
      let missing := wanted.filter fun id => (cached? id).isNone
      let (fetched, run) :=
        if missing.isEmpty then ([], run) else fetchRemote sources tracker missing run
      let records := known ++ fetched
      (records,
        { run with
          session :=
            { run.session with
              remembered := ((tracker, wanted), records) :: run.session.remembered } })

def fetchSingle (sources : IssueSources σ) (issue : Reference) (run : Run σ) : Record × Run σ :=
  let (records, run) := fetchBatch sources issue.tracker [issue.id] run
  ((records.find? fun record => record.id == issue.id).getD
    (Record.fallback issue.id "not returned by tracker"), run)

/-! ## Resolving -/

/-- Makes sure that the record of an issue behind a duplicate is known. -/
def ensureTarget (sources : IssueSources σ) (issue : Reference) (run : Run σ) : Run σ :=
  if (run.session.index.record? issue).isSome then
    run
  else
    let (record, run) := fetchSingle sources issue (run.note (.fetchingDuplicate issue))
    run.withIndex (Session.enterTarget run.session.index issue record)

/-- Fetches the issues of a chain of duplicates, at most `steps` of them, up to one that has been
`seen`; also gives the issues seen since. -/
def chase (sources : IssueSources σ) (tracker : Tracker) :
    (steps : Nat) → String → (seen : List String) → Run σ → List String × Run σ
  | 0, _, seen, run => (seen, run)
  | steps + 1, id, seen, run =>
    if seen.contains id then
      (seen, run)
    else
      let issue : Reference := ⟨tracker, id⟩
      let run := ensureTarget sources issue run
      match (run.session.index.record? issue).bind fun record => record.duplicated? tracker with
      | some next => chase sources tracker steps next (id :: seen) run
      | none => (id :: seen, run)

/-- Fetches the issues that the duplicates of a tracker lead to, the last duplicate first. -/
def fetchTargets (sources : IssueSources σ) (tracker : Tracker) (run : Run σ) : Run σ :=
  ((run.session.duplicateTargets tracker).reverse.foldl
    (fun (seen, run) id => chase sources tracker Index.longestChain id seen run)
    ([], run)).2

/-- Fetches the clones of Bugzilla issues that need them. -/
def fetchClones (sources : IssueSources σ) (run : Run σ) : Run σ :=
  let parents := run.session.cloneParents
  if parents.isEmpty then
    run
  else
    let (clones, run) := fetchBatch sources .bugzilla (parents.flatMap (·.2)) run
    run.withIndex (Session.attachClones run.session.index parents clones)

/-- Fetches the pending issues of a tracker and all that is needed to judge them. -/
def gather (sources : IssueSources σ) (tracker : Tracker) (pending : List Reference) (run : Run σ) :
    Run σ :=
  let run := run.note (.resolving tracker pending.length)
  let (records, run) := fetchBatch sources tracker (pending.map Reference.id) run
  let run := run.withIndex <|
    Session.fillGaps (Session.enter run.session.index tracker records) pending
  let run := fetchTargets sources tracker run
  match tracker with
  | .bugzilla => fetchClones sources run
  | .jira => run

def resolveTracker (sources : IssueSources σ) (tracker : Tracker) (run : Run σ) :
    Except Failure Unit × Run σ :=
  let pending := run.session.pending tracker
  if pending.isEmpty then
    (.ok (), run)
  else
    let run := gather sources tracker pending run
    match run.session.judge tracker with
    | .ok session => (.ok (), { run with session := session })
    | .error failure => (.error failure, run)

/-- Resolves the pending issues of some trackers, one after another. -/
def resolveTrackers (sources : IssueSources σ) :
    List Tracker → Run σ → Except Failure Unit × Run σ
  | [], run => (.ok (), run)
  | tracker :: trackers, run =>
    match resolveTracker sources tracker run with
    | (.ok (), run) => resolveTrackers sources trackers run
    | (.error failure, run) => (.error failure, run)

def resolve (sources : IssueSources σ) (run : Run σ) : Except Failure Unit × Run σ :=
  resolveTrackers sources Tracker.all run

/-! ## Looking up single issues -/

def ensure (sources : IssueSources σ) (issue : Reference) (run : Run σ) :
    Except Failure Unit × Run σ :=
  if (run.session.index.record? issue).isSome then
    (.ok (), run)
  else
    resolveTracker sources issue.tracker (run.withIndex (run.session.index.touch issue))

/-- Answers a question about an issue after making sure that something is known about it. -/
def lookUp {α : Type}
    (sources : IssueSources σ) (question : Session → Reference → Except Failure α)
    (issue : Reference) (run : Run σ) :
    Except Failure α × Run σ :=
  match ensure sources issue run with
  | (.ok (), run) => (question run.session issue, run)
  | (.error failure, run) => (.error failure, run)

def isOpen (sources : IssueSources σ) (issue : Reference) (run : Run σ) :
    Except Failure Bool × Run σ :=
  lookUp sources Session.openStatus issue run

def shouldDeselect (sources : IssueSources σ) (issue : Reference) (run : Run σ) :
    Except Failure Bool × Run σ :=
  lookUp sources Session.deselectStatus issue run

def markDeselected (issue : Reference) (run : Run σ) : Run σ :=
  { run with session := run.session.markDeselected issue }

end Run

end TestGate
