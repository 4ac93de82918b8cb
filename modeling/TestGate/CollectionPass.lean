import TestGate.IssueStatus
import TestGate.ManifestFile
import TestGate.Selection

/-!
The collection pass: the tests of a manifest are collected, their issues are resolved, and the fate
of each test is decided. Cache files that were asked for and do not exist are written when all this
has succeeded.
-/

namespace TestGate

open Issue

variable {φ σ : Type} [Storage φ]

/-- Resolves all issues and decides the fate of each test. -/
def Run.resolveAndReport
    (sources : IssueSources σ) (filters : Filters) (items : List CollectedItem) (run : Run σ) :
    Except Failure Report × Run σ :=
  match run.resolve sources with
  | (.error failure, run) => (.error failure, run)
  | (.ok (), run) => run.report sources filters items

/-- Writes the cache files of a plan, if there is one, before a report is given. -/
def storeAfter
    (plan : Cache.Plan) (runMeta : Cache.RunMeta) (report : Report) (files : φ) (run : Run σ) :
    Conclusion φ σ Report :=
  if plan.isEmpty then
    ⟨.ok report, files, run.world⟩
  else
    let index := run.session.index
    let stored := plan.store files index runMeta
    let outcome :=
      match stored.failure with
      | some failure => .error failure
      | none => .ok report
    ⟨outcome, stored.files, run.world.noteAll (stored.notices index)⟩

def decideCollected
    (settings : Settings) (sources : IssueSources σ) (occasion : Occasion) (filters : Filters)
    (cache : CacheChoice) (collection : Collection) (files : φ) (world : World σ) :
    Conclusion φ σ Report :=
  let version := settings.serverVersion
  let plan := Cache.Plan.make files cache.directory cache.requested
  let world := world.noteAll (plan.loadNotices files version)
  match plan.load files version with
  | .error failure => ⟨.error failure, files, world⟩
  | .ok cached =>
    let start : Run σ := ⟨Session.start settings collection.index cached, world⟩
    match start.resolveAndReport sources filters collection.items with
    | (.error failure, run) => ⟨.error failure, files, run.world⟩
    | (.ok report, run) => storeAfter plan (occasion.runMeta settings) report files run

def collectTests
    (settings : Settings) (sources : IssueSources σ) (occasion : Occasion) (manifest : Path)
    (filters : Filters) (cache : CacheChoice) (files : φ) (world : World σ) :
    Conclusion φ σ Report :=
  match Manifest.load files manifest with
  | .error failure => ⟨.error failure, files, world⟩
  | .ok manifest =>
    let world := world.noteAll (manifest.notices settings.excluded)
    match manifest.collect settings.excluded with
    | .error failure => ⟨.error failure, files, world⟩
    | .ok collection =>
      decideCollected settings sources occasion filters cache collection files
        (world.note (.collected collection.items.length collection.index.size))

def Report.text (form : ReportForm) (report : Report) : String :=
  match form with
  | .text => report.toText
  | .json => report.toJson.reportText

/-- Carries out a command and gives the text of its report. -/
def Command.perform
    (settings : Settings) (sources : IssueSources σ) (occasion : Occasion) (command : Command)
    (files : φ) (world : World σ) :
    Conclusion φ σ String :=
  match command with
  | collect manifest bugzillaIds jiraKeys form cache =>
    (collectTests settings sources occasion manifest (Filters.make bugzillaIds jiraKeys) cache files
      world).map (Report.text form)
  | check issues form cache =>
    (checkIssues settings sources issues cache files world).map (IssueStatus.reportText form)

end TestGate
