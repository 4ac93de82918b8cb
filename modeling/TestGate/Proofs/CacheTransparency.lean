import TestGate.Proofs.ChainVerdicts
import TestGate.Proofs.KnownFates
import TestGate.Proofs.OfflineReplay

/-!
Collection passes with trackers that answer from knowledge. Whatever a cache file holds that such a
pass has written, for this version or another, is faithful to the knowledge. Main statement: a pass
that reads these files gives the same report as without them, or fails as it does without them.
-/

namespace TestGate

open Issue

variable {known : Knowledge}

/-! ## What a cache file may be used for -/

/-- Whether records come as a tracker sends them: about their own issues, such as can be read,
leading to proper issues if anywhere, without verdicts and errors. -/
structure Knowledge.IsRaw (known : Knowledge) : Prop where
  sameId : ∀ issue record, known issue = some record → record.id = issue.id
  plain : ∀ issue record, known issue = some record → record.IsPlain issue.tracker
  noError : ∀ issue record, known issue = some record → record.error = none

namespace Knowledge.IsRaw

theorem unjudged
    (raw : known.IsRaw) :
    known.Unjudged where
  sameId := raw.sameId
  noVerdict issue record isKnown := (raw.plain issue record isKnown).noVerdict
  noMark issue record isKnown := (raw.plain issue record isKnown).noMark

theorem honest
    {σ : Type} {sources : IssueSources σ}
    (raw : known.IsRaw) (answers : known.Answers sources) :
    Honest sources := by
  intro tracker ids memory records outcome record member
  rw [answers.outcome tracker ids memory, Except.ok.injEq] at outcome
  rw [← outcome, List.mem_filterMap] at member
  obtain ⟨id, asked, isKnown⟩ := member
  have sameId : record.id = id := raw.sameId _ record isKnown
  exact ⟨sameId ▸ asked, raw.plain _ record isKnown⟩

end Knowledge.IsRaw

/-- Without its verdicts a faithful record is faithful for any version. -/
theorem Faithful.forgetVerdicts
    {written : Version} {issue : Reference} {record : Record}
    (raw : known.IsRaw) (faithful : Faithful known written issue record) (version : Version) :
    Faithful known version issue record.forgetVerdicts := by
  cases faithful with
  | missing reason unknown same =>
    exact .missing reason unknown (by rw [same, Record.forgetVerdicts_fallback])
  | @found original clones isOpen mark isKnown same fixes =>
    refine .found clones none none isKnown ?_ fixes nofun nofun
    have noError : original.error = none := raw.noError issue original isKnown
    have noFallback : record.isFallback = false := by
      rw [Record.isFallback, same]
      exact Option.isSome_eq_false_iff.mpr (Option.isNone_iff_eq_none.mpr noError)
    rw [Record.forgetVerdicts, noFallback, same]
    rfl

theorem Issue.Index.record?_forgetVerdicts
    (index : Index) (issue : Reference) :
    index.forgetVerdicts.record? issue = (index.record? issue).map Record.forgetVerdicts := by
  rw [record?, forgetVerdicts, SortedMap.find?_mapValues, record?]
  cases index.find? issue <;> rfl

/-- What is used of a file with faithful records is faithful, whatever version the file is for. -/
theorem Faithful.usableIndex
    {file : Cache.File} {written version : Version} {issue : Reference} {record : Record}
    (raw : known.IsRaw)
    (faithful : ∀ issue record, file.index.record? issue = some record →
      Faithful known written issue record)
    (matching : file.matchesVersion version = true → written.equivalent version = true)
    (isUsed : (file.usableIndex version).record? issue = some record) :
    Faithful known version issue record := by
  rw [Cache.File.usableIndex] at isUsed
  split at isUsed
  · rename_i matches'
    exact (faithful issue record isUsed).of_equivalent (matching matches')
  · rw [Index.record?_forgetVerdicts, Option.map_eq_some_iff] at isUsed
    obtain ⟨original, isWritten, rfl⟩ := isUsed
    exact (faithful issue original isWritten).forgetVerdicts raw version

/-- The note on a run matches only versions that are equivalent to that of the run. -/
theorem equivalent_of_matchesVersion
    {settings : Settings} {occasion : Occasion} {index : Index} {version : Version}
    (matching : (Cache.File.mk index (occasion.runMeta settings).readBack?).matchesVersion version =
      true) :
    settings.serverVersion.equivalent version = true := by
  rw [Cache.File.matchesVersion, Cache.RunMeta.readBack?] at matching
  generalize Timestamp.parse? (occasion.runMeta settings).created.toText = created at matching
  cases created with
  | none => cases matching
  | some created =>
    change ((Version.extract? settings.serverVersion.toText).any _) = true at matching
    rw [Version.extract?_toText] at matching
    split at matching
    · exact matching
    · cases matching

/-! ## Passes -/

section Passes

variable {σ : Type} {sources : IssueSources σ} {settings : Settings} {occasion : Occasion}
  {manifest : Path} {filters : Filters} {cache : CacheChoice} {files : FileStore} {world : World σ}

/-- Whether a report says what follows from the knowledge about collected tests, all of whose issues
have chains that can be followed. -/
def Knowledge.Reports
    (known : Knowledge) (version : Version) (filters : Filters) (collection : Collection)
    (report : Report) : Prop :=
  (∀ issue, collection.index.contains issue = true → ∃ last, known.EndsAt issue last) ∧
    fates? (known.answer? version) filters collection.items = some report.items

/-- A pass that reads nothing but faithful records, and may write, gives the report that follows
from the knowledge. -/
theorem Knowledge.outcome_iff
    {cached : Index} {report : Report}
    (answers : known.Answers sources) (unjudged : known.Unjudged)
    (loads : (Cache.Plan.make files cache.directory cache.requested).load files
      settings.serverVersion = .ok cached)
    (faithful : ∀ issue record, cached.record? issue = some record →
      Faithful known settings.serverVersion issue record)
    (mayWrite : ∀ text, (Cache.Plan.writeAll text files
      (Cache.Plan.make files cache.directory cache.requested).pending).failure = none) :
    (collectTests settings sources occasion manifest filters cache files world).outcome =
        .ok report ↔
      ∃ contents collection, collectFrom settings manifest files = .ok (contents, collection) ∧
        known.Reports settings.serverVersion filters collection report := by
  have begins : ∀ contents collection,
      collectFrom settings manifest files = .ok (contents, collection) →
        (Preparation.start ⟨contents, collection, cached⟩ settings cache files world).BeginsWith
          known := by
    intro contents collection collecting
    refine ⟨fun issue record found => ?_, rfl, (isCollected_of_collectFrom collecting).1.blank⟩
    refine faithful issue record ?_
    rwa [← Session.find?_recordsOf, ← Session.cached_start settings collection.index cached]
  constructor
  · intro ok
    obtain ⟨run, decided⟩ := exists_decided_of_ok ok
    obtain ⟨prepared, isPrepared, outcome⟩ := decided?_eq_some_iff.mp decided
    rw [prepare_of_load loads] at isPrepared
    obtain ⟨⟨contents, collection⟩, collecting, made⟩ := Results.map_eq_ok_iff.mp isPrepared
    cases made
    refine ⟨contents, collection, collecting, ?_⟩
    exact ((begins contents collection collecting).report_iff answers unjudged).mp
      (congrArg Prod.fst outcome)
  · rintro ⟨contents, collection, collecting, reports⟩
    have reported :=
      ((begins contents collection collecting).report_iff answers unjudged).mpr reports
    have prepared : prepare settings manifest cache files = .ok ⟨contents, collection, cached⟩ := by
      rw [prepare_of_load loads, collecting]
      rfl
    have decided := decided?_eq_some_iff.mpr ⟨_, prepared, Prod.ext reported rfl⟩
    rw [collectTests_of_decided decided]
    exact outcome_storeAfter (mayWrite _) report

/-- A pass without cache files gives the report that follows from the knowledge. -/
theorem Knowledge.outcome_iff_of_absent
    {report : Report}
    (answers : known.Answers sources) (unjudged : known.Unjudged) (absent : cache.IsAbsent files)
    (mayWrite : files.readOnly = false) :
    (collectTests settings sources occasion manifest filters cache files world).outcome =
        .ok report ↔
      ∃ contents collection, collectFrom settings manifest files = .ok (contents, collection) ∧
        known.Reports settings.serverVersion filters collection report := by
  refine known.outcome_iff answers unjudged
    (Cache.Plan.load_of_absent absent settings.serverVersion) (fun issue record isUsed => ?_)
    fun text => Cache.Plan.failure_writeAll mayWrite _
  cases isUsed

/-- The records of a pass without cache files are faithful. -/
theorem Knowledge.faithful_of_decided
    {report : Report} {run : Run σ}
    (answers : known.Answers sources) (unjudged : known.Unjudged) (absent : cache.IsAbsent files)
    (decided : decided? settings sources manifest filters cache files world = some (report, run))
    (issue : Reference) (record : Record)
    (isKnown : run.session.index.record? issue = some record) :
    Faithful known settings.serverVersion issue record := by
  obtain ⟨prepared, isPrepared, outcome⟩ := decided?_eq_some_iff.mp decided
  rw [prepare_of_load (Cache.Plan.load_of_absent absent settings.serverVersion)] at isPrepared
  obtain ⟨⟨contents, collection⟩, collecting, made⟩ := Results.map_eq_ok_iff.mp isPrepared
  cases made
  have blank : (Preparation.start ⟨contents, collection, SortedMap.empty⟩ settings cache files
      world).IsBlank :=
    ⟨rfl, rfl, (isCollected_of_collectFrom collecting).1.blank⟩
  obtain ⟨progress, _⟩ :=
    (blank.sound answers unjudged).resolveAndReport (fun _ _ _ _ => trivial) outcome
  exact progress.sound.held issue.tracker issue.id record isKnown

end Passes

/-- A pass that reads the cache files which an earlier pass has written, for this version or
another, gives the same report as without cache files, or both fail. -/
theorem collectTests_ignores_cache
    {σ τ υ : Type} {sources : IssueSources σ} {laterSources : IssueSources τ}
    {freshSources : IssueSources υ} {settings laterSettings : Settings}
    {occasion laterOccasion freshOccasion : Occasion} {manifest laterManifest : Path}
    {filters laterFilters : Filters} {cache freshCache : CacheChoice} {files : FileStore}
    {world : World σ} {laterWorld : World τ} {freshWorld : World υ} {report : Report}
    (raw : known.IsRaw) (answers : known.Answers sources)
    (laterAnswers : known.Answers laterSources) (freshAnswers : known.Answers freshSources)
    (readsBack : ∀ report run,
      decided? settings sources manifest filters cache files world = some (report, run) →
        Cache.ReadsBack run.session.index (occasion.runMeta settings))
    (asked : cache.requested ≠ []) (absent : cache.IsAbsent files)
    (succeeds :
      (collectTests settings sources occasion manifest filters cache files world).outcome =
        .ok report)
    (outside : cache.Spares laterManifest) (freshAbsent : freshCache.IsAbsent files) :
    let stored := (collectTests settings sources occasion manifest filters cache files world).files
    (collectTests laterSettings laterSources laterOccasion laterManifest laterFilters cache stored
        laterWorld).outcome.toOption =
      (collectTests laterSettings freshSources freshOccasion laterManifest laterFilters freshCache
        files freshWorld).outcome.toOption := by
  intro stored
  obtain ⟨run, decided, mayWrite, texts⟩ := stored_of_ok asked absent succeeds
  have honest := raw.honest answers
  obtain ⟨_, _, _, leaves⟩ := honest.leaves_of_decided absent decided
  have holds : cache.Holds stored ⟨run.session.index, (occasion.runMeta settings).readBack?⟩ :=
    holds_of_ok asked absent decided succeeds leaves.writable (readsBack report run decided)
  have sameManifest : stored.text? laterManifest = files.text? laterManifest := by
    rw [texts laterManifest, if_neg outside]
  have faithful : ∀ issue record,
      (Cache.File.usableIndex ⟨run.session.index, (occasion.runMeta settings).readBack?⟩
        laterSettings.serverVersion).record? issue = some record →
          Faithful known laterSettings.serverVersion issue record :=
    fun issue record isUsed => .usableIndex raw
      (known.faithful_of_decided answers raw.unjudged absent decided) equivalent_of_matchesVersion
      isUsed
  have nothingToWrite : ∀ text, (Cache.Plan.writeAll text stored
      (Cache.Plan.make stored cache.directory cache.requested).pending).failure = none := by
    intro text
    rw [Cache.Plan.pending_of_holds holds]
    rfl
  -- both passes report what follows from the knowledge about the same collected tests
  apply Option.ext
  intro later
  rw [Results.toOption_eq_some_iff, Results.toOption_eq_some_iff,
    known.outcome_iff_of_absent freshAnswers raw.unjudged freshAbsent mayWrite,
    known.outcome_iff laterAnswers raw.unjudged
      (Cache.Plan.load_of_holds holds asked laterSettings.serverVersion) faithful nothingToWrite,
    collectFrom_congr laterSettings sameManifest]

theorem isRaw_openWithDuplicate :
    openWithDuplicate.IsRaw := by
  refine ⟨plain_openWithDuplicate.sameId, fun issue record isKnown => ?_,
    plain_openWithDuplicate.noError⟩
  have member := Knowledge.mem_of_ofRecords isKnown
  simp only [List.mem_cons, Prod.mk.injEq, List.not_mem_nil, or_false] at member
  rcases member with ⟨rfl, rfl⟩ | ⟨rfl, rfl⟩
  · refine Record.Writable.isPlain (.intro (by simp) nofun nofun) (fun target leads => ?_) rfl rfl
    cases leads
    exact ⟨by decide +kernel, by decide⟩
  · exact Record.Writable.isPlain (.intro (by simp) nofun nofun) nofun rfl rfl

theorem collectTests_ignores_cache_openWithDuplicate :
    let first := collectTests (.forVersion "6.10.z") openWithDuplicate.toSources
      ⟨default, "first", [], ""⟩ ⟨"tests.json"⟩ {} ⟨[.bugzilla], ⟨"."⟩⟩ guardedTest ⟨(), []⟩
    (collectTests (.forVersion "6.11.z") openWithDuplicate.toSources ⟨default, "later", [], ""⟩
        ⟨"tests.json"⟩ {} ⟨[.bugzilla], ⟨"."⟩⟩ first.files ⟨(), []⟩).outcome.toOption =
      (collectTests (.forVersion "6.11.z") openWithDuplicate.toSources ⟨default, "fresh", [], ""⟩
        ⟨"tests.json"⟩ {} ⟨[], ⟨"."⟩⟩ guardedTest ⟨(), []⟩).outcome.toOption := by
  have allReadBack : (decided? (.forVersion "6.10.z") openWithDuplicate.toSources ⟨"tests.json"⟩ {}
      ⟨[.bugzilla], ⟨"."⟩⟩ guardedTest ⟨(), []⟩).all (fun decided =>
        decide (Cache.ReadsBack decided.2.session.index
          (Occasion.runMeta ⟨default, "first", [], ""⟩ (.forVersion "6.10.z")))) = true := by
    decide +kernel
  have succeeds : (collectTests (.forVersion "6.10.z") openWithDuplicate.toSources
      ⟨default, "first", [], ""⟩ ⟨"tests.json"⟩ {} ⟨[.bugzilla], ⟨"."⟩⟩ guardedTest
        ⟨(), []⟩).outcome = .ok ⟨[⟨"a", .selected (some "BZ:7")⟩]⟩ := by
    decide +kernel
  have answers := openWithDuplicate.answers_toSources
  refine collectTests_ignores_cache isRaw_openWithDuplicate answers answers answers ?_ (by decide)
    ?_ succeeds ?_ nofun
  · intro report run decided
    rw [decided] at allReadBack
    exact of_decide_eq_true allReadBack
  · intro tracker member
    cases List.mem_singleton.mp member
    decide +kernel
  · rw [CacheChoice.Spares]
    decide +kernel

end TestGate
