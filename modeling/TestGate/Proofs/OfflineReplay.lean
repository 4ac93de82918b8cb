import TestGate.Proofs.CollectedIssues
import TestGate.Proofs.CollectionPasses
import TestGate.Proofs.Replay
import TestGate.Proofs.Storable
import TestGate.Proofs.VersionTexts
import TestGate.Proofs.Versions

/-!
Collection passes with cache files. What honest trackers have answered is written as it was left,
and reads back. Main statement: a pass that has succeeded and left its cache files behind can be
repeated without a tracker; it reports the same and changes no file.
-/

namespace TestGate

open Issue

variable {σ : Type} {sources : IssueSources σ} {settings : Settings} {filters : Filters}

theorem Session.cached_start
    (settings : Settings) (index cached : Index) :
    (Session.start settings index cached).cached = Session.recordsOf cached :=
  SortedMap.empty_insertAll (Session.recordsOf cached)

/-- Reading asks nobody. -/
theorem Preparation.isQuiet_start
    {φ : Type} [Storage φ]
    (prepared : Preparation) (settings : Settings) (cache : CacheChoice) (files : φ)
    (world : World σ) :
    World.IsQuiet world (prepared.start settings cache files world).world := by
  have noticed := World.isQuiet_noteAll world (prepared.manifest.notices settings.excluded)
  have collected := World.isQuiet_noteAll
    (world.noteAll (prepared.manifest.notices settings.excluded))
    [.collected prepared.collection.items.length prepared.collection.index.size]
  exact (noticed.trans collected).trans (World.isQuiet_noteAll _ _)

theorem isCollected_of_collectFrom
    {φ : Type} [Storage φ] {files : φ} {manifest : Path} {contents : Manifest}
    {collection : Collection}
    (ok : collectFrom settings manifest files = .ok (contents, collection)) :
    collection.index.IsCollected ∧
      ∀ item ∈ collection.items, ∀ issue, item.Asks issue → issue.IsProper := by
  obtain ⟨_, loaded, rest⟩ := Results.bind_eq_ok_iff.mp ok
  obtain ⟨_, collected, made⟩ := Results.bind_eq_ok_iff.mp rest
  cases made
  obtain ⟨isIndex, proper⟩ := Manifest.isProper_of_collect collected
  rw [isIndex]
  exact ⟨(Manifest.isBounded_of_load loaded).index settings.excluded, proper⟩

/-! ## What honest trackers leave behind -/

/-- What a run leaves behind that began with nothing but collected tests, if it gives a report. -/
structure Run.Leaves
    (start : Run σ) (filters : Filters) (items : List CollectedItem) (report : Report)
    (final : Index) : Prop where
  writable : final.Writable
  isFinal : final.IsFinal
  filled : ∀ issue, start.session.index.contains issue = true → (final.record? issue).isSome = true
  fates : fates? final.answer? filters items = some report.items

theorem Honest.leaves
    {start run : Run σ} {items : List CollectedItem} {report : Report}
    (honest : Honest sources)
    (noCache : start.session.cached = SortedMap.empty) (noMemory : start.session.remembered = [])
    (collected : start.session.index.IsCollected)
    (proper : ∀ item ∈ items, ∀ issue, item.Asks issue → issue.IsProper)
    (outcome : start.resolveAndReport sources filters items = (.ok report, run)) :
    start.Leaves filters items report run.session.index := by
  have sound : (honest.discipline start.session.serverVersion).Sound start :=
    .of_noData rfl noCache noMemory trivial collected.proper collected.blank
  obtain ⟨progress, filled, fates⟩ := sound.resolveAndReport proper outcome
  refine ⟨?_, ?_, ?_, ?_⟩
  · intro issue entry isEntry
    refine ⟨progress.sound.listed issue ?_, ?_, ?_⟩
    · exact (SortedMap.contains_iff _ _).mpr ⟨entry, isEntry⟩
    · intro record isData
      have known : run.session.index.record? issue = some record := by
        rw [Index.record?, isEntry, Option.bind_some, isData]
      exact (progress.sound.held issue.tracker issue.id record known).writable
    · intro usage member
      refine collected.bounded issue usage ?_
      rw [← progress.usages issue, Index.usages, isEntry]
      exact member
  · refine ⟨progress.sound.settled, fun issue record known => ?_⟩
    exact (progress.sound.held issue.tracker issue.id record known).sameId
  · exact fun issue present => filled issue.tracker issue.id (progress.contains issue present)
  · exact fates _ fun issue answer held => Index.answer?_of_answers held

/-! ## Passes -/

variable {occasion : Occasion} {manifest : Path} {cache : CacheChoice} {files : FileStore}
  {world : World σ} {report : Report} {run : Run σ}

/-- What the first pass leaves behind. -/
theorem Honest.leaves_of_decided
    (honest : Honest sources) (absent : cache.IsAbsent files)
    (decided : decided? settings sources manifest filters cache files world = some (report, run)) :
    ∃ contents collection, collectFrom settings manifest files = .ok (contents, collection) ∧
      (Run.mk (Session.start settings collection.index SortedMap.empty) world).Leaves filters
        collection.items report run.session.index := by
  obtain ⟨prepared, isPrepared, outcome⟩ := decided?_eq_some_iff.mp decided
  rw [prepare_of_load (Cache.Plan.load_of_absent absent settings.serverVersion)] at isPrepared
  obtain ⟨⟨contents, collection⟩, collecting, made⟩ := Results.map_eq_ok_iff.mp isPrepared
  cases made
  obtain ⟨collected, proper⟩ := isCollected_of_collectFrom collecting
  refine ⟨contents, collection, collecting, ?_⟩
  obtain ⟨writable, isFinal, filled, fates⟩ := honest.leaves rfl rfl collected proper outcome
  exact ⟨writable, isFinal, filled, fates⟩

/-- A note on a run tells its version to a later one, if there is one in the settings. -/
theorem matchesVersion_of_extract?
    {version : Version} (index : Index)
    (versioned : settings.server.version.bind Version.extract? = some version)
    (datesBack : Timestamp.parse? occasion.now.toText = some occasion.now) :
    (Cache.File.mk index (occasion.runMeta settings).readBack?).matchesVersion
      settings.serverVersion = true := by
  obtain ⟨text, _, extracted⟩ := Option.bind_eq_some_iff.mp versioned
  have isVersion : settings.serverVersion = version := by
    rw [Settings.serverVersion, versioned, Option.getD_some]
  have date : Timestamp.parse? (occasion.runMeta settings).created.toText = some occasion.now :=
    datesBack
  rw [Cache.File.matchesVersion, Cache.RunMeta.readBack?, date, Option.map_some, Option.bind_some]
  change ((Version.extract? settings.serverVersion.toText).any _) = true
  rw [isVersion, Version.extract?_toText_of_extract? extracted, Option.any_some]
  exact Version.equivalent_refl version

/-- A pass that has succeeded is repeated from the cache files it has left behind: the report is the
same, no tracker is called, nobody waits, and no file changes. -/
theorem collectTests_replays
    {version : Version} {τ : Type}
    (honest : Honest sources)
    (versioned : settings.server.version.bind Version.extract? = some version)
    (datesBack : Timestamp.parse? occasion.now.toText = some occasion.now)
    (readsBack : ∀ report run,
      decided? settings sources manifest filters cache files world = some (report, run) →
        Cache.ReadsBack run.session.index (occasion.runMeta settings))
    (asked : cache.requested ≠ []) (absent : cache.IsAbsent files)
    (succeeds :
      (collectTests settings sources occasion manifest filters cache files world).outcome =
        .ok report)
    (laterSources : IssueSources τ) (laterOccasion : Occasion) (laterWorld : World τ) :
    let stored := (collectTests settings sources occasion manifest filters cache files world).files
    let later := collectTests settings laterSources laterOccasion manifest filters cache stored
      laterWorld
    later.outcome = .ok report ∧ later.files = stored ∧ World.IsQuiet laterWorld later.world := by
  intro stored later
  obtain ⟨run, decided, _, texts⟩ := stored_of_ok asked absent succeeds
  obtain ⟨contents, collection, collecting, leaves⟩ := honest.leaves_of_decided absent decided
  have holds : cache.Holds stored ⟨run.session.index, (occasion.runMeta settings).readBack?⟩ :=
    holds_of_ok asked absent decided succeeds leaves.writable (readsBack report run decided)
  have loads : (Cache.Plan.make stored cache.directory cache.requested).load stored
      settings.serverVersion = .ok run.session.index := by
    rw [Cache.Plan.load_of_holds holds asked, Cache.File.usableIndex,
      if_pos (matchesVersion_of_extract? run.session.index versioned datesBack)]
  -- the manifest was there before the cache files, so it is none of them
  have sameManifest : stored.text? manifest = files.text? manifest := by
    rw [texts manifest, if_neg (absent.spares (isSome_of_collectFrom collecting))]
  have prepared : prepare settings manifest cache stored =
      .ok ⟨contents, collection, run.session.index⟩ := by
    rw [prepare_of_load loads, collectFrom_congr settings sameManifest, collecting]
    rfl
  let start : Run τ :=
    Preparation.start ⟨contents, collection, run.session.index⟩ settings cache stored laterWorld
  have replays : ∃ after,
      start.resolveAndReport laterSources filters collection.items = (.ok report, after) ∧
        World.IsQuiet start.world after.world :=
    leaves.isFinal.resolveAndReport (Session.cached_start _ _ _) rfl
      (isCollected_of_collectFrom collecting).1.blank leaves.filled leaves.fates
  obtain ⟨after, reported, quiet⟩ := replays
  have laterDecided : decided? settings laterSources manifest filters cache stored laterWorld =
      some (report, after) :=
    decided?_eq_some_iff.mpr ⟨_, prepared, reported⟩
  have isLater : later = ⟨.ok report, stored, after.world⟩ := by
    rw [← storeAfter_of_nothing_pending (Cache.Plan.pending_of_holds holds)
      (laterOccasion.runMeta settings) report stored after]
    exact collectTests_of_decided laterDecided
  rw [isLater]
  exact ⟨rfl, rfl, (Preparation.isQuiet_start _ settings cache stored laterWorld).trans quiet⟩

/-- A source that cannot be reached. -/
def unreachableSource : IssueSource Unit where
  hasCredentials := true
  fetch := fun _ memory => ({ outcome := .error "unreachable" }, memory)

/-- A Bugzilla that knows a duplicate but leaves out where it leads, and an unreachable Jira. -/
def patchySources : IssueSources Unit
  | .bugzilla =>
    { hasCredentials := true
      fetch := fun ids memory =>
        ({ outcome := .ok <| (ids.filter fun id => id = "7").map fun id =>
            { id := id, resolution := "DUPLICATE", duplicateOf := some "5" } },
          memory) }
  | .jira => unreachableSource

theorem honest_patchySources :
    Honest patchySources := by
  intro tracker ids memory records outcome record member
  cases tracker with
  | jira => cases outcome
  | bugzilla =>
    cases outcome
    obtain ⟨id, inIds, rfl⟩ := List.mem_map.mp member
    refine ⟨(List.mem_filter.mp inIds).1, Record.Writable.isPlain ?_ ?_ rfl rfl⟩
    · exact .intro (by simp) nofun nofun
    · intro target leads
      cases leads
      exact ⟨by decide +kernel, by decide⟩

/-- A file with a manifest of one test, which is guarded by an issue. -/
def guardedTest : FileStore :=
  .ofList
    [(⟨"tests.json"⟩,
      "\x7b\"items\":[\x7b\"node_id\":\"a\",\"module\":\"m\"," ++
        "\"location\":\x7b\"path\":\"p\",\"line\":1,\"name\":\"a\"\x7d," ++
        "\"markers\":[\x7b\"name\":\"skip_if_open\",\"args\":[\"BZ:7\"]\x7d]\x7d]\x7d")]
    false

/-- Settings for a version. -/
def Settings.forVersion (version : String) : Settings where
  server := { version := some version }

theorem collectTests_replays_patchySources :
    let first := collectTests (.forVersion "6.10.z") patchySources ⟨default, "first", [], ""⟩
      ⟨"tests.json"⟩ {} ⟨[.bugzilla], ⟨"."⟩⟩ guardedTest ⟨(), []⟩
    let later := collectTests (.forVersion "6.10.z") (fun _ => unreachableSource)
      ⟨default, "later", [], ""⟩ ⟨"tests.json"⟩ {} ⟨[.bugzilla], ⟨"."⟩⟩ first.files ⟨(), []⟩
    later.outcome = .ok ⟨[⟨"a", .selected (some "BZ:7")⟩]⟩ ∧ later.files = first.files ∧
      World.IsQuiet ⟨(), []⟩ later.world := by
  have allReadBack : (decided? (.forVersion "6.10.z") patchySources ⟨"tests.json"⟩ {}
      ⟨[.bugzilla], ⟨"."⟩⟩ guardedTest ⟨(), []⟩).all (fun decided =>
        decide (Cache.ReadsBack decided.2.session.index
          (Occasion.runMeta ⟨default, "first", [], ""⟩ (.forVersion "6.10.z")))) = true := by
    decide +kernel
  have versioned : (some "6.10.z").bind Version.extract? = some ⟨[6, 10], by decide⟩ := by
    decide +kernel
  refine collectTests_replays honest_patchySources versioned (by decide +kernel) ?_ (by decide) ?_
    (by decide +kernel) (fun _ => unreachableSource) ⟨default, "later", [], ""⟩ ⟨(), []⟩
  · intro report run decided
    rw [decided] at allReadBack
    exact of_decide_eq_true allReadBack
  · intro tracker member
    cases List.mem_singleton.mp member
    decide +kernel

end TestGate
