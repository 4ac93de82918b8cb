import TestGate.CollectionPass
import TestGate.Proofs.CacheCodec
import TestGate.Proofs.CachePlan

/-!
A collection pass in three parts: what it reads first, the run that decides, and what it writes in
the end. Main statement: a pass that has succeeded without any of the cache files that were asked
for leaves each of them behind with the index of its run, and no other file changed.
-/

namespace TestGate

open Issue

variable {φ σ : Type}

/-! ## What is read first -/

/-- What a collection pass has read before it resolves anything. -/
structure Preparation where
  manifest : Manifest
  collection : Collection
  cached : Index

section Reading

variable [Storage φ]

/-- Reads a manifest and collects its tests. -/
def collectFrom
    (settings : Settings) (manifest : Path) (files : φ) :
    Except Failure (Manifest × Collection) := do
  let contents ← Manifest.load files manifest
  let collection ← contents.collect settings.excluded
  return (contents, collection)

/-- Reads all that a collection pass needs before it resolves anything. -/
def prepare
    (settings : Settings) (manifest : Path) (cache : CacheChoice) (files : φ) :
    Except Failure Preparation := do
  let (contents, collection) ← collectFrom settings manifest files
  let cached ← (Cache.Plan.make files cache.directory cache.requested).load files
    settings.serverVersion
  return ⟨contents, collection, cached⟩

/-- The run that begins with what has been read. -/
def Preparation.start
    (prepared : Preparation) (settings : Settings) (cache : CacheChoice) (files : φ)
    (world : World σ) :
    Run σ where
  session := Session.start settings prepared.collection.index prepared.cached
  world :=
    ((world.noteAll (prepared.manifest.notices settings.excluded)).note
      (.collected prepared.collection.items.length prepared.collection.index.size)).noteAll
        ((Cache.Plan.make files cache.directory cache.requested).loadNotices files
          settings.serverVersion)

/-- The report of a collection pass and the run behind it, before anything is written. -/
def decided?
    (settings : Settings) (sources : IssueSources σ) (manifest : Path) (filters : Filters)
    (cache : CacheChoice) (files : φ) (world : World σ) :
    Option (Report × Run σ) :=
  match prepare settings manifest cache files with
  | .error _ => none
  | .ok prepared =>
    match (prepared.start settings cache files world).resolveAndReport sources filters
        prepared.collection.items with
    | (.error _, _) => none
    | (.ok report, run) => some (report, run)

variable {settings : Settings} {sources : IssueSources σ} {occasion : Occasion} {manifest : Path}
  {filters : Filters} {cache : CacheChoice} {files : φ} {world : World σ}

theorem decided?_eq_some_iff
    {report : Report} {run : Run σ} :
    decided? settings sources manifest filters cache files world = some (report, run) ↔
      ∃ prepared, prepare settings manifest cache files = .ok prepared ∧
        (prepared.start settings cache files world).resolveAndReport sources filters
          prepared.collection.items = (.ok report, run) := by
  rw [decided?]
  cases prepare settings manifest cache files with
  | error failure => simp
  | ok prepared =>
    simp only [Except.ok.injEq, exists_eq_left']
    cases (prepared.start settings cache files world).resolveAndReport sources filters
        prepared.collection.items with
    | mk outcome last => cases outcome <;> simp

/-- A pass for which something cannot be read, or whose run fails, fails and changes no file. -/
theorem collectTests_of_undecided
    (undecided : decided? settings sources manifest filters cache files world = none) :
    ∃ failure last, collectTests settings sources occasion manifest filters cache files world =
      ⟨.error failure, files, last⟩ := by
  rw [collectTests]
  cases loaded : Manifest.load files manifest with
  | error failure => exact ⟨failure, _, rfl⟩
  | ok contents =>
    simp only
    cases collected : contents.collect settings.excluded with
    | error failure => exact ⟨failure, _, rfl⟩
    | ok collection =>
      simp only [decideCollected]
      cases cached : (Cache.Plan.make files cache.directory cache.requested).load files
          settings.serverVersion with
      | error failure => exact ⟨failure, _, rfl⟩
      | ok index =>
        have prepared : prepare settings manifest cache files =
            .ok ⟨contents, collection, index⟩ := by
          simp only [prepare, collectFrom, loaded, collected, cached, bind, Except.bind, pure,
            Except.pure]
        rw [decided?, prepared] at undecided
        simp only [Preparation.start] at undecided ⊢
        split
        · rename_i failure last _
          exact ⟨failure, last.world, rfl⟩
        · rename_i report last outcome
          rw [outcome] at undecided
          cases undecided

/-- A pass whose run succeeds writes what is to be written. -/
theorem collectTests_of_decided
    {report : Report} {run : Run σ}
    (decided : decided? settings sources manifest filters cache files world = some (report, run)) :
    collectTests settings sources occasion manifest filters cache files world =
      storeAfter (Cache.Plan.make files cache.directory cache.requested) (occasion.runMeta settings)
        report files run := by
  obtain ⟨prepared, isPrepared, outcome⟩ := decided?_eq_some_iff.mp decided
  obtain ⟨⟨contents, collection⟩, collecting, rest⟩ := Results.bind_eq_ok_iff.mp isPrepared
  obtain ⟨index, cached, made⟩ := Results.bind_eq_ok_iff.mp rest
  cases made
  obtain ⟨_, loaded, rest⟩ := Results.bind_eq_ok_iff.mp collecting
  obtain ⟨_, collected, made⟩ := Results.bind_eq_ok_iff.mp rest
  cases made
  rw [collectTests, loaded]
  simp only
  rw [collected]
  simp only [decideCollected]
  rw [cached]
  simp only [Preparation.start] at outcome ⊢
  rw [outcome]

theorem prepare_of_load
    {cached : Index}
    (loads : (Cache.Plan.make files cache.directory cache.requested).load files
      settings.serverVersion = .ok cached) :
    prepare settings manifest cache files =
      (collectFrom settings manifest files).map fun read => ⟨read.1, read.2, cached⟩ := by
  rw [prepare]
  cases collectFrom settings manifest files with
  | error failure => rfl
  | ok read =>
    simp only [bind, Except.bind, loads]
    rfl

theorem exists_decided_of_ok
    {report : Report}
    (ok : (collectTests settings sources occasion manifest filters cache files world).outcome =
      .ok report) :
    ∃ run, decided? settings sources manifest filters cache files world = some (report, run) := by
  cases decided : decided? settings sources manifest filters cache files world with
  | none =>
    obtain ⟨failure, last, failed⟩ := collectTests_of_undecided decided
    rw [failed] at ok
    cases ok
  | some result =>
    obtain ⟨other, run⟩ := result
    rw [collectTests_of_decided decided, storeAfter] at ok
    split at ok
    · cases ok
      exact ⟨run, rfl⟩
    · simp only at ok
      split at ok
      · cases ok
      · cases ok
        exact ⟨run, rfl⟩

end Reading

/-! ## What is written -/

theorem outcome_storeAfter
    [Storage φ] {plan : Cache.Plan} {runMeta : Cache.RunMeta} {files : φ} {run : Run σ}
    (mayWrite : (plan.store files run.session.index runMeta).failure = none) (report : Report) :
    (storeAfter plan runMeta report files run).outcome = .ok report := by
  rw [storeAfter]
  split
  · rfl
  · simp only [mayWrite]

theorem storeAfter_of_nothing_pending
    [Storage φ] {plan : Cache.Plan}
    (nothingPending : plan.pending = []) (runMeta : Cache.RunMeta) (report : Report) (files : φ)
    (run : Run σ) :
    storeAfter plan runMeta report files run = ⟨.ok report, files, run.world⟩ := by
  have noNotices : run.world.noteAll [] = run.world := by
    rw [World.noteAll, World.record, List.map_nil, List.append_nil]
  rw [storeAfter]
  split
  · rfl
  · simp only [Cache.Plan.store, nothingPending, Cache.Plan.writeAll, Cache.Plan.Stored.notices,
      List.map_nil, noNotices]

/-- The paths of the cache files that are asked for. -/
def CacheChoice.paths (cache : CacheChoice) : List Path :=
  cache.requested.map (Cache.filePath cache.directory)

/-- Whether a path names none of the cache files that are asked for. -/
def CacheChoice.Spares (cache : CacheChoice) (path : Path) : Prop :=
  FileStore.key path ∉ cache.paths.map FileStore.key

variable {settings : Settings} {sources : IssueSources σ} {occasion : Occasion} {manifest : Path}
  {filters : Filters} {cache : CacheChoice} {files : FileStore} {world : World σ} {report : Report}

theorem CacheChoice.IsAbsent.spares
    {path : Path}
    (absent : cache.IsAbsent files) (present : (files.text? path).isSome = true) :
    cache.Spares path := by
  rw [Spares, paths, List.map_map, List.mem_map]
  rintro ⟨tracker, asked, same⟩
  have missing : (files.text? (Cache.filePath cache.directory tracker)).isSome = false :=
    absent tracker asked
  have sameText : files.text? (Cache.filePath cache.directory tracker) = files.text? path :=
    congrArg files.files.find? same
  rw [sameText, present] at missing
  cases missing

theorem isSome_of_collectFrom
    {contents : Manifest × Collection}
    (ok : collectFrom settings manifest files = .ok contents) :
    (files.text? manifest).isSome = true := by
  obtain ⟨_, loaded, _⟩ := Results.bind_eq_ok_iff.mp ok
  rw [Manifest.load] at loaded
  cases text : files.text? manifest with
  | some text => rfl
  | none =>
    have unreadable : Storage.read files manifest =
        .error ("No such file: " ++ manifest.text) := by
      change files.read manifest = _
      rw [FileStore.read, text]
    rw [unreadable] at loaded
    cases loaded

theorem FileStore.storage_read
    {store : FileStore} {path : Path} {text : String}
    (found : store.text? path = some text) :
    Storage.read store path = .ok text := by
  change store.read path = .ok text
  rw [FileStore.read, found]

/-- Files that all have the text of a cache file hold what this is read as. -/
theorem CacheChoice.holds_of_texts
    {text : String} {file : Cache.File}
    (texts : ∀ tracker ∈ cache.requested,
      files.text? (Cache.filePath cache.directory tracker) = some text)
    (parsed : Cache.parse text = .ok file) :
    cache.Holds files file := by
  intro tracker member
  have found := texts tracker member
  constructor
  · exact Option.isSome_iff_exists.mpr ⟨text, found⟩
  · rw [Cache.load, FileStore.storage_read found]
    simp only
    rw [parsed]
    rfl

/-- A cache file that loads is what its text is read as. -/
theorem Cache.parse_of_load
    {path : Path} {text : String} {file : File}
    (loaded : load files path = .ok file) (found : files.text? path = some text) :
    parse text = .ok file := by
  rw [load, FileStore.storage_read found] at loaded
  simp only at loaded
  cases parsed : parse text with
  | error error =>
    rw [parsed] at loaded
    cases loaded
  | ok other =>
    rw [parsed] at loaded
    cases loaded
    rfl

/-- What is collected depends on the text of the manifest only. -/
theorem collectFrom_congr
    {others : FileStore}
    (settings : Settings) (sameText : others.text? manifest = files.text? manifest) :
    collectFrom settings manifest others = collectFrom settings manifest files := by
  have sameRead : Storage.read others manifest = Storage.read files manifest := by
    change others.read manifest = files.read manifest
    rw [FileStore.read, FileStore.read, sameText]
  rw [collectFrom, collectFrom, Manifest.load, Manifest.load, sameRead]

/-- A pass that has succeeded without the cache files that were asked for has written them all. -/
theorem stored_of_ok
    (asked : cache.requested ≠ []) (absent : cache.IsAbsent files)
    (ok : (collectTests settings sources occasion manifest filters cache files world).outcome =
      .ok report) :
    ∃ run, decided? settings sources manifest filters cache files world = some (report, run) ∧
      files.readOnly = false ∧
      ∀ path,
        (collectTests settings sources occasion manifest filters cache files
            world).files.text? path =
          if FileStore.key path ∈ cache.paths.map FileStore.key then
            some (Cache.render run.session.index (occasion.runMeta settings))
          else
            files.text? path := by
  obtain ⟨run, decided⟩ := exists_decided_of_ok ok
  refine ⟨run, decided, ?_⟩
  have notEmpty : (Cache.Plan.make files cache.directory cache.requested).isEmpty = false :=
    List.isEmpty_eq_false_iff.mpr asked
  rw [collectTests_of_decided decided] at ok ⊢
  simp only [storeAfter, notEmpty, Bool.false_eq_true, if_false, Cache.Plan.store,
    Cache.Plan.pending_of_absent absent] at ok ⊢
  have written : (Cache.Plan.writeAll (Cache.render run.session.index (occasion.runMeta settings))
      files cache.paths).failure = none := by
    split at ok
    · cases ok
    · assumption
  refine ⟨?_, Cache.Plan.text?_writeAll written⟩
  obtain ⟨tracker, rest, isFirst⟩ := List.exists_cons_of_ne_nil asked
  rw [CacheChoice.paths, isFirst] at written
  exact Cache.Plan.readOnly_of_writeAll written

/-- What a pass has written is what the text for the index of its run is read as. -/
theorem holds_of_parse
    {run : Run σ} {file : Cache.File}
    (asked : cache.requested ≠ []) (absent : cache.IsAbsent files)
    (decided : decided? settings sources manifest filters cache files world = some (report, run))
    (ok : (collectTests settings sources occasion manifest filters cache files world).outcome =
      .ok report)
    (parsed : Cache.parse (Cache.render run.session.index (occasion.runMeta settings)) = .ok file) :
    cache.Holds (collectTests settings sources occasion manifest filters cache files world).files
      file := by
  obtain ⟨other, otherDecided, _, texts⟩ := stored_of_ok asked absent ok
  rw [decided, Option.some.injEq, Prod.mk.injEq] at otherDecided
  obtain ⟨_, rfl⟩ := otherDecided
  apply CacheChoice.holds_of_texts _ parsed
  intro tracker member
  have isAsked : Cache.filePath cache.directory tracker ∈ cache.paths :=
    List.mem_map_of_mem member
  have text := texts (Cache.filePath cache.directory tracker)
  rwa [if_pos (List.mem_map_of_mem isAsked)] at text

/-- What a pass has written can be read, if the index of its run can be written. -/
theorem holds_of_ok
    {run : Run σ}
    (asked : cache.requested ≠ []) (absent : cache.IsAbsent files)
    (decided : decided? settings sources manifest filters cache files world = some (report, run))
    (ok : (collectTests settings sources occasion manifest filters cache files world).outcome =
      .ok report)
    (writable : run.session.index.Writable)
    (readsBack : Cache.ReadsBack run.session.index (occasion.runMeta settings)) :
    cache.Holds (collectTests settings sources occasion manifest filters cache files world).files
      ⟨run.session.index, (occasion.runMeta settings).readBack?⟩ :=
  holds_of_parse asked absent decided ok (Cache.parse_render writable readsBack)

end TestGate
