import TestGate.Proofs.CacheTransparency
import TestGate.Proofs.PrintedCaches

/-!
Which verdicts of a cache file count for the settings it was written under. Main statement: all of
them if the settings name a version. Without one the file notes the version zero, which is no
version to a reader, and so its verdicts are dropped by the very settings it was written under.
-/

namespace TestGate

open Issue Json

variable {settings : Settings}

/-- Whether the settings name a version. -/
def Settings.isVersioned (settings : Settings) : Bool :=
  (settings.server.version.bind Version.extract?).isSome

/-- The verdicts that an index holds about an issue. -/
def Issue.Index.verdicts? (index : Index) (issue : Reference) :
    Option (Option Bool × Option Bool) :=
  (index.record? issue).map fun record => (record.isOpen, record.isDeselected)

theorem Issue.Index.verdicts?_reread
    (index : Index) (issue : Reference) :
    index.reread.verdicts? issue = index.verdicts? issue := by
  rw [verdicts?, record?_reread, Option.map_map, verdicts?]
  congr 1
  funext record
  simp only [Function.comp_apply, Record.reread_eq]

theorem Issue.Record.forgetVerdicts_reread
    (record : Record) :
    record.reread.forgetVerdicts = record.forgetVerdicts.reread := by
  have sameError : record.reread.isFallback = record.isFallback := by
    rw [Record.reread_eq, Record.isFallback, Record.isFallback]
  rw [Record.forgetVerdicts, Record.forgetVerdicts, sameError]
  split
  · rfl
  · rw [Record.reread_eq, Record.reread_eq]

/-- The verdicts that are kept of those that an index holds. -/
def Issue.Index.keptVerdicts? (index : Index) (versioned : Bool) (issue : Reference) :
    Option (Option Bool × Option Bool) :=
  if versioned then index.verdicts? issue else index.forgetVerdicts.verdicts? issue

/-- The note of a run without a version matches no version. -/
theorem matchesVersion_of_unversioned
    (occasion : Occasion) (index : Index) (version : Version)
    (unversioned : settings.isVersioned = false) :
    (Cache.File.mk index (occasion.runMeta settings).readBack?).matchesVersion version = false := by
  have nothing : settings.server.version.bind Version.extract? = none := by
    simpa [Settings.isVersioned] using unversioned
  have isZero : settings.serverVersion = Version.zero := by
    rw [Settings.serverVersion, nothing]
    rfl
  have noVersion : Version.extract? Version.zero.toText = none :=
    Version.extract?_toText Version.zero
  rw [Cache.File.matchesVersion, Cache.RunMeta.readBack?]
  generalize Timestamp.parse? (occasion.runMeta settings).created.toText = created
  cases created with
  | none => rfl
  | some created =>
    change ((Version.extract? settings.serverVersion.toText).any _) = false
    rw [isZero, noVersion]
    rfl

/-- The note of a run matches the version of its settings exactly if they name one. -/
theorem matchesVersion_own
    {occasion : Occasion} (index : Index)
    (datesBack : Timestamp.parse? occasion.now.toText = some occasion.now) :
    (Cache.File.mk index (occasion.runMeta settings).readBack?).matchesVersion
      settings.serverVersion = settings.isVersioned := by
  cases versioned : settings.isVersioned with
  | false => exact matchesVersion_of_unversioned occasion index _ versioned
  | true =>
    obtain ⟨version, isVersion⟩ := Option.isSome_iff_exists.mp versioned
    exact matchesVersion_of_extract? index isVersion datesBack

/-- What is kept of the verdicts in a file is what its version allows. -/
theorem verdicts?_usableIndex
    (index : Index) (runMeta : Option Cache.RunMeta) (version : Version) (issue : Reference) :
    ((Cache.File.mk index.reread runMeta).usableIndex version).verdicts? issue =
      index.keptVerdicts? ((Cache.File.mk index.reread runMeta).matchesVersion version) issue := by
  rw [Cache.File.usableIndex, Index.keptVerdicts?]
  by_cases isOwn : (Cache.File.mk index.reread runMeta).matchesVersion version = true
  · rw [if_pos isOwn, if_pos isOwn]
    exact Index.verdicts?_reread index issue
  · rw [if_neg isOwn, if_neg isOwn, ← Index.verdicts?_reread index.forgetVerdicts]
    simp only [Index.verdicts?, Index.record?_forgetVerdicts, Index.record?_reread, Option.map_map,
      Function.comp_def, Record.forgetVerdicts_reread]

/-- The cache files that are written for an index can be read under the same settings exactly if no
record of the index lies too deep. They are for the version of these settings, and keep their
verdicts, exactly if the settings name one. -/
theorem stored_caches_keep_verdicts_iff_versioned
    (settings : Settings) {occasion : Occasion} {cache : CacheChoice} {files : FileStore}
    {index : Index}
    (proper : ∀ issue, index.contains issue = true → issue.IsProper)
    (legible : Cache.IsLegible index)
    (datesBack : Timestamp.parse? occasion.now.toText = some occasion.now)
    (asked : cache.requested ≠ []) (absent : cache.IsAbsent files)
    (mayWrite : files.readOnly = false) :
    let plan := Cache.Plan.make files cache.directory cache.requested
    let stored := plan.store files index (occasion.runMeta settings)
    let later := Cache.Plan.make stored.files cache.directory cache.requested
    stored.failure = none ∧
      ((∃ file, cache.Holds stored.files file) ↔ Cache.IsShallow index) ∧
      ∀ file, cache.Holds stored.files file →
        (file.matchesVersion settings.serverVersion = true ↔ settings.isVersioned = true) ∧
        (∀ issue, file.index.contains issue = index.contains issue) ∧
        ∃ loaded, later.load stored.files settings.serverVersion = .ok loaded ∧
          ∀ issue, loaded.verdicts? issue = index.keptVerdicts? settings.isVersioned issue := by
  intro plan stored later
  have success : stored.failure = none := Cache.Plan.failure_writeAll mayWrite _
  have text : ∀ tracker ∈ cache.requested,
      stored.files.text? (Cache.filePath cache.directory tracker) =
        some (Cache.render index (occasion.runMeta settings)) := by
    intro tracker member
    have isPending : Cache.filePath cache.directory tracker ∈ plan.pending := by
      rw [Cache.Plan.pending_of_absent absent]
      exact List.mem_map_of_mem member
    have written := Cache.Plan.text?_writeAll success (Cache.filePath cache.directory tracker)
    rwa [if_pos (List.mem_map_of_mem isPending)] at written
  let own : Cache.File := ⟨index.reread, (occasion.runMeta settings).readBack?⟩
  have holdsOwn : Cache.IsShallow index → cache.Holds stored.files own := fun shallow =>
    CacheChoice.holds_of_texts text (legible.parse_render shallow proper _)
  have parsed : ∀ file, cache.Holds stored.files file →
      Cache.parse (Cache.render index (occasion.runMeta settings)) = .ok file := by
    intro file holds
    obtain ⟨tracker, rest, isFirst⟩ := List.exists_cons_of_ne_nil asked
    have member : tracker ∈ cache.requested := isFirst ▸ List.mem_cons_self
    exact Cache.parse_of_load (holds tracker member).2 (text tracker member)
  have shallow : ∀ file, cache.Holds stored.files file → Cache.IsShallow index :=
    fun file holds => legible.isShallow_of_parse proper (parsed file holds)
  refine ⟨success, ⟨fun ⟨file, holds⟩ => shallow file holds, fun notDeep => ?_⟩, ?_⟩
  · exact ⟨own, holdsOwn notDeep⟩
  intro file holds
  have same : file = own := by
    have readBack := (parsed file holds).symm.trans
      (legible.parse_render (shallow file holds) proper (occasion.runMeta settings))
    exact Except.ok.inj readBack
  have isOwn : own.matchesVersion settings.serverVersion = settings.isVersioned :=
    matchesVersion_own index.reread datesBack
  subst same
  refine ⟨by rw [isOwn], index.contains_reread, ?_⟩
  refine ⟨_, Cache.Plan.load_of_holds holds asked settings.serverVersion, fun issue => ?_⟩
  rw [← isOwn]
  exact verdicts?_usableIndex index _ _ issue

/-- A record of an issue that has been fixed, with its verdict. -/
def fixedRecord : Record where
  id := "7"
  status := "CLOSED"
  isOpen := some false

/-- An index of one issue, which has been fixed. -/
def fixedIssue : Index :=
  .ofList [(⟨.bugzilla, "7"⟩, { data := some fixedRecord })]

theorem fixedIssue_only
    {issue : Reference} {entry : Entry}
    (found : fixedIssue.find? issue = some entry) :
    issue = ⟨.bugzilla, "7"⟩ ∧ entry = { data := some fixedRecord } := by
  have member := SortedMap.mem_of_find?_ofList found
  exact Prod.mk.inj (List.mem_singleton.mp member)

theorem proper_fixedIssue
    (issue : Reference) (present : fixedIssue.contains issue = true) :
    issue.IsProper := by
  obtain ⟨entry, found⟩ := (SortedMap.contains_iff _ _).mp present
  rw [(fixedIssue_only found).1]
  exact ⟨by decide +kernel, by decide⟩

theorem fits_fixedIssue
    {issue : Reference} {record : Record}
    (known : fixedIssue.record? issue = some record) :
    Fits Cache.recordDepth record.toJson := by
  obtain ⟨entry, found, isData⟩ := Option.bind_eq_some_iff.mp known
  rw [(fixedIssue_only found).2] at isData
  cases isData
  exact fixedRecord.fits_iff.mpr ⟨nofun, nofun⟩

theorem legible_fixedIssue : Cache.IsLegible fixedIssue := by
  constructor
  · intro issue record known
    obtain ⟨entry, found, isData⟩ := Option.bind_eq_some_iff.mp known
    rw [(fixedIssue_only found).2] at isData
    cases isData
    exact .of_plain nofun rfl rfl
  · intro issue entry found
    rw [(fixedIssue_only found).2]
    nofun

theorem stored_caches_keep_verdicts_iff_versioned_fixedIssue :
    let settings : Settings := .forVersion "6.10.z"
    let cache : CacheChoice := ⟨[.bugzilla], ⟨"."⟩⟩
    let plan := Cache.Plan.make (FileStore.ofList [] false) cache.directory cache.requested
    let stored := plan.store (FileStore.ofList [] false) fixedIssue
      (Occasion.runMeta ⟨default, "run", [], ""⟩ settings)
    stored.failure = none ∧
      ∃ file, cache.Holds stored.files file ∧
        file.matchesVersion settings.serverVersion = true := by
  intro settings cache plan stored
  have dates : Timestamp.parse? (default : Timestamp).toText = some default := by decide +kernel
  have absent : cache.IsAbsent (FileStore.ofList [] false) := by
    intro tracker member
    cases List.mem_singleton.mp member
    decide +kernel
  have shallow : Cache.IsShallow fixedIssue :=
    fun issue record known => (fits_fixedIssue known).sorted
  obtain ⟨success, loads, verdicts⟩ :
      stored.failure = none ∧
        ((∃ file, cache.Holds stored.files file) ↔ Cache.IsShallow fixedIssue) ∧
        ∀ file, cache.Holds stored.files file →
          (file.matchesVersion settings.serverVersion = true ↔ settings.isVersioned = true) ∧ _ :=
    stored_caches_keep_verdicts_iff_versioned settings proper_fixedIssue legible_fixedIssue dates
      (by decide) absent rfl
  obtain ⟨file, holds⟩ := loads.mpr shallow
  exact ⟨success, file, holds, (verdicts file holds).1.mpr (by decide +kernel)⟩

/-- Without a version the verdict is lost. -/
theorem fixedIssue_outdated_when_unversioned :
    ∃ file, Cache.parse (Cache.render fixedIssue (Occasion.runMeta ⟨default, "run", [], ""⟩ {})) =
        .ok file ∧
      file.matchesVersion ({} : Settings).serverVersion = false ∧
      fixedIssue.verdicts? ⟨.bugzilla, "7"⟩ = some (some false, none) ∧
      (file.usableIndex ({} : Settings).serverVersion).verdicts? ⟨.bugzilla, "7"⟩ =
        some (none, none) := by
  have shallow : Cache.IsShallow fixedIssue :=
    fun issue record known => (fits_fixedIssue known).sorted
  refine ⟨_, legible_fixedIssue.parse_render shallow proper_fixedIssue _, ?_, by decide +kernel, ?_⟩
  · exact matchesVersion_of_unversioned _ _ _ rfl
  · rw [verdicts?_usableIndex, matchesVersion_of_unversioned _ _ _ rfl]
    decide +kernel

end TestGate
