import TestGate.Proofs.CacheVersions
import TestGate.Proofs.VersionOrder

/-!
What is read from several cache files. Main statement: reading fails exactly for a file that existed
and cannot be read, and then names the first; otherwise the entry of an issue is that of the last
file that holds the issue. It keeps its verdicts if this file is for the version at hand, and only
then, except for fallback records, which keep theirs in any case.
-/

namespace TestGate

open Issue

/-- What is found last in a list. -/
theorem findSome?_reverse_eq_some_iff
    {α β : Type} {items : List α} {result : α → Option β} {value : β} :
    items.reverse.findSome? result = some value ↔
      ∃ before item after, items = before ++ item :: after ∧ result item = some value ∧
        ∀ later ∈ after, result later = none := by
  rw [List.findSome?_eq_some_iff]
  constructor
  · rintro ⟨after, item, before, whole, isValue, nothing⟩
    refine ⟨before.reverse, item, after.reverse, ?_, isValue, by simpa using nothing⟩
    rw [← List.reverse_reverse items, whole]
    simp
  · rintro ⟨before, item, after, rfl, isValue, nothing⟩
    exact ⟨after.reverse, item, before.reverse, by simp, isValue, by simpa using nothing⟩

/-! ## Entries without verdicts -/

/-- The entry without the verdicts of its record, unless this is a fallback. -/
def Issue.Entry.withoutVerdicts (entry : Entry) : Entry :=
  { entry with
    data := entry.data.map fun record =>
      if record.error = none then
        { record with isOpen := none, isDeselected := none }
      else
        record }

theorem Issue.Index.find?_forgetVerdicts
    (index : Index) (issue : Reference) :
    index.forgetVerdicts.find? issue = (index.find? issue).map Entry.withoutVerdicts := by
  have sameRecord : ∀ record : Record,
      record.forgetVerdicts =
        if record.error = none then
          { record with isOpen := none, isDeselected := none }
        else
          record := by
    intro record
    rw [Record.forgetVerdicts, Record.isFallback]
    cases record.error <;> rfl
  rw [forgetVerdicts, SortedMap.find?_mapValues]
  congr 1
  funext entry
  rw [Entry.withoutVerdicts]
  congr 2
  funext record
  exact sameRecord record

namespace Cache

/-! ## The version that a file is for -/

/-- Whether the text of a cache file notes that it was written for a version that equals this one up
to zeros at the end. -/
def IsWrittenFor (text : String) (version : Version) : Prop :=
  ∃ members note runMeta written,
    Json.parse text = .ok (.object members) ∧ members.lookup metaKey = some note ∧
      Json.decodeValue RunMeta.decode note = .ok runMeta ∧
      Version.extract? runMeta.version = some written ∧
      written.components.rdropWhile (· == 0) = version.components.rdropWhile (· == 0)

theorem matchesVersion_iff
    {text : String} {file : File} {version : Version}
    (parsed : parse text = .ok file) :
    file.matchesVersion version = true ↔ IsWrittenFor text version := by
  obtain ⟨members, isObject, made⟩ := exists_members_of_parse parsed
  obtain ⟨index, _, same⟩ := Results.bind_eq_ok_iff.mp made
  cases same
  simp only [File.matchesVersion, Option.any_eq_true, Option.bind_eq_some_iff,
    Results.toOption_eq_some_iff, Version.equivalent_iff, IsWrittenFor, isObject]
  constructor
  · rintro ⟨written, ⟨runMeta, ⟨note, isNote, isMeta⟩, isVersion⟩, equal⟩
    exact ⟨members, note, runMeta, written, rfl, isNote, isMeta, isVersion, equal⟩
  · rintro ⟨others, note, runMeta, written, same, isNote, isMeta, isVersion, equal⟩
    cases same
    exact ⟨written, ⟨runMeta, ⟨note, isNote, isMeta⟩, isVersion⟩, equal⟩

variable {φ : Type} [Storage φ]

/-! ## Single files -/

/-- Whether the file of a tracker existed among the files at planning, and holds this text and this
content when it is read. -/
structure Supplies
    (planned files : φ) (directory : Path) (tracker : Tracker) (text : String) (file : File) :
    Prop where
  existed : Storage.contains planned (filePath directory tracker) = true
  read : Storage.read files (filePath directory tracker) = .ok text
  parsed : parse text = .ok file

/-- Whether the file of a tracker existed among the files at planning, but cannot be read, or is no
cache file, and this is said about it. -/
structure Refuses
    (planned files : φ) (directory : Path) (tracker : Tracker) (failure : Failure) : Prop where
  existed : Storage.contains planned (filePath directory tracker) = true
  cause :
    (∃ message, Storage.read files (filePath directory tracker) = .error message ∧
      failure = .cache (filePath directory tracker).text message) ∨
    ∃ text error, Storage.read files (filePath directory tracker) = .ok text ∧
      parse text = .error error ∧ failure = .cache (filePath directory tracker).text error.message

theorem Supplies.not_refuses
    {planned files : φ} {directory : Path} {tracker : Tracker} {text : String} {file : File}
    (supplies : Supplies planned files directory tracker text file) (failure : Failure) :
    ¬ Refuses planned files directory tracker failure := by
  rintro ⟨_, ⟨message, isMessage, _⟩ | ⟨other, error, isText, isError, _⟩⟩
  · cases isMessage.symm.trans supplies.read
  · cases isText.symm.trans supplies.read
    cases isError.symm.trans supplies.parsed

theorem load_eq_ok_iff
    {files : φ} {path : Path} {file : File} :
    load files path = .ok file ↔
      ∃ text, Storage.read files path = .ok text ∧ parse text = .ok file := by
  rw [load]
  cases Storage.read files path with
  | error message => simp
  | ok text => cases parsed : parse text <;> simp [parsed, Except.mapError]

theorem load_eq_error_iff
    {files : φ} {path : Path} {failure : Failure} :
    load files path = .error failure ↔
      (∃ message, Storage.read files path = .error message ∧
        failure = .cache path.text message) ∨
      ∃ text error, Storage.read files path = .ok text ∧ parse text = .error error ∧
        failure = .cache path.text error.message := by
  rw [load]
  cases Storage.read files path with
  | error message => simp [eq_comm]
  | ok text => cases parsed : parse text <;> simp [parsed, Except.mapError, eq_comm]

/-- Whether `entry` is what counts for a version of an entry that the text of a cache file holds. -/
def Counts (text : String) (version : Version) (stored entry : Entry) : Prop :=
  (IsWrittenFor text version → entry = stored) ∧
    (¬ IsWrittenFor text version → entry = stored.withoutVerdicts)

theorem exists_counts
    (text : String) (version : Version) (stored : Entry) :
    ∃ entry, Counts text version stored entry := by
  by_cases written : IsWrittenFor text version
  · exact ⟨stored, fun _ => rfl, absurd written⟩
  · exact ⟨stored.withoutVerdicts, fun isOwn => absurd isOwn written, fun _ => rfl⟩

theorem find?_usableIndex_iff
    {text : String} {file : File} {version : Version} {issue : Reference} {entry : Entry}
    (parsed : parse text = .ok file) :
    (file.usableIndex version).find? issue = some entry ↔
      ∃ stored, file.index.find? issue = some stored ∧ Counts text version stored entry := by
  rw [File.usableIndex]
  by_cases isOwn : file.matchesVersion version = true
  · have written := (matchesVersion_iff parsed).mp isOwn
    rw [if_pos isOwn]
    constructor
    · exact fun found => ⟨entry, found, fun _ => rfl, absurd written⟩
    · rintro ⟨stored, found, keeps, _⟩
      rw [keeps written, found]
  · have foreign := mt (matchesVersion_iff parsed).mpr isOwn
    rw [if_neg isOwn, Index.find?_forgetVerdicts, Option.map_eq_some_iff]
    constructor
    · rintro ⟨stored, found, rfl⟩
      exact ⟨stored, found, fun written => absurd written foreign, fun _ => rfl⟩
    · rintro ⟨stored, found, _, clears⟩
      exact ⟨stored, found, (clears foreign).symm⟩

namespace Plan

/-! ## Files one by one -/

/-- What the file of a tracker adds to what is read: nothing if it did not exist. -/
def contribution (plan : Plan) (files : φ) (version : Version) (tracker : Tracker) :
    Except Failure Index :=
  if plan.existing.contains tracker then
    (fun file => file.usableIndex version) <$> Cache.load files (filePath plan.directory tracker)
  else
    .ok SortedMap.empty

theorem load_eq
    (plan : Plan) (files : φ) (version : Version) :
    plan.load files version =
      (fun indices => indices.foldl SortedMap.insertAll SortedMap.empty) <$>
        plan.requested.mapM (plan.contribution files version) := by
  refine Results.foldlM_eq_map_mapM (fun loaded tracker => ?_) _ _
  rw [loadOne, contribution]
  by_cases existed : plan.existing.contains tracker = true
  · rw [if_pos existed, if_pos existed]
    cases Cache.load files (filePath plan.directory tracker) with
    | error failure => rfl
    | ok file => rfl
  · rw [if_neg existed, if_neg existed]
    rfl

variable {planned files : φ} {directory : Path} {requested : List Tracker} {version : Version}
variable {tracker : Tracker}

theorem contribution_make
    (member : tracker ∈ requested) :
    (make planned directory requested).contribution files version tracker =
      if Storage.contains planned (filePath directory tracker) then
        (fun file => file.usableIndex version) <$> Cache.load files (filePath directory tracker)
      else
        .ok SortedMap.empty := by
  have existed_iff : (make planned directory requested).existing.contains tracker =
      Storage.contains planned (filePath directory tracker) := by
    rw [make, Bool.eq_iff_iff, List.contains_iff_mem, List.mem_filter, and_iff_right member]
  rw [contribution, existed_iff]
  rfl

theorem contribution_eq_error_iff
    {failure : Failure} (member : tracker ∈ requested) :
    (make planned directory requested).contribution files version tracker = .error failure ↔
      Refuses planned files directory tracker failure := by
  rw [contribution_make member]
  by_cases existed : Storage.contains planned (filePath directory tracker) = true
  · rw [if_pos existed, Results.map_eq_error_iff, load_eq_error_iff]
    exact ⟨fun cause => ⟨existed, cause⟩, Refuses.cause⟩
  · rw [if_neg existed]
    exact iff_of_false nofun fun refuses => existed refuses.existed

theorem exists_contribution_iff
    (member : tracker ∈ requested) :
    (∃ index, (make planned directory requested).contribution files version tracker = .ok index) ↔
      (Storage.contains planned (filePath directory tracker) = true →
        ∃ text file, Supplies planned files directory tracker text file) := by
  rw [contribution_make member]
  by_cases existed : Storage.contains planned (filePath directory tracker) = true
  · rw [if_pos existed, forall_prop_of_true existed]
    constructor
    · rintro ⟨index, contributed⟩
      obtain ⟨file, loaded, _⟩ := Results.map_eq_ok_iff.mp contributed
      obtain ⟨text, isText, parsed⟩ := load_eq_ok_iff.mp loaded
      exact ⟨text, file, existed, isText, parsed⟩
    · rintro ⟨text, file, _, isText, parsed⟩
      have loaded := load_eq_ok_iff.mpr ⟨text, isText, parsed⟩
      exact ⟨_, Results.map_eq_ok_iff.mpr ⟨file, loaded, rfl⟩⟩
  · rw [if_neg existed]
    exact iff_of_true ⟨_, rfl⟩ fun exists_ => absurd exists_ existed

/-- What a file contributes about an issue is what counts of its entry. -/
theorem find?_contribution_iff
    {index : Index} {issue : Reference} {entry : Entry} (member : tracker ∈ requested)
    (contributed :
      (make planned directory requested).contribution files version tracker = .ok index) :
    index.find? issue = some entry ↔
      ∃ text file stored, Supplies planned files directory tracker text file ∧
        file.index.find? issue = some stored ∧ Counts text version stored entry := by
  rw [contribution_make member] at contributed
  by_cases existed : Storage.contains planned (filePath directory tracker) = true
  · rw [if_pos existed] at contributed
    obtain ⟨file, loaded, rfl⟩ := Results.map_eq_ok_iff.mp contributed
    obtain ⟨text, isText, parsed⟩ := load_eq_ok_iff.mp loaded
    rw [find?_usableIndex_iff parsed]
    constructor
    · rintro ⟨stored, found, counts⟩
      exact ⟨text, file, stored, ⟨existed, isText, parsed⟩, found, counts⟩
    · rintro ⟨otherText, other, stored, supplies, found, counts⟩
      cases isText.symm.trans supplies.read
      cases parsed.symm.trans supplies.parsed
      exact ⟨stored, found, counts⟩
  · rw [if_neg existed] at contributed
    cases contributed
    refine iff_of_false nofun ?_
    rintro ⟨_, _, _, supplies, _⟩
    exact existed supplies.existed

theorem find?_contribution_eq_none_iff
    {index : Index} {issue : Reference} (member : tracker ∈ requested)
    (contributed :
      (make planned directory requested).contribution files version tracker = .ok index) :
    index.find? issue = none ↔
      ∀ text file, Supplies planned files directory tracker text file →
        file.index.find? issue = none := by
  rw [Option.eq_none_iff_forall_ne_some]
  simp only [ne_eq, find?_contribution_iff member contributed]
  constructor
  · intro nothing text file supplies
    rw [Option.eq_none_iff_forall_ne_some]
    intro stored found
    obtain ⟨entry, counts⟩ := exists_counts text version stored
    exact nothing entry ⟨text, file, stored, supplies, found, counts⟩
  · rintro nothing entry ⟨text, file, stored, supplies, found, _⟩
    cases found.symm.trans (nothing text file supplies)

/-! ## All files -/

/-- Reading fails for the first file that existed and cannot be read as a cache file. -/
theorem load_eq_error_iff
    {failure : Failure} :
    (make planned directory requested).load files version = .error failure ↔
      ∃ before tracker after, requested = before ++ tracker :: after ∧
        (∀ earlier ∈ before, Storage.contains planned (filePath directory earlier) = true →
          ∃ text file, Supplies planned files directory earlier text file) ∧
        Refuses planned files directory tracker failure := by
  rw [load_eq, Results.map_eq_error_iff, Results.mapM_eq_error_iff]
  refine exists_congr fun before => exists_congr fun tracker => exists_congr fun after => ?_
  refine and_congr_right fun whole => and_congr ?_ ?_
  · refine forall₂_congr fun earlier isEarlier => exists_contribution_iff ?_
    rw [show requested = _ from whole]
    exact List.mem_append_left _ isEarlier
  · refine contribution_eq_error_iff ?_
    rw [show requested = _ from whole]
    exact List.mem_append_right _ List.mem_cons_self

/-- What is read about an issue is what the last file contributes that contributes anything. -/
theorem find?_load
    {loaded : Index}
    (ok : (make planned directory requested).load files version = .ok loaded) :
    ∃ added : Tracker → Index,
      (∀ tracker ∈ requested,
        (make planned directory requested).contribution files version tracker =
          .ok (added tracker)) ∧
      ∀ issue, loaded.find? issue =
        requested.reverse.findSome? fun tracker => (added tracker).find? issue := by
  rw [load_eq, Results.map_eq_ok_iff] at ok
  obtain ⟨indices, contributed, rfl⟩ := ok
  let added (tracker : Tracker) : Index :=
    ((make planned directory requested).contribution files version tracker).toOption.getD
      SortedMap.empty
  have isAdded : ∀ {tracker index},
      (make planned directory requested).contribution files version tracker = .ok index →
        added tracker = index := by
    intro tracker index isIndex
    simp only [added, isIndex, Except.toOption, Option.getD_some]
  have allAdded : requested.map added = indices := by
    rw [← List.forall₂_eq_eq_eq, List.forall₂_map_left_iff]
    exact (Results.mapM_eq_ok_iff.mp contributed).imp fun _ _ => isAdded
  refine ⟨added, fun tracker member => ?_, fun issue => ?_⟩
  · obtain ⟨index, _, isIndex⟩ := Results.ok_of_mapM_eq_ok contributed member
    rw [isAdded isIndex, isIndex]
  · rw [SortedMap.find?_foldl_insertAll, SortedMap.find?_empty, Option.or_none, ← allAdded,
      ← List.map_reverse, List.findSome?_map]
    rfl

/-- The entry of an issue is what counts of the entry in the last file that holds the issue. -/
theorem find?_load_iff
    {loaded : Index} {issue : Reference} {entry : Entry}
    (ok : (make planned directory requested).load files version = .ok loaded) :
    loaded.find? issue = some entry ↔
      ∃ before tracker after, requested = before ++ tracker :: after ∧
        (∃ text file stored, Supplies planned files directory tracker text file ∧
          file.index.find? issue = some stored ∧ Counts text version stored entry) ∧
        ∀ later ∈ after, ∀ text file, Supplies planned files directory later text file →
          file.index.find? issue = none := by
  obtain ⟨added, contributed, found⟩ := find?_load ok
  rw [found, findSome?_reverse_eq_some_iff]
  refine exists_congr fun before => exists_congr fun tracker => exists_congr fun after => ?_
  refine and_congr_right fun whole => and_congr ?_ (forall₂_congr fun later isLater => ?_)
  · have member : tracker ∈ requested := whole ▸ List.mem_append_right _ List.mem_cons_self
    exact find?_contribution_iff member (contributed tracker member)
  · have member : later ∈ requested :=
      whole ▸ List.mem_append_right _ (List.mem_cons_of_mem _ isLater)
    exact find?_contribution_eq_none_iff member (contributed later member)

theorem contains_load_iff
    {loaded : Index} {issue : Reference}
    (ok : (make planned directory requested).load files version = .ok loaded) :
    loaded.contains issue = true ↔
      ∃ tracker ∈ requested, ∃ text file, Supplies planned files directory tracker text file ∧
        file.index.contains issue = true := by
  obtain ⟨added, contributed, found⟩ := find?_load ok
  rw [SortedMap.contains, found, List.findSome?_isSome_iff]
  simp only [List.mem_reverse]
  refine exists_congr fun tracker => and_congr_right fun member => ?_
  have absent_iff : (added tracker).find? issue = none ↔ _ :=
    find?_contribution_eq_none_iff member (contributed tracker member)
  rw [← Option.ne_none_iff_isSome, ne_eq, absent_iff]
  simp only [not_forall, exists_prop, SortedMap.contains, ← Option.ne_none_iff_isSome, ne_eq]

/-- A verdict on an issue that is known comes from a file for the version at hand. -/
theorem verdict_of_load
    {loaded : Index} {issue : Reference} {record : Record}
    (ok : (make planned directory requested).load files version = .ok loaded)
    (known : loaded.record? issue = some record) (noFallback : record.error = none)
    (judged : record.isOpen ≠ none ∨ record.isDeselected ≠ none) :
    ∃ tracker ∈ requested, ∃ text file, Supplies planned files directory tracker text file ∧
      IsWrittenFor text version ∧ file.index.record? issue = some record := by
  obtain ⟨entry, found, isData⟩ := Option.bind_eq_some_iff.mp known
  obtain ⟨before, tracker, after, whole, ⟨text, file, stored, supplies, isStored, counts⟩, _⟩ :=
    (find?_load_iff ok).mp found
  refine ⟨tracker, whole ▸ List.mem_append_right _ List.mem_cons_self, text, file, supplies, ?_⟩
  by_cases written : IsWrittenFor text version
  · rw [counts.1 written] at isData
    exact ⟨written, Option.bind_eq_some_iff.mpr ⟨stored, isStored, isData⟩⟩
  · rw [counts.2 written] at isData
    obtain ⟨original, _, rfl⟩ := Option.map_eq_some_iff.mp isData
    by_cases replaced : original.error = none
    · simp [replaced] at judged
    · simp [replaced] at noFallback

end Plan

/-- Reading cache files fails exactly if one of those that existed at planning cannot be read, and
then for the first of them. Otherwise the issues that are read are those of all files. The entry of
each is that of the last file that holds it; its record, unless it is a fallback, has lost its
verdicts exactly if this file is not for the version at hand. -/
theorem caches_are_merged_exactly
    (planned files : φ) (directory : Path) (requested : List Tracker) (version : Version) :
    let plan := Plan.make planned directory requested
    (∀ failure, plan.load files version = .error failure ↔
      ∃ before tracker after, requested = before ++ tracker :: after ∧
        (∀ earlier ∈ before, Storage.contains planned (filePath directory earlier) = true →
          ∃ text file, Supplies planned files directory earlier text file) ∧
        Refuses planned files directory tracker failure) ∧
    ∀ loaded, plan.load files version = .ok loaded →
      ∀ issue,
        (loaded.contains issue = true ↔
          ∃ tracker ∈ requested, ∃ text file, Supplies planned files directory tracker text file ∧
            file.index.contains issue = true) ∧
        (∀ entry, loaded.find? issue = some entry ↔
          ∃ before tracker after, requested = before ++ tracker :: after ∧
            (∃ text file stored, Supplies planned files directory tracker text file ∧
              file.index.find? issue = some stored ∧ Counts text version stored entry) ∧
            ∀ later ∈ after, ∀ text file, Supplies planned files directory later text file →
              file.index.find? issue = none) ∧
        ∀ record, loaded.record? issue = some record → record.error = none →
          record.isOpen ≠ none ∨ record.isDeselected ≠ none →
          ∃ tracker ∈ requested, ∃ text file, Supplies planned files directory tracker text file ∧
            IsWrittenFor text version ∧ file.index.record? issue = some record := by
  refine ⟨fun failure => Plan.load_eq_error_iff, fun loaded ok issue => ⟨?_, ?_, ?_⟩⟩
  · exact Plan.contains_load_iff ok
  · exact fun entry => Plan.find?_load_iff ok
  · exact fun record known noFallback judged => Plan.verdict_of_load ok known noFallback judged

/-- The text of a cache file for the issue that has been fixed, written for a version. -/
def fixedText (version : String) : String :=
  render fixedIssue { version := version, created := default, runId := "run" }

/-- What that text holds. -/
def fixedFile (version : String) : File where
  index := fixedIssue
  runMeta := some { version := version, created := default, runId := "run" }

theorem parse_fixedText
    (version : String) :
    parse (fixedText version) = .ok (fixedFile version) := by
  have shallow : IsShallow fixedIssue := fun issue record known => (fits_fixedIssue known).sorted
  have dates : Timestamp.parse? (default : Timestamp).toText = some default := by decide +kernel
  rw [fixedText, legible_fixedIssue.parse_render shallow proper_fixedIssue, RunMeta.readBack?,
    dates]
  rfl

/-- Files about the same issue for two versions. -/
def fixedFiles : FileStore :=
  .ofList [(⟨"./bz_cache.json"⟩, fixedText "6.10.0"), (⟨"./jr_cache.json"⟩, fixedText "7.0")] false

theorem text?_fixedFiles :
    fixedFiles.text? (filePath ⟨"."⟩ .bugzilla) = some (fixedText "6.10.0") ∧
      fixedFiles.text? (filePath ⟨"."⟩ .jira) = some (fixedText "7.0") := by
  have keys : FileStore.key (filePath ⟨"."⟩ .bugzilla) = "./bz_cache.json" ∧
      FileStore.key (filePath ⟨"."⟩ .jira) = "./jr_cache.json" ∧
      FileStore.key ⟨"./bz_cache.json"⟩ = "./bz_cache.json" ∧
      FileStore.key ⟨"./jr_cache.json"⟩ = "./jr_cache.json" := by
    decide +kernel
  constructor <;>
    simp [FileStore.text?, fixedFiles, FileStore.ofList, keys,
      SortedMap.find?_ofList_eq_some_iff]

theorem supplies_fixedFiles :
    Supplies fixedFiles fixedFiles ⟨"."⟩ .bugzilla (fixedText "6.10.0") (fixedFile "6.10.0") ∧
      Supplies fixedFiles fixedFiles ⟨"."⟩ .jira (fixedText "7.0") (fixedFile "7.0") := by
  obtain ⟨bugzilla, jira⟩ := text?_fixedFiles
  exact ⟨⟨Option.isSome_iff_exists.mpr ⟨_, bugzilla⟩, FileStore.storage_read bugzilla,
      parse_fixedText _⟩,
    ⟨Option.isSome_iff_exists.mpr ⟨_, jira⟩, FileStore.storage_read jira, parse_fixedText _⟩⟩

/-- The verdict counts if the last file is for the version at hand, and is lost otherwise. -/
theorem caches_are_merged_exactly_fixedFiles :
    let version : Version := { components := [6, 10] }
    (∃ loaded,
      (Plan.make fixedFiles ⟨"."⟩ [.jira, .bugzilla]).load fixedFiles version = .ok loaded ∧
        loaded.find? ⟨.bugzilla, "7"⟩ = some { data := some fixedRecord }) ∧
    ∃ loaded,
      (Plan.make fixedFiles ⟨"."⟩ [.bugzilla, .jira]).load fixedFiles version = .ok loaded ∧
        loaded.find? ⟨.bugzilla, "7"⟩ =
          some { data := some { fixedRecord with isOpen := none } } := by
  intro version
  have own : IsWrittenFor (fixedText "6.10.0") version :=
    (matchesVersion_iff (parse_fixedText _)).mp (by decide +kernel)
  have foreign : ¬ IsWrittenFor (fixedText "7.0") version :=
    mt (matchesVersion_iff (parse_fixedText _)).mpr (by decide +kernel)
  have held : fixedIssue.find? ⟨.bugzilla, "7"⟩ = some { data := some fixedRecord } :=
    (SortedMap.find?_ofList_eq_some_iff (by simp) _ _).mpr List.mem_cons_self
  obtain ⟨bugzilla, jira⟩ := supplies_fixedFiles
  have merged := caches_are_merged_exactly fixedFiles fixedFiles ⟨"."⟩
  have loads : ∀ requested, ∃ loaded,
      (Plan.make fixedFiles ⟨"."⟩ requested).load fixedFiles version = .ok loaded := by
    intro requested
    cases loaded : (Plan.make fixedFiles ⟨"."⟩ requested).load fixedFiles version with
    | ok index => exact ⟨index, rfl⟩
    | error failure =>
      obtain ⟨_, tracker, _, _, _, refuses⟩ := ((merged requested version).1 failure).mp loaded
      cases tracker with
      | bugzilla => exact absurd refuses (bugzilla.not_refuses failure)
      | jira => exact absurd refuses (jira.not_refuses failure)
  constructor
  · obtain ⟨loaded, ok⟩ := loads [.jira, .bugzilla]
    obtain ⟨_, entry_iff, _⟩ := (merged _ version).2 loaded ok ⟨.bugzilla, "7"⟩
    refine ⟨loaded, ok, (entry_iff _).mpr ?_⟩
    exact ⟨[.jira], .bugzilla, [], rfl,
      ⟨_, _, _, bugzilla, held, fun _ => rfl, absurd own⟩, nofun⟩
  · obtain ⟨loaded, ok⟩ := loads [.bugzilla, .jira]
    obtain ⟨_, entry_iff, _⟩ := (merged _ version).2 loaded ok ⟨.bugzilla, "7"⟩
    refine ⟨loaded, ok, (entry_iff _).mpr ?_⟩
    exact ⟨[.bugzilla], .jira, [], rfl,
      ⟨_, _, _, jira, held, fun isOwn => absurd isOwn foreign, fun _ => rfl⟩, nofun⟩

end Cache

end TestGate
