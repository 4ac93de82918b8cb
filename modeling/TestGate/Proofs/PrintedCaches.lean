import TestGate.Proofs.CacheCodec
import TestGate.Proofs.PrintedTrees
import TestGate.Proofs.ReadableRecords

/-!
Printed cache files as they are read. Main statement: if the records of an index are such as can be
read from some text, its cache file can be read exactly if they do not lie too deep in it; and then
as the same index with the same verdicts, where only doubles in the fields that records do not know
may come out beside what they were.
-/

namespace TestGate

open Issue Json

/-! ## Records as they are read -/

mutual

/-- The record that is read from the text of a record. -/
def Issue.Record.reread : Record → Record
  | { id, status, resolution, fixVersions, targetMilestone, flags, duplicateOf, cloneIds, cloneOf,
      clones, isOpen, isDeselected, error, extra } =>
    { id, status, resolution, fixVersions, targetMilestone, flags, duplicateOf, cloneIds, cloneOf
      clones := Record.rereadList clones
      isOpen, isDeselected, error
      extra := extra.mapValues fun _ json => json.reread }

/-- The records that are read from their texts. -/
def Issue.Record.rereadList : List Record → List Record
  | [] => []
  | record :: records => record.reread :: Record.rereadList records

end

theorem Issue.Record.rereadList_eq_map
    (records : List Record) :
    Record.rereadList records = records.map Record.reread := by
  induction records with
  | nil => rfl
  | cons record rest inductionHypothesis =>
    rw [Record.rereadList, inductionHypothesis, List.map_cons]

theorem Issue.Record.reread_eq
    (record : Record) :
    record.reread =
      { record with
        clones := record.clones.map Record.reread
        extra := record.extra.mapValues fun _ json => json.reread } := by
  cases record
  rw [Record.reread, Record.rereadList_eq_map]

/-- The members of an object as they are read. -/
abbrev rereadPair (member : String × Json) : String × Json :=
  (member.1, member.2.reread)

theorem reread_listMember
    (name : String) (items : List Json) :
    (listMember name items).map rereadPair = listMember name (items.map Json.reread) := by
  cases items with
  | nil => rfl
  | cons item rest => simp [listMember]

theorem reread_optionMember
    {α : Type} (name : String) (encode : α → Json) (value : Option α) :
    (optionMember name encode value).map rereadPair =
      optionMember name (fun value => (encode value).reread) value := by
  cases value <;> rfl

@[simp] theorem Json.reread_text
    (value : String) :
    (Json.text value).reread = .text value := rfl

@[simp] theorem Json.reread_bool
    (value : Bool) :
    (Json.bool value).reread = .bool value := rfl

@[simp] theorem Json.reread_ofTexts
    (values : List String) :
    (Json.ofTexts values).reread = Json.ofTexts values := by
  simp [Json.ofTexts, Function.comp_def]

theorem Issue.Flag.toJson_reread
    (flag : Flag) :
    flag.toJson.reread = flag.toJson := by
  simp [Flag.toJson]

mutual

theorem Issue.Record.toJson_reread :
    (record : Record) → record.toJson.reread = record.reread.toJson
  | { id, status, resolution, fixVersions, targetMilestone, flags, duplicateOf, cloneIds, cloneOf,
      clones, isOpen, isDeselected, error, extra } => by
    have inside := Record.listToJson_reread clones
    simp only [Record.toJson, Record.reread, reread_object, List.map_append, reread_listMember,
      reread_optionMember, inside]
    simp [Function.comp_def, Flag.toJson_reread, SortedMap.mapValues]

theorem Issue.Record.listToJson_reread :
    (records : List Record) →
      (Record.listToJson records).map Json.reread = Record.listToJson (Record.rereadList records)
  | [] => rfl
  | record :: records => by
    rw [Record.listToJson, Record.rereadList, Record.listToJson, List.map_cons,
      Record.toJson_reread record, Record.listToJson_reread records]

end

/-- What was read of a writable record is writable again. -/
theorem Issue.Record.Writable.reread
    {record : Record}
    (writable : record.Writable) :
    record.reread.Writable := by
  induction writable with
  | @intro record link extra _ clonesReread =>
    rw [Record.reread_eq]
    refine .intro link ?_ ?_
    · intro name json found
      rw [SortedMap.find?_mapValues, Option.map_eq_some_iff] at found
      obtain ⟨source, isSource, rfl⟩ := found
      exact ⟨(extra name source isSource).1, (extra name source isSource).2.reread⟩
    · intro clone member
      obtain ⟨source, inClones, rfl⟩ := List.mem_map.mp member
      exact clonesReread source inClones

/-! ## Entries as they are read -/

/-- A line number is read as it was. -/
theorem reread_ofNat
    {n : Nat}
    (bounded : n ≤ Location.largestLine) :
    (Json.ofNat n).reread = Json.ofNat n ∧ ∀ depth, Json.Fits depth (Json.ofNat n) := by
  have low : -(2 ^ 63 : Int) ≤ n := by omega
  have power : Location.largestLine = 2 ^ 32 - 1 := by decide
  have high : (n : Int) < 2 ^ 64 := by omega
  have same := (Number.reread_of_readAlone (Number.readAlone_integer low high)).1
  have sound : Number.IsSound (.integer n) := ⟨low, high⟩
  exact ⟨congrArg Json.number same, fun _ => .number sound⟩

theorem Json.reread_ofOption_text
    (value : Option String) :
    (Json.ofOption .text value).reread = Json.ofOption .text value := by
  cases value <;> rfl

theorem Issue.Usage.toJson_reread
    {usage : Usage}
    (bounded : usage.location.line ≤ Location.largestLine) :
    usage.toJson.reread = usage.toJson := by
  simp [Usage.toJson, reread_optionMember, reread_ofNat bounded, Json.reread_ofOption_text]

/-- The entry that is read from the text of an entry. -/
def Issue.Entry.reread (entry : Entry) : Entry :=
  { entry with data := entry.data.map Record.reread }

theorem Issue.Entry.Writable.toJson_reread
    {entry : Entry}
    (writable : entry.Writable) :
    entry.toJson.reread = entry.reread.toJson := by
  have usages :
      (entry.usedIn.map Usage.toJson).map Json.reread = entry.usedIn.map Usage.toJson := by
    rw [List.map_map]
    exact List.map_congr_left fun usage member =>
      Usage.toJson_reread (writable.usedIn usage member)
  have data : (optionMember "data" Record.toJson entry.data).map rereadPair =
      optionMember "data" Record.toJson entry.reread.data := by
    rw [reread_optionMember, Entry.reread]
    cases entry.data with
    | none => rfl
    | some record => simp [optionMember, Record.toJson_reread]
  rw [Entry.toJson, reread_object, List.map_append, List.map_append, data, Entry.toJson]
  cases isTarget : entry.isDuplicateTarget <;> simp [Entry.reread, isTarget, usages]

theorem Issue.Entry.Writable.reread
    {entry : Entry}
    (writable : entry.Writable) :
    entry.reread.Writable := by
  refine ⟨fun record isData => ?_, writable.usedIn⟩
  obtain ⟨source, isSource, rfl⟩ := Option.map_eq_some_iff.mp isData
  exact (writable.data source isSource).reread

/-- The index that is read from the text of an index. -/
def Issue.Index.reread (index : Index) : Index :=
  index.mapValues fun _ entry => entry.reread

theorem Issue.Index.contains_reread
    (index : Index) (issue : Reference) :
    index.reread.contains issue = index.contains issue := by
  rw [SortedMap.contains, SortedMap.contains, Index.reread, SortedMap.find?_mapValues,
    Option.isSome_map]

theorem Issue.Index.record?_reread
    (index : Index) (issue : Reference) :
    index.reread.record? issue = (index.record? issue).map Record.reread := by
  rw [Index.record?, Index.record?, Index.reread, SortedMap.find?_mapValues]
  cases index.find? issue <;> rfl

namespace Cache

theorem RunMeta.toJson_reread
    (runMeta : RunMeta) :
    runMeta.toJson.reread = runMeta.toJson := by
  simp [RunMeta.toJson, Json.reread_ofOption_text]

theorem pairs_reread
    {index : Index}
    (writable : ∀ issue entry, index.find? issue = some entry → entry.Writable) :
    (index.entries.map fun (issue, entry) => (issue.toText, entry.toJson.sorted)).map rereadPair =
      index.reread.entries.map fun (issue, entry) => (issue.toText, entry.toJson.sorted) := by
  rw [Index.reread, SortedMap.mapValues, List.map_map, List.map_map]
  refine List.map_congr_left fun pair member => ?_
  have found := (SortedMap.find?_eq_some_iff index pair.1 pair.2).mpr member
  have entryReread := (writable pair.1 pair.2 found).toJson_reread
  simp only [Function.comp_apply, rereadPair, reread_sorted, entryReread]

theorem toJson_reread
    {index : Index}
    (writable : ∀ issue entry, index.find? issue = some entry → entry.Writable)
    (runMeta : RunMeta) :
    (toJson index runMeta).reread = toJson index.reread runMeta := by
  have note : runMeta.toJson.sorted.reread = runMeta.toJson.sorted := by
    rw [reread_sorted, RunMeta.toJson_reread]
  rw [toJson, reread_ofMembers, toJson, List.map_append, pairs_reread writable,
    List.map_singleton, note]

/-! ## Depth -/

theorem isCanonical_toJson
    (index : Index) (runMeta : RunMeta) :
    (toJson index runMeta).IsCanonical := by
  have sorts : ∀ json : Json, json.sorted.IsCanonical := fun json =>
    Tree.isCanonical_of_toJson (Tree.ofJson json) (Tree.toJson_ofJson json)
  refine isCanonical_ofMembers fun member inMembers => ?_
  rcases List.mem_append.mp inMembers with inIndex | isMeta
  · obtain ⟨source, _, rfl⟩ := List.mem_map.mp inIndex
    exact sorts _
  · rw [List.mem_singleton.mp isMeta]
    exact sorts _

end Cache

section Depth

variable {depth : Nat}

theorem Issue.Usage.fits_toJson
    {usage : Usage}
    (bounded : usage.location.line ≤ Location.largestLine) :
    Fits (depth + 1) usage.toJson := by
  refine .object fun member inMembers => ?_
  simp only [List.mem_append, List.mem_cons, List.not_mem_nil, or_false] at inMembers
  rcases inMembers with ((((rfl | rfl | rfl | rfl) | inImportance) | inMark) | rfl)
  · exact .text _
  · exact (reread_ofNat bounded).2 depth
  · exact .text _
  · exact fits_ofOption_text _
  · exact fits_optionMember (fun _ _ => .text _) inImportance
  · exact fits_optionMember (fun _ _ => .text _) inMark
  · exact .text _

theorem Cache.RunMeta.fits_toJson
    (runMeta : RunMeta) :
    Fits (depth + 2) runMeta.toJson := by
  refine .object fun member inMembers => ?_
  simp only [List.mem_cons, List.not_mem_nil, or_false] at inMembers
  rcases inMembers with rfl | rfl | rfl | rfl | rfl | rfl
  · exact .text _
  · exact fits_ofOption_text _
  · exact .text _
  · exact .text _
  · exact fits_ofTexts _
  · exact .text _

/-- How deep an entry is depends on its record, as this is written. -/
theorem Issue.Entry.fits_iff
    {entry : Entry}
    (bounded : ∀ usage ∈ entry.usedIn, usage.location.line ≤ Location.largestLine) :
    Fits (depth + 3) entry.toJson.sorted ↔
      ∀ record, entry.data = some record → Fits (depth + 2) record.toJson.sorted := by
  rw [show entry.toJson = .object entry.members from rfl, sorted_object]
  constructor
  · intro fits record isData
    have listed : entry.members.lookup "data" = some record.toJson := by
      simp [Entry.members, isData, optionMember]
    exact fits.of_object ((mem_sorted_iff entry.keys_members _ _).mpr ⟨_, listed, rfl⟩)
  · intro inside
    refine .object fun member inMembers => ?_
    have inSorted := SortedMap.mem_of_find?_ofList
      ((SortedMap.find?_eq_some_iff _ member.1 member.2).mpr inMembers)
    rw [sortedMembers_eq_map] at inSorted
    obtain ⟨source, inSource, same⟩ := List.mem_map.mp inSorted
    rw [← (Prod.mk.inj same).2]
    rcases List.mem_append.mp inSource with inFront | isTarget
    · rcases List.mem_append.mp inFront with inData | inUses
      · cases isData : entry.data with
        | none =>
          rw [isData] at inData
          cases inData
        | some record =>
          rw [isData] at inData
          rw [List.mem_singleton.mp inData]
          exact inside record isData
      · rw [List.mem_singleton.mp inUses]
        refine Fits.sorted (.list fun item inItems => ?_)
        obtain ⟨usage, inUsages, rfl⟩ := List.mem_map.mp inItems
        exact Usage.fits_toJson (bounded usage inUsages)
    · split at isTarget
      · rw [List.mem_singleton.mp isTarget]
        exact .bool true
      · cases isTarget

end Depth

namespace Cache

variable {index : Index}

/-- How deep lists and objects may lie in one another in a record that stands in a cache file. -/
def recordDepth : Nat :=
  deepest - 2

/-- A cache file is not deeper than its records make it. -/
theorem fits_toJson
    {depth : Nat}
    (bounded : ∀ issue entry, index.find? issue = some entry →
      ∀ usage ∈ entry.usedIn, usage.location.line ≤ Location.largestLine)
    (records : ∀ issue record, index.record? issue = some record →
      Fits (depth + 2) record.toJson.sorted)
    (runMeta : RunMeta) :
    Fits (depth + 4) (toJson index runMeta) := by
  refine .object fun member inMembers => ?_
  have found := (SortedMap.find?_eq_some_iff _ _ _).mpr inMembers
  rcases List.mem_append.mp (SortedMap.mem_of_find?_ofList found) with inIndex | isMeta
  · obtain ⟨⟨issue, entry⟩, inEntries, same⟩ := List.mem_map.mp inIndex
    have isEntry := (SortedMap.find?_eq_some_iff index issue entry).mpr inEntries
    rw [← (Prod.mk.inj same).2]
    refine (Entry.fits_iff (bounded issue entry isEntry)).mpr fun record isData => ?_
    apply records issue record
    rw [Index.record?, isEntry, Option.bind_some, isData]
  · rw [(Prod.mk.inj (List.mem_singleton.mp isMeta)).2]
    exact runMeta.fits_toJson.sorted

/-- The text of a cache file is read as some object, whose members make up the file. -/
theorem exists_members_of_parse
    {text : String} {file : File}
    (parsed : parse text = .ok file) :
    ∃ members, Json.parse text = .ok (.object members) ∧ ofMembers members = .ok file := by
  obtain ⟨json, decoded, made⟩ := Results.bind_eq_ok_iff.mp parsed
  obtain ⟨value, isValue, checked⟩ := Results.bind_eq_ok_iff.mp decoded
  have isJson : Json.parse text = .ok json := by
    simp only at isValue
    split at isValue
    · exact Results.bind_eq_ok_iff.mpr ⟨value, isValue, checked⟩
    · cases isValue
  obtain ⟨members, isObject, isFile⟩ := Results.bind_eq_ok_iff.mp made
  cases json with
  | object others =>
    cases isObject
    exact ⟨members, isJson, isFile⟩
  | _ => cases isObject

/-- Whether all records of an index can be read from some text, and all its line numbers fit. -/
structure IsLegible (index : Index) : Prop where
  records : ∀ issue record, index.record? issue = some record → record.IsReadable
  bounded : ∀ issue entry, index.find? issue = some entry →
    ∀ usage ∈ entry.usedIn, usage.location.line ≤ Location.largestLine

/-- Whether no record of an index lies too deep where it stands in a cache file. -/
def IsShallow (index : Index) : Prop :=
  ∀ issue record, index.record? issue = some record → Fits recordDepth record.toJson.sorted

namespace IsLegible

theorem entries
    (legible : IsLegible index) :
    ∀ issue entry, index.find? issue = some entry → entry.Writable := by
  intro issue entry found
  refine ⟨fun record isData => ?_, legible.bounded issue entry found⟩
  refine (legible.records issue record ?_).writable
  rw [Index.record?, found, Option.bind_some, isData]

theorem toJson
    (legible : IsLegible index) (runMeta : RunMeta) :
    (toJson index runMeta).IsSound := by
  have each : ∀ record ∈ index.entries.filterMap fun pair => pair.2.data,
      record.toJson.IsSound := by
    intro record member
    obtain ⟨⟨issue, entry⟩, inEntries, isData⟩ := List.mem_filterMap.mp member
    have isEntry := (SortedMap.find?_eq_some_iff index issue entry).mpr inEntries
    refine (legible.records issue record ?_).sound
    rw [Index.record?, isEntry, Option.bind_some, isData]
  obtain ⟨depth, fits⟩ := exists_common_depth each
  refine ⟨depth + 4, fits_toJson legible.bounded (fun issue record known => ?_) runMeta⟩
  obtain ⟨entry, found, isData⟩ := Option.bind_eq_some_iff.mp known
  have inEntries : (issue, entry) ∈ index.entries := (SortedMap.find?_eq_some_iff _ _ _).mp found
  have member : record ∈ index.entries.filterMap fun pair => pair.2.data :=
    List.mem_filterMap.mpr ⟨(issue, entry), inEntries, isData⟩
  exact ((fits record member).mono (Nat.le_add_right depth 2)).sorted

/-- The text of a cache file with no record too deep is read as the pairs that were written. -/
theorem parse_eq
    (legible : IsLegible index) (shallow : IsShallow index) (runMeta : RunMeta) :
    parse (render index runMeta) =
      ofMembers (SortedMap.ofList (contentOf index.reread runMeta)).entries := by
  have fits : Fits deepest (Cache.toJson index runMeta) :=
    fits_toJson legible.bounded shallow runMeta
  have text : Json.parse (render index runMeta) = .ok (Cache.toJson index.reread runMeta) := by
    rw [← toJson_reread legible.entries]
    exact fits.parse_render (isCanonical_toJson index runMeta)
  exact parse_of_object text

/-- If all issues of an index are proper and none of its records lies too deep, its cache file is
read as this index. -/
theorem parse_render
    (legible : IsLegible index) (shallow : IsShallow index)
    (proper : ∀ issue, index.contains issue = true → issue.IsProper) (runMeta : RunMeta) :
    parse (render index runMeta) = .ok ⟨index.reread, runMeta.readBack?⟩ := by
  have writable : index.reread.Writable := by
    intro issue entry found
    have present : index.reread.contains issue = true :=
      (SortedMap.contains_iff _ _).mpr ⟨entry, found⟩
    rw [Index.contains_reread] at present
    rw [Index.reread, SortedMap.find?_mapValues, Option.map_eq_some_iff] at found
    obtain ⟨source, isSource, rfl⟩ := found
    exact ⟨proper issue present, (legible.entries issue source isSource).reread⟩
  exact (legible.parse_eq shallow runMeta).trans (ofMembers_contentOf writable runMeta)

/-- A cache file that can be read has no record that lies too deep. -/
theorem isShallow_of_parse
    {file : File} {runMeta : RunMeta}
    (legible : IsLegible index)
    (proper : ∀ issue, index.contains issue = true → issue.IsProper)
    (parsed : parse (render index runMeta) = .ok file) :
    IsShallow index := by
  have writable : index.Writable := fun issue entry found =>
    ⟨proper issue ((SortedMap.contains_iff _ _).mpr ⟨entry, found⟩),
      legible.entries issue entry found⟩
  obtain ⟨members, textRead, _⟩ := exists_members_of_parse parsed
  have fits : Fits deepest (Cache.toJson index runMeta) :=
    .of_parse (legible.toJson runMeta) textRead
  intro issue record known
  obtain ⟨entry, found, isData⟩ := Option.bind_eq_some_iff.mp known
  have inEntries : (issue, entry) ∈ index.entries := (SortedMap.find?_eq_some_iff _ _ _).mp found
  have listed : (issue.toText, entry.toJson.sorted) ∈ contentOf index runMeta :=
    List.mem_append_left _ (List.mem_map.mpr ⟨(issue, entry), inEntries, rfl⟩)
  have isMember := (SortedMap.find?_eq_some_iff _ _ _).mp
    ((SortedMap.find?_ofList_eq_some_iff (keys_contentOf writable runMeta) _ _).mpr listed)
  have entryFits : Fits (recordDepth + 1) entry.toJson.sorted := fits.of_object isMember
  exact (Entry.fits_iff (legible.bounded issue entry found)).mp entryFits record isData

end IsLegible

/-! ## Keys that were read -/

theorem decode_of_ofMembers
    {members : List (String × Json)} {file : File}
    (ok : ofMembers members = .ok file) :
    Index.decode (Tree.ofJson (.object (members.filter fun member => member.1 != metaKey))) =
      .ok file.index := by
  obtain ⟨index, decoded, same⟩ := Results.bind_eq_ok_iff.mp ok
  cases same
  revert decoded
  rw [decodeValue]
  split <;> intro decoded <;> cases decoded
  assumption

/-- Each member of a cache file but the note stands under the text of a reference. -/
theorem reference_of_ofMembers
    {members : List (String × Json)} {file : File} {name : String} {json : Json}
    (ok : ofMembers members = .ok file) (member : (name, json) ∈ members)
    (noMeta : name ≠ metaKey) :
    ∃ issue, Reference.parse? name = some issue := by
  obtain ⟨pairs, pairsRead, _⟩ := Results.bind_eq_ok_iff.mp (decode_of_ofMembers ok)
  rw [Tree.toPairs_ofJson] at pairsRead
  have kept : (name, json) ∈ members.filter fun member => member.1 != metaKey := by
    rw [List.mem_filter, bne_iff_ne]
    exact ⟨member, noMeta⟩
  obtain ⟨pair, _, isRead⟩ := Results.ok_of_mapM_eq_ok pairsRead kept
  obtain ⟨issue, issueRead, _⟩ := Results.bind_eq_ok_iff.mp isRead
  rw [Reference.ofText] at issueRead
  split at issueRead
  · exact ⟨_, by assumption⟩
  · cases issueRead

/-- The issues that are read from a cache file are proper. -/
theorem isProper_of_ofMembers
    {members : List (String × Json)} {file : File} {issue : Reference}
    (ok : ofMembers members = .ok file) (present : file.index.contains issue = true) :
    issue.IsProper := by
  obtain ⟨pairs, pairsRead, listed⟩ := Results.bind_eq_ok_iff.mp (decode_of_ofMembers ok)
  rw [Tree.toPairs_ofJson] at pairsRead
  obtain ⟨entry, found⟩ := (SortedMap.contains_iff _ _).mp present
  rw [← Except.ok.inj listed] at found
  obtain ⟨source, _, isRead⟩ :=
    Results.mem_of_mapM_eq_ok pairsRead (SortedMap.mem_of_find?_ofList found)
  obtain ⟨reference, referenceRead, others⟩ := Results.bind_eq_ok_iff.mp isRead
  obtain ⟨_, _, pair⟩ := Results.bind_eq_ok_iff.mp others
  cases pair
  rw [Reference.ofText] at referenceRead
  split at referenceRead
  · rename_i other isParsed
    cases referenceRead
    exact Reference.isProper_of_parse? isParsed
  · cases referenceRead

theorem isProper_of_parse
    {text : String} {file : File} {issue : Reference}
    (parsed : parse text = .ok file) (present : file.index.contains issue = true) :
    issue.IsProper := by
  obtain ⟨_, _, rest⟩ := Results.bind_eq_ok_iff.mp parsed
  obtain ⟨_, _, made⟩ := Results.bind_eq_ok_iff.mp rest
  exact isProper_of_ofMembers made present

/-- A cache file with an issue whose text is no reference cannot be read. -/
theorem IsLegible.parse_render_error
    {issue : Reference}
    (legible : IsLegible index) (shallow : IsShallow index) (present : index.contains issue = true)
    (unreadable : Reference.parse? issue.toText = none) (runMeta : RunMeta) :
    ∃ error, parse (render index runMeta) = .error error := by
  cases parsed : parse (render index runMeta) with
  | error error => exact ⟨error, rfl⟩
  | ok file =>
    rw [legible.parse_eq shallow runMeta] at parsed
    rw [← Index.contains_reread] at present
    obtain ⟨entry, isEntry⟩ := (SortedMap.contains_iff _ _).mp present
    have member : (issue, entry) ∈ index.reread.entries :=
      (SortedMap.find?_eq_some_iff _ _ _).mp isEntry
    have listed : (issue.toText, entry.toJson.sorted) ∈ contentOf index.reread runMeta :=
      List.mem_append_left _ (List.mem_map.mpr ⟨(issue, entry), member, rfl⟩)
    obtain ⟨json, found⟩ := Option.isSome_iff_exists.mp (SortedMap.find?_ofList_isSome listed)
    obtain ⟨other, isParsed⟩ := reference_of_ofMembers parsed
      ((SortedMap.find?_eq_some_iff _ _ _).mp found) (toText_ne_metaKey issue)
    rw [unreadable] at isParsed
    cases isParsed

end Cache

end TestGate
