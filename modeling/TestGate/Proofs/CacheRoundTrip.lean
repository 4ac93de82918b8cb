import TestGate.Proofs.PrintedCaches

/-!
Cache files as a whole. Main statement: the text written for an index and a note on a run is read as
this index and this note, as long as no record lies too deep in it and all numbers are whole; and in
any text that is read the note stands for no issue.
-/

namespace TestGate

open Issue Json

/-! ## Whole numbers -/

/-- Whether all numbers of a value are whole. -/
inductive Json.IsWhole : Json → Prop where
  | null : IsWhole .null
  | bool (value : Bool) : IsWhole (.bool value)
  | integer (value : Int) : IsWhole (.number (.integer value))
  | text (value : String) : IsWhole (.text value)
  | list {items : List Json} (inside : ∀ item ∈ items, IsWhole item) : IsWhole (.list items)
  | object {members : List (String × Json)} (inside : ∀ member ∈ members, IsWhole member.2) :
      IsWhole (.object members)

/-- Only doubles may come out beside what they were. -/
theorem Json.IsWhole.reread_eq
    {json : Json}
    (whole : json.IsWhole) (sound : json.IsSound) :
    json.reread = json := by
  obtain ⟨depth, fits⟩ := sound
  induction fits with
  | null => rfl
  | bool value => rfl
  | text value => rfl
  | number isSound =>
    cases whole with
    | integer value =>
      apply congrArg Json.number
      exact (Number.reread_of_readAlone (Number.readAlone_integer isSound.1 isSound.2)).1
  | @list depth items _ each =>
    cases whole with
    | list inside =>
      have same : items.map Json.reread = items.map id :=
        List.map_congr_left fun item member => each item member (inside item member)
      rw [reread_list, same, List.map_id]
  | @object depth members _ each =>
    cases whole with
    | object inside =>
      have same : (members.map fun member => (member.1, member.2.reread)) = members.map id := by
        apply List.map_congr_left
        intro member inMembers
        rw [each member inMembers (inside member inMembers)]
        rfl
      rw [reread_object, same, List.map_id]

/-- Whether all numbers in the fields that a record does not know are whole, also in its clones. -/
inductive Issue.Record.IsWhole : Record → Prop where
  | intro {record : Record}
      (extra : ∀ name json, record.extra.find? name = some json → json.IsWhole)
      (clones : ∀ clone ∈ record.clones, IsWhole clone) :
      IsWhole record

theorem Issue.Record.IsWhole.reread_eq
    {record : Record}
    (whole : record.IsWhole) (readable : record.IsReadable) :
    record.reread = record := by
  induction whole with
  | @intro record extra _ each =>
    have sameClones : record.clones.map Record.reread = record.clones.map fun clone => clone :=
      List.map_congr_left fun clone member => each clone member (readable.clones member)
    have sameExtra : (record.extra.mapValues fun _ json => json.reread) = record.extra := by
      apply SortedMap.ext_find?
      intro name
      rw [SortedMap.find?_mapValues]
      cases found : record.extra.find? name with
      | none => rfl
      | some json =>
        have sound := (record.isSound_iff.mp readable.sound).2 name json found
        rw [Option.map_some, (extra name json found).reread_eq sound]
    rw [Record.reread_eq, sameClones, sameExtra, List.map_id']
    cases record
    rfl

namespace Cache

variable {index : Index}

def IsWhole (index : Index) : Prop :=
  ∀ issue record, index.record? issue = some record → record.IsWhole

theorem IsLegible.reread_eq
    (legible : IsLegible index) (whole : IsWhole index) :
    index.reread = index := by
  apply SortedMap.ext_find?
  intro issue
  rw [Index.reread, SortedMap.find?_mapValues]
  cases found : index.find? issue with
  | none => rfl
  | some entry =>
    obtain ⟨data, usedIn, isDuplicateTarget⟩ := entry
    cases data with
    | none => rfl
    | some record =>
      have known : index.record? issue = some record := by
        rw [Index.record?, found, Option.bind_some]
      have same := (whole issue record known).reread_eq (legible.records issue record known)
      rw [Option.map_some, Entry.reread, Option.map_some, same]

/-- An instant that reads back leaves the note as it was. -/
theorem RunMeta.readBack?_eq
    {runMeta : RunMeta}
    (datesBack : Timestamp.parse? runMeta.created.toText = some runMeta.created) :
    runMeta.readBack? = some runMeta := by
  rw [readBack?, datesBack, Option.map_some]

/-! ## Texts of cache files -/

/-- The note of a file stands for no issue: the issues of a file are those that its other members
name. -/
theorem contains_of_parse_iff
    {text : String} {file : File} {members : List (String × Json)}
    (isObject : Json.parse text = .ok (.object members)) (parsed : parse text = .ok file)
    (issue : Reference) :
    file.index.contains issue = true ↔
      ∃ member ∈ members, member.1 ≠ metaKey ∧ Reference.parse? member.1 = some issue := by
  rw [parse_of_object isObject] at parsed
  obtain ⟨pairs, pairsRead, made⟩ := Results.bind_eq_ok_iff.mp (decode_of_ofMembers parsed)
  rw [Tree.toPairs_ofJson] at pairsRead
  rw [← Except.ok.inj made]
  have issueOf : ∀ {name : String} {tree : Tree} {pair : Reference × Entry},
      (do
        let issue ← Reference.ofText name
        let entry ← Entry.decode tree
        .ok (issue, entry)) = .ok pair →
          Reference.parse? name = some pair.1 := by
    intro name tree pair read
    obtain ⟨reference, referenceRead, others⟩ := Results.bind_eq_ok_iff.mp read
    obtain ⟨entry, _, same⟩ := Results.bind_eq_ok_iff.mp others
    cases same
    rw [Reference.ofText] at referenceRead
    split at referenceRead
    · rename_i isReference
      cases referenceRead
      exact isReference
    · cases referenceRead
  constructor
  · intro present
    obtain ⟨entry, found⟩ := (SortedMap.contains_iff _ _).mp present
    obtain ⟨member, kept, read⟩ :=
      Results.mem_of_mapM_eq_ok pairsRead (SortedMap.mem_of_find?_ofList found)
    rw [List.mem_filter, bne_iff_ne] at kept
    exact ⟨member, kept.1, kept.2, issueOf read⟩
  · rintro ⟨member, inMembers, isNoNote, named⟩
    have kept : member ∈ members.filter fun member => member.1 != metaKey := by
      rw [List.mem_filter, bne_iff_ne]
      exact ⟨inMembers, isNoNote⟩
    obtain ⟨pair, inPairs, read⟩ := Results.ok_of_mapM_eq_ok pairsRead kept
    have same := issueOf read
    rw [named, Option.some.injEq] at same
    rw [SortedMap.contains, same]
    exact SortedMap.find?_ofList_isSome inPairs

end Cache

/-- What is written for an index and a note on a run is read as just these, exactly if no record
lies too deep in the text and no number comes out beside what it was; whole numbers do not. In any
text that is read the note is kept apart from the issues. -/
theorem cache_round_trip
    {index : Index} {runMeta : Cache.RunMeta}
    (proper : ∀ issue, index.contains issue = true → issue.IsProper)
    (legible : Cache.IsLegible index)
    (datesBack : Timestamp.parse? runMeta.created.toText = some runMeta.created) :
    (Cache.IsShallow index → Cache.IsWhole index →
        Cache.parse (Cache.render index runMeta) = .ok { index, runMeta := some runMeta }) ∧
      (Cache.parse (Cache.render index runMeta) = .ok { index, runMeta := some runMeta } ↔
        Cache.IsShallow index ∧ index.reread = index) ∧
      ∀ text file, Cache.parse text = .ok file →
        ∃ members, Json.parse text = .ok (.object members) ∧
          (Cache.metaKey ∉ members.map Prod.fst → file.runMeta = none) ∧
          ∀ issue, file.index.contains issue = true ↔
            ∃ member ∈ members, member.1 ≠ Cache.metaKey ∧
              Reference.parse? member.1 = some issue := by
  have written : Cache.IsShallow index →
      Cache.parse (Cache.render index runMeta) =
        .ok { index := index.reread, runMeta := some runMeta } := by
    intro shallow
    rw [legible.parse_render shallow proper, Cache.RunMeta.readBack?_eq datesBack]
  refine ⟨?_, ⟨?_, ?_⟩, ?_⟩
  · intro shallow whole
    rw [written shallow, legible.reread_eq whole]
  · intro parsed
    have shallow := legible.isShallow_of_parse proper parsed
    rw [written shallow] at parsed
    exact ⟨shallow, congrArg Cache.File.index (Except.ok.inj parsed)⟩
  · rintro ⟨shallow, same⟩
    rw [written shallow, same]
  · intro text file parsed
    obtain ⟨members, isObject, made⟩ := Cache.exists_members_of_parse parsed
    refine ⟨members, isObject, ?_, Cache.contains_of_parse_iff isObject parsed⟩
    intro noNote
    obtain ⟨_, _, isFile⟩ := Results.bind_eq_ok_iff.mp made
    cases isFile
    have absent : members.lookup Cache.metaKey = none := by
      rw [List.lookup_eq_none_iff]
      intro member inMembers
      rw [bne_iff_ne]
      intro same
      exact noNote (same ▸ List.mem_map_of_mem inMembers)
    rw [absent]
    rfl

/-- A clone with a field that records do not know. -/
def knownClone : Record where
  id := "9"
  extra := .ofList [("subcomponents", .list [Json.ofNat 3, .null])]

/-- A record with its clone. -/
def clonedRecord : Record where
  id := "7"
  status := "CLOSED"
  flags := [⟨"sat-6.10", "+"⟩]
  cloneIds := ["9"]
  clones := [knownClone]
  isOpen := some false

/-- An index with this record and an issue without one. -/
def clonedIssue : Index :=
  .ofList
    [(⟨.bugzilla, "7"⟩,
      { data := some clonedRecord
        usedIn := [{ location := ⟨"m.py", 9, "a"⟩, kind := "skip" }]
        isDuplicateTarget := true }),
     (⟨.jira, "A-1"⟩, {})]

theorem knownClone_extra
    {name : String} {json : Json}
    (found : knownClone.extra.find? name = some json) :
    name = "subcomponents" ∧ json = .list [Json.ofNat 3, .null] :=
  Prod.mk.inj (List.mem_singleton.mp (SortedMap.mem_of_find?_ofList found))

theorem fits_knownClone
    (depth : Nat) :
    Fits (depth + 3) knownClone.toJson := by
  refine knownClone.fits_iff.mpr ⟨nofun, fun name json found => ?_⟩
  rw [(knownClone_extra found).2]
  refine .list fun item member => ?_
  rcases List.mem_cons.mp member with rfl | isNull
  · exact (reread_ofNat (by decide)).2 _
  · rw [List.mem_singleton.mp isNull]
    exact .null

theorem fits_clonedRecord
    (depth : Nat) :
    Fits (depth + 5) clonedRecord.toJson := by
  refine clonedRecord.fits_iff.mpr ⟨fun clone member => ?_, nofun⟩
  rw [List.mem_singleton.mp member]
  exact fits_knownClone depth

theorem readable_clonedRecord : clonedRecord.IsReadable := by
  refine Record.isReadable_iff.mpr
    ⟨.intro nofun nofun fun clone member => ?_, ⟨_, fits_clonedRecord 0⟩⟩
  rw [List.mem_singleton.mp member]
  refine .intro nofun (fun name json found => ?_) nofun
  obtain ⟨isName, isValue⟩ := knownClone_extra found
  rw [isName, isValue]
  exact ⟨by decide, rfl⟩

theorem whole_clonedRecord : clonedRecord.IsWhole := by
  refine .intro nofun fun clone member => ?_
  rw [List.mem_singleton.mp member]
  refine .intro (fun name json found => ?_) nofun
  rw [(knownClone_extra found).2]
  refine .list fun item member => ?_
  rcases List.mem_cons.mp member with rfl | isNull
  · exact .integer 3
  · rw [List.mem_singleton.mp isNull]
    exact .null

theorem clonedIssue_record
    {issue : Reference} {record : Record}
    (known : clonedIssue.record? issue = some record) :
    record = clonedRecord := by
  obtain ⟨entry, found, isData⟩ := Option.bind_eq_some_iff.mp known
  have member := SortedMap.mem_of_find?_ofList found
  simp only [List.mem_cons, List.not_mem_nil, or_false, Prod.mk.injEq] at member
  rcases member with ⟨_, rfl⟩ | ⟨_, rfl⟩
  · exact (Option.some.inj isData).symm
  · cases isData

theorem cache_round_trip_clonedIssue :
    let runMeta : Cache.RunMeta := { version := "6.10", created := default, runId := "run" }
    Cache.parse (Cache.render clonedIssue runMeta) =
      .ok { index := clonedIssue, runMeta := some runMeta } := by
  intro runMeta
  have proper : ∀ issue, clonedIssue.contains issue = true → issue.IsProper := by
    intro issue present
    obtain ⟨entry, found⟩ := (SortedMap.contains_iff _ _).mp present
    have member := SortedMap.mem_of_find?_ofList found
    simp only [List.mem_cons, List.not_mem_nil, or_false, Prod.mk.injEq] at member
    rcases member with ⟨rfl, _⟩ | ⟨rfl, _⟩
    · exact ⟨by decide +kernel, by decide⟩
    · exact ⟨by decide +kernel, by decide⟩
  have legible : Cache.IsLegible clonedIssue := by
    refine ⟨fun issue record known => ?_, fun issue entry found usage isUse => ?_⟩
    · rw [clonedIssue_record known]
      exact readable_clonedRecord
    · have member := SortedMap.mem_of_find?_ofList found
      simp only [List.mem_cons, List.not_mem_nil, or_false, Prod.mk.injEq] at member
      rcases member with ⟨_, rfl⟩ | ⟨_, rfl⟩
      · rw [List.mem_singleton.mp isUse]
        decide
      · cases isUse
  have datesBack : Timestamp.parse? runMeta.created.toText = some runMeta.created := by
    decide +kernel
  have trip := cache_round_trip proper legible datesBack
  refine trip.1 (fun issue record known => ?_) fun issue record known => ?_
  · rw [clonedIssue_record known]
    exact (fits_clonedRecord _).sorted
  · rw [clonedIssue_record known]
    exact whole_clonedRecord

end TestGate
