import TestGate.Jira.Search
import TestGate.Proofs.RecordCodec

/-!
Issues found in Jira, written as records and read back. A field that nobody asks about is kept under
its own name, also where a record has a field of that name; and a link may lead to a blank key. Main
statement: the record of a found issue reads back as it was exactly when neither is the case. With
the fields that a search asks for, only the blank key is left.
-/

namespace TestGate.Jira

open Issue Json

/-! ## What is kept -/

theorem mem_of_mem_othersOf
    {fields : Fields Field} {name : String} {json : Json}
    (kept : (name, json) ∈ othersOf fields) :
    (name, .other json) ∈ fields := by
  obtain ⟨⟨other, field⟩, member, isKept⟩ := List.mem_filterMap.mp kept
  cases field with
  | known tree => cases isKept
  | other value =>
    cases isKept
    exact List.mem_reverse.mp member

/-- What is kept of a field is its value, and the field is not one that is looked into. -/
theorem other_of_readField
    {name : String} {tree : Tree} {json : Json}
    (read : readField name tree = .ok (some (.other json))) :
    name ∉ knownFields ∧ tree.toJson = .ok json := by
  rw [readField] at read
  by_cases known : knownFields.contains name = true
  · rw [if_pos known] at read
    cases read
  · rw [if_neg known] at read
    obtain ⟨value, isValue, same⟩ := Results.map_eq_ok_iff.mp read
    cases same
    exact ⟨fun member => known (List.contains_iff_mem.mpr member), isValue⟩

namespace FoundIssue

variable {tree : Tree} {issue : FoundIssue}

theorem rest_of_decodeFields
    {key name : String} {json : Json}
    (ok : decodeFields key tree = .ok issue) (kept : issue.rest.find? name = some json) :
    name ∉ knownFields ∧ json.IsCanonical := by
  cases tree with
  | object members =>
    obtain ⟨fields, read, further⟩ := Results.bind_eq_ok_iff.mp ok
    obtain ⟨_, _, further⟩ := Results.bind_eq_ok_iff.mp further
    obtain ⟨_, _, further⟩ := Results.bind_eq_ok_iff.mp further
    obtain ⟨_, _, further⟩ := Results.bind_eq_ok_iff.mp further
    obtain ⟨_, _, made⟩ := Results.bind_eq_ok_iff.mp further
    cases made
    have inFields := mem_of_mem_othersOf (SortedMap.mem_of_find?_ofList kept)
    rcases Members.read_of_mem_fields members [] read name _ inFields with
      impossible | ⟨source, _, isRead⟩
    · cases impossible
    · obtain ⟨unknown, isValue⟩ := other_of_readField isRead
      exact ⟨unknown, Tree.isCanonical_of_toJson source isValue⟩
  | _ => cases ok

/-- What is kept of a found issue are values in canonical order, under names of other fields than
those that are looked into. -/
theorem rest_of_decode
    {name : String} {json : Json}
    (ok : FoundIssue.decode tree = .ok issue) (kept : issue.rest.find? name = some json) :
    name ∉ knownFields ∧ json.IsCanonical := by
  obtain ⟨fields, _, further⟩ := Results.bind_eq_ok_iff.mp ok
  obtain ⟨key, _, further⟩ := Results.bind_eq_ok_iff.mp further
  obtain ⟨source, _, decoded⟩ := Results.bind_eq_ok_iff.mp further
  exact rest_of_decodeFields decoded kept

/-! ## Reading back -/

/-- Whether the record of an issue can be written and read back. -/
theorem writable_toRecord_iff
    (ok : FoundIssue.decode tree = .ok issue) :
    issue.toRecord.Writable ↔
      issue.toRecord.duplicateOf ≠ some "" ∧
        ∀ name ∈ RecordField.names, issue.rest.find? name = none := by
  constructor
  · intro writable
    refine ⟨writable.link, fun name isName => Option.eq_none_iff_forall_ne_some.mpr ?_⟩
    intro json kept
    exact (writable.extra kept).1 isName
  · rintro ⟨link, nothingHidden⟩
    refine .intro link (fun name json kept => ⟨fun isName => ?_, ?_⟩) nofun
    · replace kept : issue.rest.find? name = some json := kept
      rw [nothingHidden name isName] at kept
      cases kept
    · exact (rest_of_decode ok kept).2

/-- The record of a found issue reads back as it was if the issue behind it has a key, and no field
that is kept has the name of a field of records; else it does not. -/
theorem found_issue_reads_back_iff
    (ok : FoundIssue.decode tree = .ok issue) :
    decodeValue Record.decode issue.toRecord.toJson.sorted = .ok issue.toRecord ↔
      issue.toRecord.duplicateOf ≠ some "" ∧
        ∀ name ∈ RecordField.names, issue.rest.find? name = none := by
  rw [decodeValue_eq_ok_iff, ← writable_toRecord_iff ok]
  constructor
  · exact Record.writable_of_decodeWithin
  · exact Record.Writable.decode_toJson

/-! ## Fields that are asked for -/

/-- The names of the fields that a search asks for. -/
def requestedNames : List String :=
  (Text.splitWhere (· == ',') requestedFields.toList).map String.ofList

/-- A search asks for no field that records have themselves, but for those that are looked into. -/
theorem known_of_requested :
    ∀ name ∈ RecordField.names, name ∈ requestedNames → name ∈ knownFields := by
  decide +kernel

/-- With the fields that a search asks for the record reads back, unless the link is blank. -/
theorem reads_back_of_requested
    (ok : FoundIssue.decode tree = .ok issue) (link : issue.toRecord.duplicateOf ≠ some "")
    (requested : ∀ name json, issue.rest.find? name = some json → name ∈ requestedNames) :
    decodeValue Record.decode issue.toRecord.toJson.sorted = .ok issue.toRecord := by
  rw [decodeValue_eq_ok_iff]
  refine Record.Writable.decode_toJson ((writable_toRecord_iff ok).mpr ⟨link, ?_⟩)
  intro name isName
  refine Option.eq_none_iff_forall_ne_some.mpr fun json kept => ?_
  exact (rest_of_decode ok kept).1 (known_of_requested name isName (requested name json kept))

end FoundIssue

/-! ## Found issues -/

/-- A closed duplicate as Jira describes it. -/
def closedDuplicate : Json :=
  .object
    [("key", .text "SAT-1"),
      ("fields", .object
        [("status", .object [("name", .text "Closed")]), ("resolution", .null),
          ("issuelinks", .list
            [.object
              [("type", .object [("name", .text "Duplicate")]),
                ("outwardIssue", .object [("key", .text "SAT-2")])]]),
          ("summary", .text "Sync hangs")])]

theorem found_issue_reads_back_iff_closedDuplicate :
    ∃ issue, FoundIssue.decode (Tree.ofJson closedDuplicate) = .ok issue ∧
      issue.toRecord.duplicateOf = some "SAT-2" ∧
        decodeValue Record.decode issue.toRecord.toJson.sorted = .ok issue.toRecord := by
  obtain ⟨issue, decoded, link, nothingHidden⟩ :
      ∃ issue, FoundIssue.decode (Tree.ofJson closedDuplicate) = .ok issue ∧
        issue.toRecord.duplicateOf = some "SAT-2" ∧
          ∀ name ∈ RecordField.names, (issue.rest.find? name).isNone = true :=
    ⟨_, rfl, rfl, by decide +kernel⟩
  refine ⟨issue, decoded, link, (FoundIssue.found_issue_reads_back_iff decoded).mpr ⟨?_, ?_⟩⟩
  · rw [link]
    decide
  · exact fun name isName => Option.isNone_iff_eq_none.mp (nothingHidden name isName)

/-- An issue with a field that has the name of one of a record's own. -/
def numberedIssue : Json :=
  .object [("key", .text "SAT-1"), ("fields", .object [("id", .text "10001")])]

/-- An issue that duplicates one with a blank key. -/
def blankDuplicate : Json :=
  .object
    [("key", .text "SAT-1"),
      ("fields", .object
        [("issuelinks", .list
          [.object
            [("type", .object [("name", .text "Duplicate")]),
              ("outwardIssue", .object [("key", .text "")])]])])]

/-- A record takes its id from a field that was kept, and loses a blank link. -/
theorem found_issues_read_back_otherwise :
    let found (json : Json) : Option Record :=
      (FoundIssue.decode (Tree.ofJson json)).toOption.map FoundIssue.toRecord
    let readBack (json : Json) : Option Record :=
      (found json).bind fun record => (decodeValue Record.decode record.toJson.sorted).toOption
    (found numberedIssue).map Record.id = some "SAT-1" ∧
      (readBack numberedIssue).map Record.id = some "10001" ∧
      (found blankDuplicate).map Record.duplicateOf = some (some "") ∧
      (readBack blankDuplicate).map Record.duplicateOf = some none := by
  decide +kernel

end TestGate.Jira
