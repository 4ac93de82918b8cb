import TestGate.Cache
import TestGate.Proofs.PrintedValues
import TestGate.Proofs.RecordCodec
import TestGate.Proofs.References

/-!
Cache files in JSON. Main statement: the content that is written for an index whose references,
records and uses can be written reads back as this index.
-/

namespace TestGate

open Issue Json

/-! ## Parts of structures -/

theorem Json.Tree.optional_of_ok
    {α : Type} {decode : Decoder α} {tree : Tree} {value : α}
    (notNull : tree ≠ .null) (ok : decode tree = .ok value) :
    tree.optional decode = .ok (some value) := by
  cases tree with
  | null => exact absurd rfl notNull
  | _ => exact congrArg (Except.map some) ok

/-- A field that is written only if there is a value reads back as the value. -/
theorem Json.Fields.readOr_optional
    {α : Type} {fields : Fields Tree} {name : String} {encode : α → Json} {decode : Decoder α}
    {value : Option α}
    (found : fields.get? name = (value.map encode).map fun json => Tree.ofJson json.sorted)
    (reads : ∀ item, value = some item → Tree.ofJson (encode item).sorted ≠ .null ∧
      decode (Tree.ofJson (encode item).sorted) = .ok item) :
    fields.readOr name none (Tree.optional decode) = .ok value := by
  cases value with
  | none => exact Fields.readOr_of_missing found none _
  | some item =>
    obtain ⟨notNull, ok⟩ := reads item rfl
    rw [Fields.readOr_of_get? found, Tree.optional_of_ok notNull ok]

theorem Json.Fields.readOr_optionalText
    {fields : Fields Tree} {name : String} {value : Option String}
    (found : fields.get? name = (value.map Json.text).map fun json => Tree.ofJson json.sorted) :
    fields.readOr name none (Tree.optional Tree.toText) = .ok value :=
  Fields.readOr_optional found fun _ _ => ⟨nofun, rfl⟩

theorem Json.optional_ofOption_text
    (value : Option String) :
    Tree.optional Tree.toText (Tree.ofJson (Json.ofOption .text value).sorted) = .ok value := by
  cases value <;> rfl

/-! ## Uses -/

/-- The members of the form of a use. -/
def Issue.Usage.members (usage : Usage) : List (String × Json) :=
  [("filepath", .text usage.location.path), ("lineno", Json.ofNat usage.location.line),
    ("testcase", .text usage.location.name),
    ("component", Json.ofOption .text usage.component)]
  ++ optionMember "importance" .text usage.importance
  ++ optionMember "component_mark" .text usage.componentMark
  ++ [("usage", .text usage.kind)]

theorem Issue.Usage.keys_members
    (usage : Usage) :
    (usage.members.map Prod.fst).Nodup := by
  have parts := (((List.Sublist.refl ["filepath", "lineno", "testcase", "component"]).append
    (keys_optionMember "importance" Json.text usage.importance)).append
    (keys_optionMember "component_mark" Json.text usage.componentMark)).append
    (List.Sublist.refl ["usage"])
  have sublist : (usage.members.map Prod.fst).Sublist ["filepath", "lineno", "testcase",
      "component", "importance", "component_mark", "usage"] := by
    simpa [members] using parts
  exact sublist.nodup (by decide)

/-- A use at a line that is not too large reads back as it was. -/
theorem Issue.Usage.decode_toJson
    {usage : Usage}
    (bounded : usage.location.line ≤ Location.largestLine) :
    Usage.decode (Tree.ofJson usage.toJson.sorted) = .ok usage := by
  obtain ⟨fields, read, sameFields⟩ := Tree.structure_sorted
    ["filepath", "lineno", "testcase", "component", "importance", "component_mark", "usage"] []
    usage.keys_members
  obtain ⟨path, line, name, component, importance, componentMark, kind⟩ :
      fields.get? "filepath" = some (Tree.ofJson (Json.text usage.location.path).sorted) ∧
        fields.get? "lineno" = some (Tree.ofJson (Json.ofNat usage.location.line).sorted) ∧
        fields.get? "testcase" = some (Tree.ofJson (Json.text usage.location.name).sorted) ∧
        fields.get? "component" =
          some (Tree.ofJson (Json.ofOption .text usage.component).sorted) ∧
        fields.get? "importance" =
          (usage.importance.map Json.text).map (fun json => Tree.ofJson json.sorted) ∧
        fields.get? "component_mark" =
          (usage.componentMark.map Json.text).map (fun json => Tree.ofJson json.sorted) ∧
        fields.get? "usage" = some (Tree.ofJson (Json.text usage.kind).sorted) := by
    simpa [members, List.lookup_append, lookup_optionMember, lookup_cons_eq_ite] using sameFields
  have lineRead : Tree.toNat Location.largestLine
      (Tree.ofJson (Json.ofNat usage.location.line).sorted) = .ok usage.location.line :=
    if_pos ⟨Int.natCast_nonneg _, Int.ofNat_le.mpr bounded⟩
  rw [Usage.decode, show usage.toJson = .object usage.members from rfl, read]
  simp only [bind, Except.bind, Fields.read_of_get? path, Fields.read_of_get? line, lineRead,
    Fields.read_of_get? name, Fields.readOr_of_get? component, optional_ofOption_text,
    Fields.readOr_optionalText importance, Fields.readOr_optionalText componentMark,
    Fields.read_of_get? kind]
  rfl

/-! ## Entries -/

/-- Whether an entry can be written and read back. -/
structure Issue.Entry.Writable (entry : Entry) : Prop where
  data : ∀ record, entry.data = some record → record.Writable
  usedIn : ∀ usage ∈ entry.usedIn, usage.location.line ≤ Location.largestLine

/-- The members of the form of an entry. -/
def Issue.Entry.members (entry : Entry) : List (String × Json) :=
  optionMember "data" Record.toJson entry.data
  ++ [("used_in", .list (entry.usedIn.map Usage.toJson))]
  ++ (if entry.isDuplicateTarget then [("is_dupe", .bool true)] else [])

theorem Issue.Entry.keys_members
    (entry : Entry) :
    (entry.members.map Prod.fst).Nodup := by
  obtain ⟨data, usedIn, isDuplicateTarget⟩ := entry
  cases data <;> cases isDuplicateTarget <;> simp [members, optionMember]

theorem Issue.Record.ofJson_toJson_ne_null
    (record : Record) :
    Tree.ofJson record.toJson.sorted ≠ .null := by
  rw [record.toJson_eq, sorted_object]
  nofun

theorem Issue.Entry.decode_toJson
    {entry : Entry}
    (writable : entry.Writable) :
    Entry.decode (Tree.ofJson entry.toJson.sorted) = .ok entry := by
  obtain ⟨fields, read, sameFields⟩ := Tree.structure_sorted
    ["data", "used_in", "is_dupe"] [] entry.keys_members
  obtain ⟨data, usedIn, isDuplicate⟩ :
      fields.get? "data" =
          (entry.data.map Record.toJson).map (fun json => Tree.ofJson json.sorted) ∧
        fields.get? "used_in" =
          some (Tree.ofJson (Json.list (entry.usedIn.map Usage.toJson)).sorted) ∧
        fields.get? "is_dupe" =
          if entry.isDuplicateTarget then some (Tree.bool true) else none := by
    cases isTarget : entry.isDuplicateTarget <;>
      simpa [members, isTarget, List.lookup_append, lookup_optionMember, lookup_cons_eq_ite,
        sorted, Tree.ofJson] using sameFields
  have usagesRead : (Tree.ofJson (Json.list (entry.usedIn.map Usage.toJson)).sorted).toList
      Usage.decode = .ok entry.usedIn :=
    Tree.toList_sorted fun usage member => Usage.decode_toJson (writable.usedIn usage member)
  have duplicateRead : fields.readOr "is_dupe" false Tree.toBool = .ok entry.isDuplicateTarget := by
    cases isTarget : entry.isDuplicateTarget with
    | true =>
      rw [isTarget] at isDuplicate
      exact Fields.readOr_of_get? isDuplicate false Tree.toBool
    | false =>
      rw [isTarget] at isDuplicate
      exact Fields.readOr_of_missing isDuplicate false Tree.toBool
  have dataRead : fields.readOr "data" none (Tree.optional Record.decode) = .ok entry.data :=
    Fields.readOr_optional data fun record isData =>
      ⟨record.ofJson_toJson_ne_null, (writable.data record isData).decode_toJson⟩
  rw [Entry.decode, show entry.toJson = .object entry.members from rfl, read]
  simp only [bind, Except.bind, dataRead, Fields.readOr_of_get? usedIn, usagesRead, duplicateRead]

/-! ## The index -/

/-- Whether all of an index can be written and read back. -/
def Issue.Index.Writable (index : Index) : Prop :=
  ∀ issue entry, index.find? issue = some entry → issue.IsProper ∧ entry.Writable

/-- Members that stand for the entries of a writable index, in any order, read as this index. -/
theorem Issue.Index.Writable.decode
    {index : Index} {members : List (String × Json)}
    (writable : index.Writable)
    (sameMembers : ∀ name json, (name, json) ∈ members ↔
      ∃ issue entry, index.find? issue = some entry ∧
        name = issue.toText ∧ json = entry.toJson.sorted) :
    Index.decode (Tree.ofJson (.object members)) = .ok index := by
  let read (member : String × Json) : Except Json.Error (Reference × Entry) := do
    let issue ← Reference.ofText member.1
    let entry ← Entry.decode (Tree.ofJson member.2)
    .ok (issue, entry)
  have reads : ∀ issue entry, index.find? issue = some entry →
      read (issue.toText, entry.toJson.sorted) = .ok (issue, entry) := by
    intro issue entry found
    obtain ⟨proper, entryWritable⟩ := writable issue entry found
    have issueRead : Reference.ofText issue.toText = .ok issue := by
      rw [Reference.ofText, Reference.parse?_toText proper]
    simp only [read, issueRead, bind, Except.bind, Entry.decode_toJson entryWritable]
  obtain ⟨pairs, pairsRead⟩ : ∃ pairs, members.mapM read = .ok pairs := by
    refine Results.exists_mapM_eq_ok ?_
    rintro ⟨name, json⟩ member
    obtain ⟨issue, entry, found, rfl, rfl⟩ := (sameMembers name json).mp member
    exact ⟨(issue, entry), reads issue entry found⟩
  -- nothing is lost and nothing added, so the order of the members does not count
  have mem_pairs : ∀ issue entry, (issue, entry) ∈ pairs ↔ index.find? issue = some entry := by
    intro issue entry
    constructor
    · intro member
      obtain ⟨⟨name, json⟩, inMembers, isRead⟩ := Results.mem_of_mapM_eq_ok pairsRead member
      obtain ⟨other, otherEntry, found, rfl, rfl⟩ := (sameMembers name json).mp inMembers
      rw [reads other otherEntry found] at isRead
      cases isRead
      exact found
    · intro found
      obtain ⟨pair, member, isRead⟩ := Results.ok_of_mapM_eq_ok pairsRead
        ((sameMembers _ _).mpr ⟨issue, entry, found, rfl, rfl⟩)
      rw [reads issue entry found] at isRead
      cases isRead
      exact member
  rw [Index.decode, Tree.toPairs_ofJson, show (members.mapM fun member => do
    let issue ← Reference.ofText member.1
    let entry ← Entry.decode (Tree.ofJson member.2)
    .ok (issue, entry)) = members.mapM read from rfl, pairsRead]
  exact congrArg Except.ok (SortedMap.ofList_eq_of_mem_iff mem_pairs)

namespace Cache

/-! ## The note on the run -/

/-- What is read of the note on a run; only its instant may be lost. -/
theorem RunMeta.decode_toJson
    (runMeta : RunMeta) :
    RunMeta.decode (Tree.ofJson runMeta.toJson.sorted) =
      match Timestamp.parse? runMeta.created.toText with
      | some created => .ok { runMeta with created := created }
      | none => .error .shape := by
  let members : List (String × Json) := [("version", .text runMeta.version),
    ("hostname", Json.ofOption .text runMeta.hostname),
    ("created", .text runMeta.created.toText), ("run_id", .text runMeta.runId),
    ("args", Json.ofTexts runMeta.args), ("pwd", .text runMeta.workingDirectory)]
  have distinctNames : (members.map Prod.fst).Nodup := by
    simp [members]
  obtain ⟨fields, read, sameFields⟩ := Tree.structure_sorted
    ["version", "hostname", "created", "run_id", "args", "pwd"] [] distinctNames
  obtain ⟨version, hostname, created, runId, args, workingDirectory⟩ :
      fields.get? "version" = some (Tree.ofJson (Json.text runMeta.version).sorted) ∧
        fields.get? "hostname" =
          some (Tree.ofJson (Json.ofOption .text runMeta.hostname).sorted) ∧
        fields.get? "created" = some (Tree.ofJson (Json.text runMeta.created.toText).sorted) ∧
        fields.get? "run_id" = some (Tree.ofJson (Json.text runMeta.runId).sorted) ∧
        fields.get? "args" =
          some (Tree.ofJson (Json.list (runMeta.args.map Json.text)).sorted) ∧
        fields.get? "pwd" = some (Tree.ofJson (Json.text runMeta.workingDirectory).sorted) := by
    simpa [members, lookup_cons_eq_ite, Json.ofTexts] using sameFields
  have argsRead : (Tree.ofJson (Json.list (runMeta.args.map Json.text)).sorted).toList
      Tree.toText = .ok runMeta.args :=
    Tree.toList_sorted fun _ _ => rfl
  have createdRead : decodeTimestamp (Tree.ofJson (Json.text runMeta.created.toText).sorted) =
      match Timestamp.parse? runMeta.created.toText with
      | some created => .ok created
      | none => .error .shape := by
    rw [decodeTimestamp, Json.sorted, Tree.ofJson, Tree.toText]
    cases parsed : Timestamp.parse? runMeta.created.toText <;>
      simp only [bind, Except.bind, parsed]
  rw [RunMeta.decode, show runMeta.toJson = .object members from rfl, read]
  simp only [bind, Except.bind, Fields.read_of_get? version, Fields.readOr_of_get? hostname,
    optional_ofOption_text, Fields.read_of_get? created, createdRead]
  generalize Timestamp.parse? runMeta.created.toText = parsed
  cases parsed with
  | none => rfl
  | some created =>
    simp only [Fields.read_of_get? runId, Fields.readOr_of_get? args, argsRead,
      Fields.readOr_of_get? workingDirectory]
    rfl

/-- The note that is read from a cache file, if its instant reads back. -/
def RunMeta.readBack? (runMeta : RunMeta) : Option RunMeta :=
  (Timestamp.parse? runMeta.created.toText).map fun created => { runMeta with created := created }

theorem RunMeta.decodeValue_toJson
    (runMeta : RunMeta) :
    (decodeValue RunMeta.decode runMeta.toJson.sorted).toOption = runMeta.readBack? := by
  rw [decodeValue, decode_toJson, readBack?]
  generalize Timestamp.parse? runMeta.created.toText = parsed
  cases parsed <;> rfl

/-! ## Cache files -/

/-- The pairs that are written for an index and a note. -/
def contentOf (index : Index) (runMeta : RunMeta) : List (String × Json) :=
  (index.entries.map fun (issue, entry) => (issue.toText, entry.toJson.sorted))
    ++ [(metaKey, runMeta.toJson.sorted)]

theorem toText_ne_metaKey
    (issue : Reference) :
    issue.toText ≠ metaKey := by
  intro same
  rcases issue.head_toText with isB | isJ
  · rw [same] at isB
    revert isB
    decide
  · rw [same] at isJ
    revert isJ
    decide

theorem keys_contentOf
    {index : Index}
    (writable : index.Writable) (runMeta : RunMeta) :
    ((contentOf index runMeta).map Prod.fst).Nodup := by
  rw [contentOf, List.map_append, List.map_map, List.nodup_append]
  refine ⟨?_, by simp, ?_⟩
  · refine List.Nodup.map_on ?_ (List.Nodup.of_map _ index.keys_nodup)
    rintro ⟨issue, entry⟩ member ⟨other, otherEntry⟩ otherMember sameText
    have found := (SortedMap.find?_eq_some_iff _ _ _).mpr member
    have otherFound := (SortedMap.find?_eq_some_iff _ _ _).mpr otherMember
    have parsed := Reference.parse?_toText (writable issue entry found).1
    have otherParsed := Reference.parse?_toText (writable other otherEntry otherFound).1
    have sameIssue : issue = other := by
      rw [show issue.toText = other.toText from sameText, otherParsed] at parsed
      exact (Option.some.inj parsed).symm
    subst sameIssue
    rw [found] at otherFound
    rw [Option.some.inj otherFound]
  · rintro name inIndex other isMeta rfl
    obtain ⟨⟨issue, entry⟩, _, rfl⟩ := List.mem_map.mp inIndex
    exact toText_ne_metaKey issue (List.mem_singleton.mp isMeta)

/-- The content written for a writable index reads back as this index. -/
theorem ofMembers_contentOf
    {index : Index}
    (writable : index.Writable) (runMeta : RunMeta) :
    ofMembers (SortedMap.ofList (contentOf index runMeta)).entries =
      .ok ⟨index, runMeta.readBack?⟩ := by
  have distinctKeys := keys_contentOf writable runMeta
  let members := (SortedMap.ofList (contentOf index runMeta)).entries
  have mem_members : ∀ name json,
      (name, json) ∈ members ↔ (name, json) ∈ contentOf index runMeta := by
    intro name json
    rw [← SortedMap.find?_eq_some_iff, SortedMap.find?_ofList_eq_some_iff distinctKeys]
  have metaFound : members.lookup metaKey = some runMeta.toJson.sorted := by
    rw [lookup_eq_some_iff_mem (SortedMap.keys_nodup _), mem_members]
    exact List.mem_append_right _ List.mem_cons_self
  have issueMembers : ∀ name json,
      (name, json) ∈ (members.filter fun member => member.1 != metaKey) ↔
        ∃ issue entry, index.find? issue = some entry ∧
          name = issue.toText ∧ json = entry.toJson.sorted := by
    intro name json
    rw [List.mem_filter, mem_members, contentOf, List.mem_append, List.mem_map, bne_iff_ne]
    constructor
    · rintro ⟨⟨⟨issue, entry⟩, member, same⟩ | isMeta, notMeta⟩
      · cases same
        exact ⟨issue, entry, (SortedMap.find?_eq_some_iff _ _ _).mpr member, rfl, rfl⟩
      · cases List.mem_singleton.mp isMeta
        exact absurd rfl notMeta
    · rintro ⟨issue, entry, found, rfl, rfl⟩
      exact ⟨Or.inl ⟨(issue, entry), (SortedMap.find?_eq_some_iff _ _ _).mp found, rfl⟩,
        toText_ne_metaKey issue⟩
  have indexRead : decodeValue Index.decode
      (.object (members.filter fun member => member.1 != metaKey)) = .ok index := by
    rw [decodeValue, writable.decode issueMembers]
  have metaRead : ((members.lookup metaKey).bind fun json =>
      (decodeValue RunMeta.decode json).toOption) = runMeta.readBack? := by
    rw [metaFound, Option.bind_some, RunMeta.decodeValue_toJson]
  change ofMembers members = _
  rw [ofMembers, indexRead, metaRead]
  rfl

/-- A text that holds an object is a cache file if its members are. -/
theorem parse_of_object
    {text : String} {members : List (String × Json)}
    (parsed : Json.parse text = .ok (.object members)) :
    parse text = ofMembers members := by
  obtain ⟨value, isValue, checked⟩ := Results.bind_eq_ok_iff.mp parsed
  split at checked
  · cases checked
  · rename_i noTrail
    cases checked
    rw [parse, decodeText]
    simp only [bind, Except.bind]
    revert isValue
    cases (Document.ofText text).tree with
    | object inner =>
      intro isValue
      simp only [isValue, if_neg noTrail, membersOf]
    | list items =>
      intro isValue
      obtain ⟨_, _, impossible⟩ := Results.map_eq_ok_iff.mp isValue
      cases impossible
    | _ => nofun

/-- Whether the text of a cache file is read as the value that was written. -/
def ReadsBack (index : Index) (runMeta : RunMeta) : Prop :=
  Json.parse (render index runMeta) = .ok (toJson index runMeta)

/-- Whether a text reads back can be found out from its characters. -/
theorem readsBack_iff
    (index : Index) (runMeta : RunMeta) :
    ReadsBack index runMeta ↔
      parseChars (charsAt (.lines 4) 0 (toJson index runMeta) ++ ['\n']) =
        .ok (toJson index runMeta) := by
  have characters : (render index runMeta).toList =
      charsAt (.lines 4) 0 (toJson index runMeta) ++ ['\n'] := by
    rw [render, Json.render, String.toList_append, toList_renderAt]
    rfl
  rw [ReadsBack, parse_eq_parseChars, characters]

instance (index : Index) (runMeta : RunMeta) : Decidable (ReadsBack index runMeta) :=
  decidable_of_iff _ (readsBack_iff index runMeta).symm

/-- A cache file for a writable index reads back if its text does. -/
theorem parse_render
    {index : Index} {runMeta : RunMeta}
    (writable : index.Writable) (readsBack : ReadsBack index runMeta) :
    parse (render index runMeta) = .ok ⟨index, runMeta.readBack?⟩ :=
  (parse_of_object readsBack).trans (ofMembers_contentOf writable runMeta)

end Cache

end TestGate
