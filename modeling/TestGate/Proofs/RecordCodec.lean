import TestGate.Issue.Codec
import TestGate.Proofs.ValueTrees

/-!
Records in JSON. A record that was read can be written and read back: it has no blank link, and the
fields that it does not know are none that it knows. Main statements: every record that was read is
writable, and a writable record reads back as it was.
-/

namespace TestGate.Issue

open Json

/-! ## Members that may be left out -/

theorem lookup_listMember
    (name : String) (items : List Json) (key : String) :
    (listMember name items).lookup key =
      if key = name ∧ items ≠ [] then some (.list items) else none := by
  cases items with
  | nil => simp [listMember]
  | cons item rest => simp [listMember, lookup_cons_eq_ite]

theorem lookup_optionMember
    {α : Type} (name : String) (encode : α → Json) (value : Option α) (key : String) :
    (optionMember name encode value).lookup key =
      if key = name then value.map encode else none := by
  cases value with
  | none => simp [optionMember]
  | some value => simp [optionMember, lookup_cons_eq_ite]

theorem keys_listMember
    (name : String) (items : List Json) :
    ((listMember name items).map Prod.fst).Sublist [name] := by
  cases items with
  | nil => exact List.nil_sublist [name]
  | cons item rest => exact List.Sublist.refl [name]

theorem keys_optionMember
    {α : Type} (name : String) (encode : α → Json) (value : Option α) :
    ((optionMember name encode value).map Prod.fst).Sublist [name] := by
  cases value with
  | none => exact List.nil_sublist [name]
  | some value => exact List.Sublist.refl [name]

theorem read_unlessEmpty
    {α : Type} (items : List α) {whole json : Json} {field : RecordField}
    {read : Tree → Except Error (Option RecordField)}
    (found : (if items.isEmpty then none else some whole) = some json)
    (readBack : read (Tree.ofJson whole.sorted) = .ok (some field)) :
    read (Tree.ofJson json.sorted) = .ok (if items.isEmpty then none else some field) := by
  obtain ⟨nonempty, same⟩ := Option.ite_none_left_eq_some.mp found
  rw [if_neg nonempty, ← Option.some.inj same]
  exact readBack

theorem read_optional
    {α : Type} {value : Option α} {encode : α → Json} {json : Json} {field : α → RecordField}
    {read : Tree → Except Error (Option RecordField)}
    (found : value.map encode = some json)
    (readBack : ∀ inner, value = some inner →
      read (Tree.ofJson (encode inner).sorted) = .ok (some (field inner))) :
    read (Tree.ofJson json.sorted) = .ok (value.map field) := by
  obtain ⟨inner, isInner, same⟩ := Option.map_eq_some_iff.mp found
  rw [isInner, Option.map_some, ← same]
  exact readBack inner isInner

/-! ## Flags and ids -/

theorem Flag.decode_toJson
    (flag : Flag) :
    Flag.decode (Tree.ofJson flag.toJson.sorted) = .ok flag := by
  let members : List (String × Json) := [("name", .text flag.name), ("status", .text flag.status)]
  let value (name : String) : Option String :=
    if name = "name" then some flag.name else if name = "status" then some flag.status else none
  have distinctNames : (members.map Prod.fst).Nodup := by
    simp [members]
  have missing : ∀ name, members.lookup name = none → value name = none := by
    intro name absent
    simp only [members, value, lookup_cons_eq_ite] at absent ⊢
    split at absent
    · cases absent
    · split at absent <;> simp_all
  have reads : ∀ name json, members.lookup name = some json →
      Flag.readField name (Tree.ofJson json.sorted) = .ok (value name) := by
    intro name json found
    simp only [members, value, lookup_cons_eq_ite] at found ⊢
    split at found
    · rename_i isName
      cases found
      rw [isName]
      rfl
    · split at found
      · rename_i isStatus
        cases found
        rw [isStatus]
        rfl
      · cases found
  obtain ⟨fields, read, _, sameFields⟩ :=
    Tree.fields_sorted ["name", "status"] [] Flag.readField value distinctNames missing reads
  have hasName : fields.get? "name" = some flag.name := sameFields "name"
  have hasStatus : fields.get? "status" = some flag.status := sameFields "status"
  rw [Flag.decode, show flag.toJson = .object members from rfl, read]
  simp only [bind, Except.bind, Fields.require, hasName, hasStatus, Option.getD_some]

/-! ## The fields of a record -/

/-- The members of the form of a record under the names that it knows. -/
def Record.knownMembers (record : Record) : List (String × Json) :=
  [("id", .text record.id), ("status", .text record.status),
    ("resolution", .text record.resolution)]
  ++ listMember "fixVersions" (record.fixVersions.map .text)
  ++ optionMember "target_milestone" .text record.targetMilestone
  ++ listMember "flags" (record.flags.map Flag.toJson)
  ++ optionMember "dupe_of" .text record.duplicateOf
  ++ [("clone_ids", Json.ofTexts record.cloneIds), ("cf_clone_of", .text record.cloneOf)]
  ++ listMember "clones" (record.clones.map Record.toJson)
  ++ optionMember "is_open" .bool record.isOpen
  ++ optionMember "is_deselected" .bool record.isDeselected
  ++ optionMember "error" .text record.error

/-- The member of the form of a record with this name. -/
def Record.member? (record : Record) (name : String) : Option Json :=
  match name with
  | "id" => some (.text record.id)
  | "status" => some (.text record.status)
  | "resolution" => some (.text record.resolution)
  | "fixVersions" =>
    if record.fixVersions.isEmpty then none else some (.list (record.fixVersions.map .text))
  | "target_milestone" => record.targetMilestone.map .text
  | "flags" => if record.flags.isEmpty then none else some (.list (record.flags.map Flag.toJson))
  | "dupe_of" => record.duplicateOf.map .text
  | "clone_ids" => some (.list (record.cloneIds.map .text))
  | "cf_clone_of" => some (.text record.cloneOf)
  | "clones" =>
    if record.clones.isEmpty then none else some (.list (record.clones.map Record.toJson))
  | "is_open" => record.isOpen.map .bool
  | "is_deselected" => record.isDeselected.map .bool
  | "error" => record.error.map .text
  | name => record.extra.find? name

/-- The field that the member with this name is read as. -/
def Record.field? (record : Record) (name : String) : Option RecordField :=
  match name with
  | "id" => some (.text record.id)
  | "status" => some (.text record.status)
  | "resolution" => some (.text record.resolution)
  | "fixVersions" =>
    if record.fixVersions.isEmpty then none else some (.texts record.fixVersions)
  | "target_milestone" => record.targetMilestone.map fun value => .maybe (some value)
  | "flags" => if record.flags.isEmpty then none else some (.flags record.flags)
  | "dupe_of" => record.duplicateOf.map fun value => .maybe (some value)
  | "clone_ids" => some (.texts record.cloneIds)
  | "cf_clone_of" => some (.text record.cloneOf)
  | "clones" => if record.clones.isEmpty then none else some (.records record.clones)
  | "is_open" => record.isOpen.map fun value => .verdict (some value)
  | "is_deselected" => record.isDeselected.map fun value => .verdict (some value)
  | "error" => record.error.map fun value => .maybe (some value)
  | name => (record.extra.find? name).map .extra

theorem RecordField.read_of_unknown
    (decodeRecord : Decoder Record) {name : String} (tree : Tree)
    (unknown : name ∉ RecordField.names) :
    RecordField.read decodeRecord name tree = some <$> (RecordField.extra <$> tree.toJson) := by
  unfold RecordField.read
  split <;> first | rfl | exact absurd (by decide) unknown

theorem Record.decodeWithin_object
    (fuel : Nat) (members : Members) :
    Record.decodeWithin (fuel + 1) (.object members) =
      Record.ofFields <$>
        members.fields RecordField.names (RecordField.read (Record.decodeWithin fuel)) [] := by
  rw [Record.decodeWithin]
  rfl

theorem Record.listToJson_eq_map
    (records : List Record) :
    Record.listToJson records = records.map Record.toJson := by
  induction records with
  | nil => rfl
  | cons record rest inductionHypothesis =>
    rw [Record.listToJson, inductionHypothesis, List.map_cons]

theorem Record.toJson_eq
    (record : Record) :
    record.toJson = .object (record.knownMembers ++ record.extra.entries) := by
  cases record
  simp only [Record.toJson, Record.knownMembers, Record.listToJson_eq_map]

theorem Record.keys_knownMembers
    (record : Record) :
    (record.knownMembers.map Prod.fst).Sublist RecordField.names := by
  have parts := ((((((((List.Sublist.refl ["id", "status", "resolution"]).append
    (keys_listMember "fixVersions" (record.fixVersions.map .text))).append
    (keys_optionMember "target_milestone" Json.text record.targetMilestone)).append
    (keys_listMember "flags" (record.flags.map Flag.toJson))).append
    (keys_optionMember "dupe_of" Json.text record.duplicateOf)).append
    (List.Sublist.refl ["clone_ids", "cf_clone_of"])).append
    (keys_listMember "clones" (record.clones.map Record.toJson))).append
    (keys_optionMember "is_open" Json.bool record.isOpen)).append
    (keys_optionMember "is_deselected" Json.bool record.isDeselected) |>.append
    (keys_optionMember "error" Json.text record.error)
  simpa [Record.knownMembers, RecordField.names] using parts

theorem Record.member?_of_unknown
    (record : Record) {name : String}
    (unknown : name ∉ RecordField.names) :
    record.member? name = record.extra.find? name := by
  unfold Record.member?
  split <;> first | rfl | exact absurd (by decide) unknown

theorem Record.field?_of_unknown
    (record : Record) {name : String}
    (unknown : name ∉ RecordField.names) :
    record.field? name = (record.extra.find? name).map .extra := by
  unfold Record.field?
  split <;> first | rfl | exact absurd (by decide) unknown

theorem Record.lookup_knownMembers
    (record : Record) {name : String}
    (known : name ∈ RecordField.names) :
    record.knownMembers.lookup name = record.member? name := by
  simp only [RecordField.names, List.mem_cons, List.not_mem_nil, or_false] at known
  rcases known with rfl | rfl | rfl | rfl | rfl | rfl | rfl | rfl | rfl | rfl | rfl | rfl | rfl
  all_goals
    simp [Record.knownMembers, Record.member?, List.lookup_append, lookup_listMember,
      lookup_optionMember, lookup_cons_eq_ite, Json.ofTexts]

namespace RecordField

theorem textsOf_some
    (values : List String) :
    textsOf (some (.texts values)) = values := rfl

theorem textsOf_of_list
    (values : List String) :
    textsOf (if values.isEmpty then none else some (.texts values)) = values := by
  cases values <;> rfl

theorem flagsOf_of_list
    (values : List Flag) :
    flagsOf (if values.isEmpty then none else some (.flags values)) = values := by
  cases values <;> rfl

theorem recordsOf_of_list
    (values : List Record) :
    recordsOf (if values.isEmpty then none else some (.records values)) = values := by
  cases values <;> rfl

theorem maybeOf_of_option
    (value : Option String) :
    maybeOf (value.map fun value => .maybe (some value)) = value := by
  cases value <;> rfl

theorem verdictOf_of_option
    (value : Option Bool) :
    verdictOf (value.map fun value => .verdict (some value)) = value := by
  cases value <;> rfl

end RecordField

/-! ## Writable records -/

/-- Whether a record can be written and read back: its link is not blank, its extra fields are none
that it knows, and all this holds of its clones. -/
inductive Record.Writable : Record → Prop where
  | intro {record : Record}
      (link : record.duplicateOf ≠ some "")
      (extra : ∀ name json, record.extra.find? name = some json →
        name ∉ RecordField.names ∧ json.IsCanonical)
      (clones : ∀ clone ∈ record.clones, Record.Writable clone) :
      Record.Writable record

namespace Record.Writable

variable {record : Record}

theorem link
    (writable : record.Writable) :
    record.duplicateOf ≠ some "" := by
  cases writable
  assumption

theorem extra
    {name : String} {json : Json}
    (writable : record.Writable) (found : record.extra.find? name = some json) :
    name ∉ RecordField.names ∧ json.IsCanonical := by
  cases writable with
  | intro _ extra _ => exact extra name json found

theorem clones
    {clone : Record}
    (writable : record.Writable) (member : clone ∈ record.clones) :
    clone.Writable := by
  cases writable with
  | intro _ _ clones => exact clones clone member

theorem keys_nodup
    (writable : record.Writable) :
    ((record.knownMembers ++ record.extra.entries).map Prod.fst).Nodup := by
  rw [List.map_append, List.nodup_append]
  have namesDistinct : RecordField.names.Nodup := by decide
  refine ⟨record.keys_knownMembers.nodup namesDistinct, record.extra.keys_nodup, ?_⟩
  rintro name inKnown other inExtra rfl
  obtain ⟨⟨_, json⟩, member, rfl⟩ := List.mem_map.mp inExtra
  have found := (SortedMap.find?_eq_some_iff _ _ _).mpr member
  exact (writable.extra found).1 (record.keys_knownMembers.subset inKnown)

theorem lookup_members
    (writable : record.Writable) (name : String) :
    (record.knownMembers ++ record.extra.entries).lookup name = record.member? name := by
  have inExtra : record.extra.entries.lookup name = record.extra.find? name := by
    apply Option.ext
    intro json
    rw [lookup_eq_some_iff_mem record.extra.keys_nodup, SortedMap.find?_eq_some_iff]
  rw [List.lookup_append, inExtra]
  by_cases known : name ∈ RecordField.names
  · have absent : record.extra.find? name = none := by
      cases found : record.extra.find? name with
      | none => rfl
      | some json => exact absurd known (writable.extra found).1
    rw [absent, Option.or_none, lookup_knownMembers record known]
  · have absent : record.knownMembers.lookup name = none := by
      rw [List.lookup_eq_none_iff]
      intro member inKnown
      refine bne_iff_ne.mpr fun same => known ?_
      rw [same]
      exact record.keys_knownMembers.subset (List.mem_map_of_mem inKnown)
    rw [absent, Option.none_or, member?_of_unknown record known]

theorem field?_eq_none
    {name : String}
    (missing : record.member? name = none) :
    record.field? name = none := by
  unfold member? at missing
  unfold field?
  split at missing <;> simp_all

/-- Each member of the form of a record reads as its field, if the clones read back. -/
theorem read_member
    {decodeRecord : Decoder Record} {name : String} {json : Json}
    (writable : record.Writable)
    (clonesRead : ∀ clone ∈ record.clones,
      decodeRecord (Tree.ofJson clone.toJson.sorted) = .ok clone)
    (found : record.member? name = some json) :
    RecordField.read decodeRecord name (Tree.ofJson json.sorted) = .ok (record.field? name) := by
  have texts : ∀ values : List String,
      (Tree.ofJson (Json.list (values.map .text)).sorted).toList Tree.toText = .ok values :=
    fun values => Tree.toList_sorted fun _ _ => rfl
  have ids : ∀ values : List String,
      (Tree.ofJson (Json.list (values.map .text)).sorted).toList decodeId = .ok values :=
    fun values => Tree.toList_sorted fun _ _ => rfl
  have flags : (Tree.ofJson (Json.list (record.flags.map Flag.toJson)).sorted).toList Flag.decode =
      .ok record.flags :=
    Tree.toList_sorted fun flag _ => flag.decode_toJson
  have records : (Tree.ofJson (Json.list (record.clones.map toJson)).sorted).toList decodeRecord =
      .ok record.clones :=
    Tree.toList_sorted clonesRead
  by_cases known : name ∈ RecordField.names
  · simp only [RecordField.names, List.mem_cons, List.not_mem_nil, or_false] at known
    -- the cases stand in the order of the names
    rcases known with rfl | rfl | rfl | rfl | rfl | rfl | rfl | rfl | rfl | rfl | rfl | rfl | rfl
    · cases found
      rfl
    · cases found
      rfl
    · cases found
      rfl
    · refine read_unlessEmpty record.fixVersions found (Results.map_eq_ok_iff.mpr ?_)
      exact ⟨_, Results.map_eq_ok_iff.mpr ⟨_, texts record.fixVersions, rfl⟩, rfl⟩
    · exact read_optional found fun _ _ => rfl
    · refine read_unlessEmpty record.flags found (Results.map_eq_ok_iff.mpr ?_)
      exact ⟨_, Results.map_eq_ok_iff.mpr ⟨_, flags, rfl⟩, rfl⟩
    · refine read_optional found fun value isValue => ?_
      have notBlank : (value != "") = true := by
        rw [bne_iff_ne]
        rintro rfl
        exact writable.link isValue
      have kept : (some value).filter (· != "") = some value := by
        rw [Option.filter_some, if_pos notBlank]
      exact Results.map_eq_ok_iff.mpr
        ⟨_, Results.map_eq_ok_iff.mpr ⟨some value, rfl, rfl⟩, by rw [kept]⟩
    · cases found
      exact Results.map_eq_ok_iff.mpr ⟨_, Results.map_eq_ok_iff.mpr ⟨some record.cloneIds,
        Results.map_eq_ok_iff.mpr ⟨_, ids record.cloneIds, rfl⟩, rfl⟩, rfl⟩
    · cases found
      rfl
    · refine read_unlessEmpty record.clones found (Results.map_eq_ok_iff.mpr ?_)
      exact ⟨_, Results.map_eq_ok_iff.mpr ⟨_, records, rfl⟩, rfl⟩
    · exact read_optional found fun _ _ => rfl
    · exact read_optional found fun _ _ => rfl
    · exact read_optional found fun _ _ => rfl
  · rw [member?_of_unknown record known] at found
    have canonical : json.sorted = json := (writable.extra found).2
    rw [field?_of_unknown record known, found, RecordField.read_of_unknown decodeRecord _ known,
      canonical, Tree.toJson_ofJson, canonical]
    rfl

/-- The record that has the fields of a record is that record. -/
theorem ofFields_eq
    {fields : Fields RecordField}
    (writable : record.Writable)
    (distinctNames : (fields.map Prod.fst).Nodup)
    (sameFields : ∀ name, fields.get? name = record.field? name) :
    Record.ofFields fields = record := by
  have sameExtra : SortedMap.ofList (fields.reverse.filterMap RecordField.extraOf) =
      record.extra := by
    have extraDistinct :
        ((fields.reverse.filterMap RecordField.extraOf).map Prod.fst).Nodup := by
      refine nodup_keys_filterMap ?_ (by rwa [List.map_reverse, List.nodup_reverse])
      rintro ⟨name, field⟩ ⟨other, json⟩ selected
      cases field <;> cases selected
      rfl
    have mem_extra : ∀ name json,
        (name, json) ∈ fields.reverse.filterMap RecordField.extraOf ↔
          (name, RecordField.extra json) ∈ fields := by
      intro name json
      rw [List.mem_filterMap]
      constructor
      · rintro ⟨⟨other, field⟩, member, selected⟩
        cases field <;> cases selected
        exact List.mem_reverse.mp member
      · intro member
        exact ⟨_, List.mem_reverse.mpr member, rfl⟩
    apply SortedMap.ext_find?
    intro name
    apply Option.ext
    intro json
    rw [SortedMap.find?_ofList_eq_some_iff extraDistinct, mem_extra,
      ← Fields.get?_eq_some_iff distinctNames, sameFields]
    by_cases known : name ∈ RecordField.names
    · have absent : record.extra.find? name ≠ some json :=
        fun found => (writable.extra found).1 known
      refine iff_of_false (fun isExtra => ?_) absent
      simp only [RecordField.names, List.mem_cons, List.not_mem_nil, or_false] at known
      rcases known with rfl | rfl | rfl | rfl | rfl | rfl | rfl | rfl | rfl | rfl | rfl | rfl | rfl
      all_goals simp [field?] at isExtra
    · rw [field?_of_unknown record known, Option.map_eq_some_iff]
      constructor
      · rintro ⟨other, found, same⟩
        cases same
        exact found
      · exact fun found => ⟨json, found, rfl⟩
  simp only [Record.ofFields, sameFields, sameExtra]
  cases record
  simp only [field?, RecordField.textOf, RecordField.textsOf_of_list, RecordField.textsOf_some,
    RecordField.flagsOf_of_list, RecordField.recordsOf_of_list, RecordField.maybeOf_of_option,
    RecordField.verdictOf_of_option]

/-- A writable record reads back within any depth that it does not go beyond. -/
theorem decodeWithin_toJson
    {fuel : Nat}
    (writable : record.Writable) (shallow : (Tree.ofJson record.toJson.sorted).height < fuel) :
    Record.decodeWithin fuel (Tree.ofJson record.toJson.sorted) = .ok record := by
  induction fuel generalizing record with
  | zero => cases shallow
  | succ fuel inductionHypothesis =>
    have clonesRead : ∀ clone ∈ record.clones,
        Record.decodeWithin fuel (Tree.ofJson clone.toJson.sorted) = .ok clone := by
      intro clone member
      have found : (record.knownMembers ++ record.extra.entries).lookup "clones" =
          some (.list (record.clones.map toJson)) := by
        rw [writable.lookup_members]
        exact if_neg (by simpa using List.ne_nil_of_mem member)
      have inList := height_sorted_of_mem (List.mem_map_of_mem (f := toJson) member)
      have inObject := height_sorted_of_lookup writable.keys_nodup found
      rw [toJson_eq record] at shallow
      refine inductionHypothesis (writable.clones member) ?_
      omega
    obtain ⟨fields, read, distinctNames, sameFields⟩ :=
      Tree.fields_sorted RecordField.names []
        (RecordField.read (Record.decodeWithin fuel)) record.field?
        writable.keys_nodup
        (fun name missing => field?_eq_none (writable.lookup_members name ▸ missing))
        (fun name json found =>
          writable.read_member clonesRead (writable.lookup_members name ▸ found))
    have unfolded : Record.decodeWithin (fuel + 1) (Tree.ofJson record.toJson.sorted) =
        (Record.ofFields <$> (Tree.ofJson record.toJson.sorted).fields RecordField.names []
          (RecordField.read (Record.decodeWithin fuel))) := by
      rw [toJson_eq, sorted_object, Tree.ofJson, Record.decodeWithin_object]
      rfl
    rw [unfolded, toJson_eq, read]
    exact congrArg Except.ok (writable.ofFields_eq distinctNames sameFields)

/-- A writable record reads back as it was. -/
theorem decode_toJson
    (writable : record.Writable) :
    Record.decode (Tree.ofJson record.toJson.sorted) = .ok record :=
  writable.decodeWithin_toJson (Nat.lt_succ_self _)

end Record.Writable

/-! ## Records that were read -/

/-- A link that was read is not blank. -/
theorem RecordField.link_of_read
    {decodeRecord : Decoder Record} {tree : Tree} {value : Option String}
    (ok : RecordField.read decodeRecord "dupe_of" tree = .ok (some (.maybe value))) :
    value ≠ some "" := by
  obtain ⟨field, isField, same⟩ := Results.map_eq_ok_iff.mp ok
  obtain ⟨source, _, made⟩ := Results.map_eq_ok_iff.mp
    (show (fun value : Option String => RecordField.maybe (value.filter (· != ""))) <$>
      tree.optional decodeId = .ok field from isField)
  cases Option.some.inj same
  cases made
  simp [Option.filter_eq_some_iff]

theorem RecordField.extra_of_read
    {decodeRecord : Decoder Record} {tree : Tree} {name : String} {json : Json}
    (ok : RecordField.read decodeRecord name tree = .ok (some (.extra json))) :
    name ∉ RecordField.names ∧ tree.toJson = .ok json := by
  by_cases known : name ∈ RecordField.names
  · simp only [RecordField.names, List.mem_cons, List.not_mem_nil, or_false] at known
    obtain ⟨field, isField, same⟩ := Results.map_eq_ok_iff.mp ok
    cases Option.some.inj same
    rcases known with rfl | rfl | rfl | rfl | rfl | rfl | rfl | rfl | rfl | rfl | rfl | rfl | rfl
    all_goals
      obtain ⟨_, _, impossible⟩ := Results.map_eq_ok_iff.mp isField
      cases impossible
  · rw [RecordField.read_of_unknown decodeRecord tree known] at ok
    obtain ⟨field, isField, same⟩ := Results.map_eq_ok_iff.mp ok
    obtain ⟨value, isValue, made⟩ := Results.map_eq_ok_iff.mp isField
    cases Option.some.inj same
    cases made
    exact ⟨known, isValue⟩

theorem RecordField.records_of_read
    {decodeRecord : Decoder Record} {tree : Tree} {records : List Record}
    (ok : RecordField.read decodeRecord "clones" tree = .ok (some (.records records))) :
    ∃ items, tree = .list items ∧
      ∀ record ∈ records, ∃ item ∈ items.trees, decodeRecord item = .ok record := by
  obtain ⟨field, isField, same⟩ := Results.map_eq_ok_iff.mp ok
  obtain ⟨source, isSource, made⟩ := Results.map_eq_ok_iff.mp
    (show RecordField.records <$> tree.toList decodeRecord = .ok field from isField)
  cases Option.some.inj same
  cases made
  exact Tree.read_of_mem_toList isSource

/-- What is known of a record that was read from an object: its link is not blank, its extra fields
are none that it knows and stand in the object, and its clones stand in a list of the object. -/
structure Record.ComesFrom (fuel : Nat) (members : Members) (record : Record) : Prop where
  link : record.duplicateOf ≠ some ""
  extra : ∀ name json, record.extra.find? name = some json →
    name ∉ RecordField.names ∧ ∃ value ∈ members.trees, value.toJson = .ok json
  clones : ∀ clone ∈ record.clones, ∃ items, .list items ∈ members.trees ∧
    ∃ item ∈ items.trees, Record.decodeWithin fuel item = .ok clone

theorem Record.comesFrom_of_decodeWithin
    {fuel : Nat} {tree : Tree} {record : Record}
    (ok : Record.decodeWithin fuel tree = .ok record) :
    ∃ less members, fuel = less + 1 ∧ tree = .object members ∧ record.ComesFrom less members := by
  cases fuel with
  | zero => cases tree <;> cases ok
  | succ fuel =>
    cases tree with
    | object members =>
      refine ⟨fuel, members, rfl, rfl, ?_⟩
      rw [Record.decodeWithin_object] at ok
      obtain ⟨fields, read, rfl⟩ := Results.map_eq_ok_iff.mp ok
      have comesFrom : ∀ name field, (name, field) ∈ fields → ∃ tree ∈ members.trees,
          RecordField.read (Record.decodeWithin fuel) name tree = .ok (some field) := by
        intro name field member
        rcases Members.read_of_mem_fields members [] read name field member with absurdity | found
        · cases absurdity
        · exact found
      have fromGet : ∀ name field, fields.get? name = some field → ∃ tree ∈ members.trees,
          RecordField.read (Record.decodeWithin fuel) name tree = .ok (some field) :=
        fun name field found => comesFrom name field (Fields.mem_of_get? found)
      constructor
      · intro isLink
        cases found : fields.get? "dupe_of" with
        | none =>
          rw [Record.ofFields, found] at isLink
          cases isLink
        | some field =>
          obtain ⟨tree, _, read⟩ := fromGet "dupe_of" field found
          rw [Record.ofFields, found] at isLink
          cases field with
          | maybe value => exact RecordField.link_of_read read isLink
          | _ => cases isLink
      · intro name json found
        obtain ⟨⟨other, field⟩, member, selected⟩ :=
          List.mem_filterMap.mp (SortedMap.mem_of_find?_ofList found)
        cases field <;> cases selected
        obtain ⟨tree, inMembers, read⟩ := comesFrom name _ (List.mem_reverse.mp member)
        obtain ⟨unknown, isValue⟩ := RecordField.extra_of_read read
        exact ⟨unknown, tree, inMembers, isValue⟩
      · intro clone member
        cases found : fields.get? "clones" with
        | none =>
          rw [Record.ofFields, found] at member
          cases member
        | some field =>
          obtain ⟨tree, inMembers, read⟩ := fromGet "clones" field found
          rw [Record.ofFields, found] at member
          cases field with
          | records values =>
            obtain ⟨items, rfl, each⟩ := RecordField.records_of_read read
            exact ⟨items, inMembers, each clone member⟩
          | _ => cases member
    | _ => cases ok

/-- Every record that was read can be written. -/
theorem Record.writable_of_decodeWithin
    {fuel : Nat} {tree : Tree} {record : Record}
    (ok : Record.decodeWithin fuel tree = .ok record) :
    record.Writable := by
  induction fuel generalizing tree record with
  | zero =>
    obtain ⟨_, _, impossible, _⟩ := Record.comesFrom_of_decodeWithin ok
    cases impossible
  | succ fuel inductionHypothesis =>
    obtain ⟨less, members, isFuel, _, comesFrom⟩ := Record.comesFrom_of_decodeWithin ok
    cases isFuel
    refine .intro comesFrom.link (fun name json found => ?_) fun clone member => ?_
    · obtain ⟨unknown, value, _, isValue⟩ := comesFrom.extra name json found
      exact ⟨unknown, Tree.isCanonical_of_toJson value isValue⟩
    · obtain ⟨_, _, item, _, itemRead⟩ := comesFrom.clones clone member
      exact inductionHypothesis itemRead

end TestGate.Issue
