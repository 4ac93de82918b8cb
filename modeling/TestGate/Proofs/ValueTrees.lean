import TestGate.Json.Decode
import TestGate.Proofs.Results
import TestGate.Proofs.SortedMap

/-!
Reading from the trees of values. A tree reads back as its value in canonical order, and whatever is
read from a tree is in canonical order. Main statement: the fields of an object in canonical order
are what reading the members gives, whatever their order was.
-/

namespace TestGate

theorem lookup_cons_eq_ite
    {κ ν : Type} [DecidableEq κ] (key other : κ) (value : ν) (pairs : List (κ × ν)) :
    ((other, value) :: pairs).lookup key =
      if key = other then some value else pairs.lookup key := by
  rw [List.lookup_cons]
  by_cases same : key = other
  · rw [if_pos same, beq_iff_eq.mpr same]
  · rw [if_neg same, beq_eq_false_iff_ne.mpr same]

/-- In a list in which no key repeats, a look-up finds every pair. -/
theorem lookup_eq_some_iff_mem
    {κ ν : Type} [DecidableEq κ] {pairs : List (κ × ν)}
    (distinctKeys : (pairs.map Prod.fst).Nodup) (key : κ) (value : ν) :
    pairs.lookup key = some value ↔ (key, value) ∈ pairs := by
  induction pairs with
  | nil => simp
  | cons pair rest inductionHypothesis =>
    obtain ⟨other, found⟩ := pair
    obtain ⟨absent, restDistinct⟩ := List.nodup_cons.mp distinctKeys
    rw [lookup_cons_eq_ite, List.mem_cons]
    by_cases same : key = other
    · subst same
      have notInRest : (key, value) ∉ rest := fun member =>
        absent (List.mem_map.mpr ⟨(key, value), member, rfl⟩)
      simp [notInRest, eq_comm]
    · simp [same, inductionHypothesis restDistinct]

/-- Where no key repeats, none does after a selection of pairs that keeps their keys. -/
theorem nodup_keys_filterMap
    {κ ν μ : Type} {select : κ × ν → Option (κ × μ)} {pairs : List (κ × ν)}
    (sameKey : ∀ pair result, select pair = some result → result.1 = pair.1)
    (distinctKeys : (pairs.map Prod.fst).Nodup) :
    ((pairs.filterMap select).map Prod.fst).Nodup := by
  rw [List.Nodup, List.pairwise_map] at distinctKeys ⊢
  refine List.Pairwise.filterMap select ?_ distinctKeys
  intro first second different firstResult firstSelected secondResult secondSelected
  rwa [sameKey first firstResult firstSelected, sameKey second secondResult secondSelected]

namespace Json

/-! ## Equality -/

mutual

/-- Decides whether two values are equal. -/
def decideEq : (left right : Json) → Decidable (left = right)
  | .list items, .list others =>
    match decideEqItems items others with
    | isTrue same => isTrue (by rw [same])
    | isFalse different => isFalse fun same => different (Json.list.inj same)
  | .object members, .object others =>
    match decideEqMembers members others with
    | isTrue same => isTrue (by rw [same])
    | isFalse different => isFalse fun same => different (Json.object.inj same)
  | .bool value, .bool other => decidable_of_iff (value = other) (by rw [Json.bool.injEq])
  | .number value, .number other => decidable_of_iff (value = other) (by rw [Json.number.injEq])
  | .text value, .text other => decidable_of_iff (value = other) (by rw [Json.text.injEq])
  | .null, .null => isTrue rfl
  | .null, .bool _ | .null, .number _ | .null, .text _ | .null, .list _ | .null, .object _
  | .bool _, .null | .bool _, .number _ | .bool _, .text _ | .bool _, .list _ | .bool _, .object _
  | .number _, .null | .number _, .bool _ | .number _, .text _ | .number _, .list _
  | .number _, .object _
  | .text _, .null | .text _, .bool _ | .text _, .number _ | .text _, .list _ | .text _, .object _
  | .list _, .null | .list _, .bool _ | .list _, .number _ | .list _, .text _ | .list _, .object _
  | .object _, .null | .object _, .bool _ | .object _, .number _ | .object _, .text _
  | .object _, .list _ => isFalse nofun

/-- Decides whether two lists of values are equal. -/
def decideEqItems : (left right : List Json) → Decidable (left = right)
  | [], [] => isTrue rfl
  | [], _ :: _ | _ :: _, [] => isFalse nofun
  | item :: items, other :: others =>
    match decideEq item other, decideEqItems items others with
    | isTrue same, isTrue sameRest => isTrue (by rw [same, sameRest])
    | isFalse different, _ => isFalse fun same => different (List.cons.inj same).1
    | _, isFalse different => isFalse fun same => different (List.cons.inj same).2

/-- Decides whether two lists of members are equal. -/
def decideEqMembers : (left right : List (String × Json)) → Decidable (left = right)
  | [], [] => isTrue rfl
  | [], _ :: _ | _ :: _, [] => isFalse nofun
  | (key, value) :: members, (otherKey, other) :: others =>
    match decEq key otherKey, decideEq value other, decideEqMembers members others with
    | isTrue sameKey, isTrue same, isTrue sameRest => isTrue (by rw [sameKey, same, sameRest])
    | isFalse different, _, _ =>
      isFalse fun same => different (Prod.mk.inj (List.cons.inj same).1).1
    | _, isFalse different, _ =>
      isFalse fun same => different (Prod.mk.inj (List.cons.inj same).1).2
    | _, _, isFalse different => isFalse fun same => different (List.cons.inj same).2

end

instance : DecidableEq Json := decideEq

/-! ## Canonical order -/

theorem sortedItems_eq_map
    (items : List Json) :
    sortedItems items = items.map sorted := by
  induction items with
  | nil => rfl
  | cons item rest inductionHypothesis => rw [sortedItems, inductionHypothesis, List.map_cons]

theorem sortedMembers_eq_map
    (members : List (String × Json)) :
    sortedMembers members = members.map fun member => (member.1, member.2.sorted) := by
  induction members with
  | nil => rfl
  | cons member rest inductionHypothesis =>
    rw [sortedMembers, inductionHypothesis, List.map_cons]

theorem sorted_list
    (items : List Json) :
    (Json.list items).sorted = .list (items.map sorted) := by
  rw [sorted, sortedItems_eq_map]

theorem sorted_object
    (members : List (String × Json)) :
    (Json.object members).sorted = .object (SortedMap.ofList (sortedMembers members)).entries := by
  rw [sorted, ofMembers]

theorem keys_sortedMembers
    (members : List (String × Json)) :
    (sortedMembers members).map Prod.fst = members.map Prod.fst := by
  rw [sortedMembers_eq_map, List.map_map]
  rfl

theorem lookup_sortedMembers
    (members : List (String × Json)) (key : String) :
    (sortedMembers members).lookup key = (members.lookup key).map sorted := by
  induction members with
  | nil => rfl
  | cons member rest inductionHypothesis =>
    rw [sortedMembers, List.lookup_cons, List.lookup_cons, inductionHypothesis]
    cases key == member.1 <;> rfl

/-- The members of an object in canonical order are its members with their values in that order. -/
theorem mem_sorted_iff
    {members : List (String × Json)}
    (distinctNames : (members.map Prod.fst).Nodup) (name : String) (json : Json) :
    (name, json) ∈ (SortedMap.ofList (sortedMembers members)).entries ↔
      ∃ source, members.lookup name = some source ∧ json = source.sorted := by
  have sortedDistinct : ((sortedMembers members).map Prod.fst).Nodup := by
    rwa [keys_sortedMembers]
  rw [← SortedMap.find?_eq_some_iff, SortedMap.find?_ofList_eq_some_iff sortedDistinct,
    ← lookup_eq_some_iff_mem sortedDistinct, lookup_sortedMembers, Option.map_eq_some_iff]
  exact exists_congr fun source => and_congr_right fun _ => eq_comm

/-- Whether all objects inside a value are in canonical order. -/
def IsCanonical (json : Json) : Prop :=
  json.sorted = json

theorem isCanonical_list
    {items : List Json}
    (canonical : ∀ item ∈ items, item.IsCanonical) :
    (Json.list items).IsCanonical := by
  rw [IsCanonical, sorted_list]
  congr 1
  exact (List.map_congr_left canonical).trans (List.map_id' items)

theorem isCanonical_ofMembers
    {members : List (String × Json)}
    (canonical : ∀ member ∈ members, member.2.IsCanonical) :
    (ofMembers members).IsCanonical := by
  have sameEntries :
      sortedMembers (SortedMap.ofList members).entries = (SortedMap.ofList members).entries := by
    rw [sortedMembers_eq_map]
    refine (List.map_congr_left fun entry inEntries => ?_).trans (List.map_id' _)
    obtain ⟨key, value⟩ := entry
    have found := (SortedMap.find?_eq_some_iff _ _ _).mpr inEntries
    have same : value.sorted = value := canonical _ (SortedMap.mem_of_find?_ofList found)
    rw [same]
  rw [IsCanonical, ofMembers, sorted, sameEntries, ofMembers, SortedMap.ofList_entries]

/-! ## Reading any value -/

mutual

theorem Tree.isCanonical_of_toJson
    {json : Json} :
    (tree : Tree) → tree.toJson = .ok json → json.IsCanonical
  | .null, read => by cases read; rfl
  | .bool _, read => by cases read; rfl
  | .number _, read => by cases read; rfl
  | .text _, read => by cases read; rfl
  | .unsound, read => by cases read
  | .broken _ _, read => by cases read
  | .list items, read => by
    obtain ⟨jsons, itemsRead, rfl⟩ := Results.map_eq_ok_iff.mp read
    exact isCanonical_list (Items.isCanonical_of_toJsons items itemsRead)
  | .object members, read => by
    obtain ⟨pairs, membersRead, rfl⟩ := Results.map_eq_ok_iff.mp read
    exact isCanonical_ofMembers (Members.isCanonical_of_toJsons members membersRead)

theorem Items.isCanonical_of_toJsons
    {jsons : List Json} :
    (items : Items) → items.toJsons = .ok jsons → ∀ json ∈ jsons, json.IsCanonical
  | .closed, read => by cases read; nofun
  | .fault _, read => by cases read
  | .barred _, read => by cases read
  | .cons item rest, read => by
    obtain ⟨first, firstRead, others⟩ := Results.bind_eq_ok_iff.mp read
    obtain ⟨restJsons, restRead, same⟩ := Results.bind_eq_ok_iff.mp others
    cases same
    intro json member
    rcases List.mem_cons.mp member with rfl | inRest
    · exact Tree.isCanonical_of_toJson item firstRead
    · exact Items.isCanonical_of_toJsons rest restRead json inRest

theorem Members.isCanonical_of_toJsons
    {pairs : List (String × Json)} :
    (members : Members) → members.toJsons = .ok pairs → ∀ pair ∈ pairs, pair.2.IsCanonical
  | .closed, read => by cases read; nofun
  | .fault _, read => by cases read
  | .brokenKey _ _, read => by cases read
  | .barred _, read => by cases read
  | .cons key value rest, read => by
    obtain ⟨text, _, others⟩ := Results.bind_eq_ok_iff.mp read
    obtain ⟨first, firstRead, others⟩ := Results.bind_eq_ok_iff.mp others
    obtain ⟨restPairs, restRead, same⟩ := Results.bind_eq_ok_iff.mp others
    cases same
    intro pair member
    rcases List.mem_cons.mp member with rfl | inRest
    · exact Tree.isCanonical_of_toJson value firstRead
    · exact Members.isCanonical_of_toJsons rest restRead pair inRest

end

mutual

/-- The tree of a value reads back as the value in canonical order. -/
theorem Tree.toJson_ofJson :
    (json : Json) → (Tree.ofJson json).toJson = .ok json.sorted
  | .null => rfl
  | .bool _ => rfl
  | .number _ => rfl
  | .text _ => rfl
  | .list items => by
    rw [Tree.ofJson, Tree.toJson, Items.toJsons_ofList items]
    rfl
  | .object members => by
    rw [Tree.ofJson, Tree.toJson, Members.toJsons_ofList members]
    rfl

theorem Items.toJsons_ofList :
    (items : List Json) → (Items.ofList items).toJsons = .ok (sortedItems items)
  | [] => rfl
  | item :: items => by
    rw [Items.ofList, Items.toJsons, Tree.toJson_ofJson item, Items.toJsons_ofList items]
    rfl

theorem Members.toJsons_ofList :
    (members : List (String × Json)) →
      (Members.ofList members).toJsons = .ok (sortedMembers members)
  | [] => rfl
  | (key, value) :: members => by
    rw [Members.ofList, Members.toJsons, Tree.toJson_ofJson value, Members.toJsons_ofList members]
    rfl

end

mutual

theorem Tree.skipFault?_ofJson :
    (json : Json) → (Tree.ofJson json).skipFault? = none
  | .null => rfl
  | .bool _ => rfl
  | .number _ => rfl
  | .text _ => rfl
  | .list items => Items.skipFault?_ofList items
  | .object members => Members.skipFault?_ofList members

theorem Items.skipFault?_ofList :
    (items : List Json) → (Items.ofList items).skipFault? = none
  | [] => rfl
  | item :: items => by
    rw [Items.ofList, Items.skipFault?, Tree.skipFault?_ofJson item, Items.skipFault?_ofList items]
    rfl

theorem Members.skipFault?_ofList :
    (members : List (String × Json)) → (Members.ofList members).skipFault? = none
  | [] => rfl
  | (key, value) :: members => by
    rw [Members.ofList, Members.skipFault?, Tree.skipFault?_ofJson value,
      Members.skipFault?_ofList members]
    rfl

end

theorem Tree.skip_ofJson
    (json : Json) :
    (Tree.ofJson json).skip = .ok () := by
  rw [Tree.skip, Tree.skipFault?_ofJson]

/-! ## Height -/

theorem Items.height_of_mem
    {items : List Json} {item : Json}
    (member : item ∈ items) :
    (Tree.ofJson item).height < (Tree.ofJson (.list items)).height := by
  rw [Tree.ofJson.eq_def (.list items), Tree.height, Nat.lt_succ_iff]
  induction items with
  | nil => cases member
  | cons first rest inductionHypothesis =>
    rw [Items.ofList, Items.height]
    rcases List.mem_cons.mp member with rfl | inRest
    · exact Nat.le_max_left _ _
    · exact Nat.le_trans (inductionHypothesis inRest) (Nat.le_max_right _ _)

theorem Members.height_of_mem
    {members : List (String × Json)} {member : String × Json}
    (inMembers : member ∈ members) :
    (Tree.ofJson member.2).height < (Tree.ofJson (.object members)).height := by
  rw [Tree.ofJson.eq_def (.object members), Tree.height, Nat.lt_succ_iff]
  induction members with
  | nil => cases inMembers
  | cons first rest inductionHypothesis =>
    rw [Members.ofList, Members.height]
    rcases List.mem_cons.mp inMembers with rfl | inRest
    · exact Nat.le_max_left _ _
    · exact Nat.le_trans (inductionHypothesis inRest) (Nat.le_max_right _ _)

theorem height_sorted_of_mem
    {items : List Json} {item : Json}
    (member : item ∈ items) :
    (Tree.ofJson item.sorted).height < (Tree.ofJson (Json.list items).sorted).height := by
  rw [sorted_list]
  exact Items.height_of_mem (List.mem_map_of_mem member)

theorem height_sorted_of_lookup
    {members : List (String × Json)} {name : String} {json : Json}
    (distinctNames : (members.map Prod.fst).Nodup) (found : members.lookup name = some json) :
    (Tree.ofJson json.sorted).height < (Tree.ofJson (Json.object members).sorted).height := by
  rw [sorted_object]
  exact Members.height_of_mem ((mem_sorted_iff distinctNames name _).mpr ⟨json, found, rfl⟩)

/-! ## Lists and maps -/

theorem Tree.toList_ofJson
    {α : Type} (decode : Decoder α) (items : List Json) :
    (Tree.ofJson (.list items)).toList decode =
      items.mapM fun item => decode (Tree.ofJson item) := by
  rw [Tree.ofJson, Tree.toList]
  induction items with
  | nil => rfl
  | cons item rest inductionHypothesis =>
    rw [Items.ofList, Items.each, inductionHypothesis, List.mapM_cons]
    rfl

/-- A list reads back when each of its items does. -/
theorem Tree.toList_sorted
    {α : Type} {encode : α → Json} {decode : Decoder α} {items : List α}
    (reads : ∀ item ∈ items, decode (Tree.ofJson (encode item).sorted) = .ok item) :
    (Tree.ofJson (Json.list (items.map encode)).sorted).toList decode = .ok items := by
  rw [sorted_list, Tree.toList_ofJson, List.map_map, Results.mapM_eq_ok_iff,
    List.forall₂_map_left_iff, List.forall₂_same]
  exact reads

theorem Tree.toPairs_ofJson
    {α : Type} (decode : String → Tree → Except Error α) (members : List (String × Json)) :
    (Tree.ofJson (.object members)).toPairs decode =
      members.mapM fun member => decode member.1 (Tree.ofJson member.2) := by
  rw [Tree.ofJson, Tree.toPairs]
  induction members with
  | nil => rfl
  | cons member rest inductionHypothesis =>
    rw [Members.ofList, Members.each, inductionHypothesis, List.mapM_cons]
    rfl

/-! ## Structures -/

theorem Fields.get?_eq_some_iff
    {ν : Type} {fields : Fields ν}
    (distinctNames : (fields.map Prod.fst).Nodup) (name : String) (value : ν) :
    fields.get? name = some value ↔ (name, value) ∈ fields := by
  rw [← lookup_eq_some_iff_mem distinctNames, Fields.get?]
  congr! 1
  clear distinctNames
  induction fields with
  | nil => rfl
  | cons field rest inductionHypothesis =>
    rw [List.find?_cons, List.lookup_cons, Bool.beq_comm (a := name)]
    cases field.1 == name with
    | true => rfl
    | false => exact inductionHypothesis

theorem Fields.mem_of_get?
    {ν : Type} {fields : Fields ν} {name : String} {value : ν}
    (found : fields.get? name = some value) :
    (name, value) ∈ fields := by
  obtain ⟨pair, first, rfl⟩ := Option.map_eq_some_iff.mp found
  have sameName := List.find?_some first
  rw [beq_iff_eq] at sameName
  rw [← sameName]
  exact List.mem_of_find?_eq_some first

/-- Reading members under distinct names, none of which has been seen. -/
theorem Members.fields_ofList
    {ν : Type} {names : List String} {read : String → Tree → Except Error (Option ν)}
    (value : String → Option ν) {members : List (String × Json)}
    (distinctNames : (members.map Prod.fst).Nodup)
    (reads : ∀ member ∈ members, read member.1 (Tree.ofJson member.2) = .ok (value member.1))
    (seen : Fields ν) (unseen : ∀ member ∈ members, seen.get? member.1 = none) :
    (Members.ofList members).fields names read seen =
      .ok ((members.filterMap fun member =>
        (value member.1).map fun found => (member.1, found)).reverse ++ seen) := by
  induction members generalizing seen with
  | nil => rfl
  | cons member rest inductionHypothesis =>
    obtain ⟨name, json⟩ := member
    obtain ⟨absent, restDistinct⟩ := List.nodup_cons.mp distinctNames
    have restReads : ∀ other ∈ rest, read other.1 (Tree.ofJson other.2) = .ok (value other.1) :=
      fun other inRest => reads other (List.mem_cons_of_mem _ inRest)
    have restUnseen : ∀ other ∈ rest, seen.get? other.1 = none :=
      fun other inRest => unseen other (List.mem_cons_of_mem _ inRest)
    have notSeen : seen.get? name = none := unseen (name, json) List.mem_cons_self
    have firstRead : read name (Tree.ofJson json) = .ok (value name) :=
      reads (name, json) List.mem_cons_self
    rw [Members.ofList, Members.fields]
    cases found : value name with
    | none =>
      simp only [Key.toText, bind, Except.bind, notSeen, firstRead, found, Option.isSome_none,
        Bool.and_false, Bool.false_eq_true, if_false]
      rw [inductionHypothesis restDistinct restReads seen restUnseen, List.filterMap_cons]
      simp only [found, Option.map_none]
    | some field =>
      have stillUnseen : ∀ other ∈ rest,
          Fields.get? ((name, field) :: seen) other.1 = none := by
        intro other inRest
        have different : ¬ name = other.1 := fun same =>
          absent (List.mem_map.mpr ⟨other, inRest, same.symm⟩)
        have skipped : Fields.get? ((name, field) :: seen) other.1 = seen.get? other.1 := by
          rw [Fields.get?, List.find?_cons_of_neg (by simpa using different)]
          rfl
        rw [skipped, restUnseen other inRest]
      simp only [Key.toText, bind, Except.bind, notSeen, firstRead, found, Option.isSome_none,
        Bool.and_false, Bool.false_eq_true, if_false]
      rw [inductionHypothesis restDistinct restReads _ stillUnseen, List.filterMap_cons]
      simp only [found, Option.map_some, List.reverse_cons, List.append_assoc,
        List.singleton_append]

/-- Reading the fields of an object in canonical order: a field is what reading the member with its
name gives, wherever that member stood. -/
theorem Tree.fields_sorted
    {ν : Type} (names listed : List String) (read : String → Tree → Except Error (Option ν))
    (value : String → Option ν) {members : List (String × Json)}
    (distinctNames : (members.map Prod.fst).Nodup)
    (missing : ∀ name, members.lookup name = none → value name = none)
    (reads : ∀ name json, members.lookup name = some json →
      read name (Tree.ofJson json.sorted) = .ok (value name)) :
    ∃ fields, (Tree.ofJson (Json.object members).sorted).fields names listed read = .ok fields ∧
      (fields.map Prod.fst).Nodup ∧ ∀ name, fields.get? name = value name := by
  let entries := (SortedMap.ofList (sortedMembers members)).entries
  have entriesDistinct : (entries.map Prod.fst).Nodup := SortedMap.keys_nodup _
  have entriesRead : ∀ member ∈ entries,
      read member.1 (Tree.ofJson member.2) = .ok (value member.1) := by
    rintro ⟨name, json⟩ member
    obtain ⟨source, found, rfl⟩ := (mem_sorted_iff distinctNames name json).mp member
    exact reads name source found
  let fields : Fields ν :=
    (entries.filterMap fun member => (value member.1).map fun found => (member.1, found)).reverse
  have fieldsDistinct : (fields.map Prod.fst).Nodup := by
    rw [List.map_reverse, List.nodup_reverse]
    refine nodup_keys_filterMap ?_ entriesDistinct
    intro member field selected
    obtain ⟨_, _, rfl⟩ := Option.map_eq_some_iff.mp selected
    rfl
  refine ⟨fields, ?_, fieldsDistinct, ?_⟩
  · rw [sorted_object, Tree.ofJson, Tree.fields,
      Members.fields_ofList value entriesDistinct entriesRead [] fun _ _ => rfl, List.append_nil]
  · intro name
    apply Option.ext
    intro found
    rw [Fields.get?_eq_some_iff fieldsDistinct, List.mem_reverse, List.mem_filterMap]
    constructor
    · rintro ⟨⟨other, json⟩, _, same⟩
      obtain ⟨field, isField, same⟩ := Option.map_eq_some_iff.mp same
      cases same
      exact isField
    · intro isField
      cases source : members.lookup name with
      | none =>
        rw [missing name source] at isField
        cases isField
      | some json =>
        have inSorted : (name, json.sorted) ∈ (SortedMap.ofList (sortedMembers members)).entries :=
          (mem_sorted_iff distinctNames name _).mpr ⟨json, source, rfl⟩
        exact ⟨(name, json.sorted), inSorted, by rw [isField]; rfl⟩

/-- The fields of a structure in canonical order. -/
theorem Tree.structure_sorted
    (names listed : List String) {members : List (String × Json)}
    (distinctNames : (members.map Prod.fst).Nodup) :
    ∃ fields, (Tree.ofJson (Json.object members).sorted).structure names listed = .ok fields ∧
      ∀ name ∈ names,
        fields.get? name = (members.lookup name).map fun json => Tree.ofJson json.sorted := by
  let value (name : String) : Option Tree :=
    if names.contains name then
      (members.lookup name).map fun json => Tree.ofJson json.sorted
    else
      none
  have missing : ∀ name, members.lookup name = none → value name = none := by
    intro name absent
    simp only [value, absent, Option.map_none, ite_self]
  have reads : ∀ name json, members.lookup name = some json →
      keepNamed names name (Tree.ofJson json.sorted) = .ok (value name) := by
    intro name json found
    simp only [keepNamed, value, found, Option.map_some]
    split
    · rfl
    · rw [Tree.skip_ofJson]
      rfl
  obtain ⟨fields, read, _, sameFields⟩ :=
    Tree.fields_sorted names listed (keepNamed names) value distinctNames missing reads
  refine ⟨fields, read, fun name member => ?_⟩
  rw [sameFields]
  exact if_pos (List.contains_iff_mem.mpr member)

theorem Fields.read_of_get?
    {α : Type} {fields : Fields Tree} {name : String} {tree : Tree}
    (found : fields.get? name = some tree) (decode : Decoder α) :
    fields.read name decode = decode tree := by
  rw [Fields.read, Fields.require, found]
  rfl

theorem Fields.readOr_of_get?
    {α : Type} {fields : Fields Tree} {name : String} {tree : Tree}
    (found : fields.get? name = some tree) (default : α) (decode : Decoder α) :
    fields.readOr name default decode = decode tree := by
  rw [Fields.readOr, found]

theorem Fields.readOr_of_missing
    {α : Type} {fields : Fields Tree} {name : String}
    (missing : fields.get? name = none) (default : α) (decode : Decoder α) :
    fields.readOr name default decode = .ok default := by
  rw [Fields.readOr, missing]

theorem decodeValue_eq_ok_iff
    {α : Type} {decode : Decoder α} {json : Json} {value : α} :
    decodeValue decode json = .ok value ↔ decode (Tree.ofJson json) = .ok value := by
  rw [decodeValue]
  cases decode (Tree.ofJson json) with
  | ok other => rfl
  | error problem => cases problem <;> simp

/-! ## What was read -/

/-- The items of a list, up to its end or its first fault. -/
def Items.trees : Items → List Tree
  | .cons item rest => item :: rest.trees
  | .closed | .fault _ | .barred _ => []

/-- The values of the members of an object, up to its end or its first fault. -/
def Members.trees : Members → List Tree
  | .cons _ value rest => value :: rest.trees
  | .closed | .fault _ | .brokenKey _ _ | .barred _ => []

theorem Items.trees_ofList
    (items : List Json) :
    (Items.ofList items).trees = items.map Tree.ofJson := by
  induction items with
  | nil => rfl
  | cons item items inductionHypothesis =>
    rw [Items.ofList, Items.trees, inductionHypothesis, List.map_cons]

theorem Members.trees_ofList
    (members : List (String × Json)) :
    (Members.ofList members).trees = members.map fun member => Tree.ofJson member.2 := by
  induction members with
  | nil => rfl
  | cons member members inductionHypothesis =>
    rw [Members.ofList, Members.trees, inductionHypothesis, List.map_cons]

/-- Each field that has been read comes from a member. -/
theorem Members.read_of_mem_fields
    {ν : Type} {names : List String} {read : String → Tree → Except Error (Option ν)}
    {fields : Fields ν} :
    (members : Members) → (seen : Fields ν) → members.fields names read seen = .ok fields →
      ∀ name value, (name, value) ∈ fields →
        (name, value) ∈ seen ∨ ∃ tree ∈ members.trees, read name tree = .ok (some value)
  | .closed, _, ok => by
    cases ok
    exact fun _ _ member => Or.inl member
  | .fault _, _, ok => by cases ok
  | .brokenKey _ _, _, ok => by cases ok
  | .barred _, _, ok => by cases ok
  | .cons key tree rest, seen, ok => by
    intro name value member
    obtain ⟨text, _, others⟩ := Results.bind_eq_ok_iff.mp ok
    split at others
    · cases others
    · obtain ⟨found, firstRead, further⟩ := Results.bind_eq_ok_iff.mp others
      cases found with
      | none =>
        rcases Members.read_of_mem_fields rest seen further name value member with
          inSeen | ⟨source, inRest, isRead⟩
        · exact Or.inl inSeen
        · exact Or.inr ⟨source, List.mem_cons_of_mem tree inRest, isRead⟩
      | some first =>
        rcases Members.read_of_mem_fields rest _ further name value member with
          inSeen | ⟨source, inRest, isRead⟩
        · rcases List.mem_cons.mp inSeen with same | earlier
          · cases same
            exact Or.inr ⟨tree, List.mem_cons_self, firstRead⟩
          · exact Or.inl earlier
        · exact Or.inr ⟨source, List.mem_cons_of_mem tree inRest, isRead⟩

/-- Each field that has been read from a list comes from an item. -/
theorem Items.read_of_mem_fields
    {ν : Type} {read : String → Tree → Except Error (Option ν)} {fields : Fields ν} :
    (names : List String) → (items : Items) → (seen : Fields ν) →
      items.fields read seen names = .ok fields →
      ∀ name value, (name, value) ∈ fields →
        (name, value) ∈ seen ∨ ∃ tree ∈ items.trees, read name tree = .ok (some value)
  | _, .closed, _, ok => by
    rw [Items.fields] at ok
    cases ok
    exact fun _ _ member => Or.inl member
  | _, .fault _, _, ok => by simp [Items.fields] at ok
  | _, .barred _, _, ok => by simp [Items.fields] at ok
  | [], .cons _ _, _, ok => by simp [Items.fields] at ok
  | name :: names, .cons item rest, seen, ok => by
    intro other value member
    rw [Items.fields] at ok
    obtain ⟨found, firstRead, further⟩ := Results.bind_eq_ok_iff.mp ok
    cases found with
    | none =>
      rcases Items.read_of_mem_fields names rest seen further other value member with
        inSeen | ⟨source, inRest, isRead⟩
      · exact Or.inl inSeen
      · exact Or.inr ⟨source, List.mem_cons_of_mem item inRest, isRead⟩
    | some first =>
      rcases Items.read_of_mem_fields names rest _ further other value member with
        inSeen | ⟨source, inRest, isRead⟩
      · rcases List.mem_cons.mp inSeen with same | earlier
        · cases same
          exact Or.inr ⟨item, List.mem_cons_self, firstRead⟩
        · exact Or.inl earlier
      · exact Or.inr ⟨source, List.mem_cons_of_mem item inRest, isRead⟩

theorem eq_of_keepNamed
    {names : List String} {name : String} {tree kept : Tree}
    (isKept : keepNamed names name tree = .ok (some kept)) :
    kept = tree := by
  rw [keepNamed] at isKept
  split at isKept
  · cases isKept
    rfl
  · obtain ⟨_, _, impossible⟩ := Results.map_eq_ok_iff.mp isKept
    cases impossible

/-- Each value of a list that has been read comes from an item. -/
theorem Items.read_of_mem_each
    {α : Type} {decode : Decoder α} {values : List α} :
    (items : Items) → items.each decode = .ok values →
      ∀ value ∈ values, ∃ tree ∈ items.trees, decode tree = .ok value
  | .closed, ok => by cases ok; nofun
  | .fault _, ok => by cases ok
  | .barred _, ok => by cases ok
  | .cons item rest, ok => by
    obtain ⟨first, firstRead, others⟩ := Results.bind_eq_ok_iff.mp ok
    obtain ⟨restValues, restRead, same⟩ := Results.bind_eq_ok_iff.mp others
    cases same
    intro value member
    rcases List.mem_cons.mp member with rfl | inRest
    · exact ⟨item, List.mem_cons_self, firstRead⟩
    · obtain ⟨source, inItems, isRead⟩ := Items.read_of_mem_each rest restRead value inRest
      exact ⟨source, List.mem_cons_of_mem item inItems, isRead⟩

theorem Tree.read_of_mem_toList
    {α : Type} {decode : Decoder α} {tree : Tree} {values : List α}
    (ok : tree.toList decode = .ok values) :
    ∃ items, tree = .list items ∧
      ∀ value ∈ values, ∃ item ∈ items.trees, decode item = .ok value := by
  cases tree with
  | list items => exact ⟨items, rfl, Items.read_of_mem_each items ok⟩
  | _ => cases ok

end Json

end TestGate
