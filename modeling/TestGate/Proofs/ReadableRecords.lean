import TestGate.Bugzilla
import TestGate.Proofs.RecordCodec
import TestGate.Proofs.SoundTrees

/-!
Records that could be read from some text. Main statements: these are the records that can be
written and whose numbers have 64 bits; and all records that Bugzilla answers are such.
-/

namespace TestGate

open Issue Json

/-! ## Depth -/

section Depth

variable {depth : Nat}

theorem fits_ofOption_text
    (value : Option String) :
    Fits depth (Json.ofOption .text value) := by
  cases value with
  | none => exact .null
  | some value => exact .text value

theorem fits_ofTexts
    (values : List String) :
    Fits (depth + 1) (Json.ofTexts values) := by
  refine .list fun item member => ?_
  obtain ⟨value, _, rfl⟩ := List.mem_map.mp member
  exact .text value

theorem fits_optionMember
    {α : Type} {name : String} {encode : α → Json} {value : Option α} {member : String × Json}
    (fits : ∀ inner, value = some inner → Fits depth (encode inner))
    (inMember : member ∈ optionMember name encode value) :
    Fits depth member.2 := by
  cases value with
  | none => cases inMember
  | some inner =>
    rw [List.mem_singleton.mp inMember]
    exact fits inner rfl

theorem fits_listMember
    {name : String} {items : List Json} {member : String × Json}
    (fits : ∀ item ∈ items, Fits depth item) (inMember : member ∈ listMember name items) :
    Fits (depth + 1) member.2 := by
  cases items with
  | nil => cases inMember
  | cons item rest =>
    rw [List.mem_singleton.mp inMember]
    exact .list fits

theorem Issue.Flag.fits_toJson
    (flag : Flag) :
    Fits (depth + 1) flag.toJson := by
  refine .object fun member inMembers => ?_
  simp only [List.mem_cons, List.not_mem_nil, or_false] at inMembers
  rcases inMembers with rfl | rfl
  · exact .text _
  · exact .text _

/-- How deep a record is depends on its clones and on the fields that it does not know. -/
theorem Issue.Record.fits_iff
    (record : Record) :
    Fits (depth + 3) record.toJson ↔
      (∀ clone ∈ record.clones, Fits (depth + 1) clone.toJson) ∧
        ∀ name json, record.extra.find? name = some json → Fits (depth + 2) json := by
  rw [record.toJson_eq]
  constructor
  · intro fits
    constructor
    · intro clone member
      have listed : ("clones", Json.list (record.clones.map Record.toJson)) ∈
          listMember "clones" (record.clones.map Record.toJson) := by
        rw [listMember, if_neg (by simpa using List.ne_nil_of_mem member)]
        exact List.mem_cons_self
      have inMembers : ("clones", Json.list (record.clones.map Record.toJson)) ∈
          record.knownMembers ++ record.extra.entries := by
        simp only [Record.knownMembers, List.mem_append, listed, true_or, or_true]
      exact (fits.of_object inMembers).of_list (List.mem_map_of_mem member)
    · intro name json found
      have inExtra := (SortedMap.find?_eq_some_iff _ _ _).mp found
      exact fits.of_object (List.mem_append_right _ inExtra)
  · intro inside
    have texts : ∀ values : List String, ∀ item ∈ values.map Json.text, Fits (depth + 1) item := by
      intro values item member
      obtain ⟨value, _, rfl⟩ := List.mem_map.mp member
      exact .text value
    have flags : ∀ item ∈ record.flags.map Flag.toJson, Fits (depth + 1) item := by
      intro item member
      obtain ⟨flag, _, rfl⟩ := List.mem_map.mp member
      exact flag.fits_toJson
    have clones : ∀ item ∈ record.clones.map Record.toJson, Fits (depth + 1) item := by
      intro item member
      obtain ⟨clone, inClones, rfl⟩ := List.mem_map.mp member
      exact inside.1 clone inClones
    refine .object fun member inMembers => ?_
    simp only [Record.knownMembers, List.mem_append, List.mem_cons, List.not_mem_nil, or_false,
      or_assoc] at inMembers
    rcases inMembers with rfl | rfl | rfl | isMember | isMember | isMember | isMember | rfl | rfl |
      isMember | isMember | isMember | isMember | isMember
    · exact .text _
    · exact .text _
    · exact .text _
    · exact fits_listMember (texts _) isMember
    · exact fits_optionMember (fun _ _ => .text _) isMember
    · exact fits_listMember flags isMember
    · exact fits_optionMember (fun _ _ => .text _) isMember
    · exact fits_ofTexts _
    · exact .text _
    · exact fits_listMember clones isMember
    · exact fits_optionMember (fun _ _ => .bool _) isMember
    · exact fits_optionMember (fun _ _ => .bool _) isMember
    · exact fits_optionMember (fun _ _ => .text _) isMember
    · exact inside.2 _ _ ((SortedMap.find?_eq_some_iff _ _ _).mpr isMember)

/-- Whether a record is sound depends on its clones and on the fields that it does not know. -/
theorem Issue.Record.isSound_iff
    (record : Record) :
    record.toJson.IsSound ↔
      (∀ clone ∈ record.clones, clone.toJson.IsSound) ∧
        ∀ name json, record.extra.find? name = some json → json.IsSound := by
  constructor
  · rintro ⟨depth, fits⟩
    obtain ⟨clones, extra⟩ := record.fits_iff.mp (fits.mono (Nat.le_add_right depth 3))
    exact ⟨fun clone member => ⟨_, clones clone member⟩,
      fun name json found => ⟨_, extra name json found⟩⟩
  · rintro ⟨clones, extra⟩
    have members : ∀ member ∈ record.extra.entries, member.2.IsSound := fun member inExtra =>
      extra member.1 member.2 ((SortedMap.find?_eq_some_iff _ _ _).mpr inExtra)
    obtain ⟨cloneDepth, clonesFit⟩ := exists_common_depth clones
    obtain ⟨extraDepth, extraFit⟩ := exists_common_depth members
    refine ⟨max cloneDepth extraDepth + 3, record.fits_iff.mpr ⟨fun clone member => ?_, ?_⟩⟩
    · exact (clonesFit clone member).mono (by omega)
    · intro name json found
      have inExtra := (SortedMap.find?_eq_some_iff _ _ _).mp found
      exact (extraFit (name, json) inExtra).mono (by omega)

end Depth

/-! ## Records of texts -/

namespace Issue.Record

/-- A record that is read from a sound tree is sound. -/
theorem isSound_of_decodeWithin
    {fuel : Nat} {tree : Tree} {record : Record}
    (sound : tree.IsSound) (ok : Record.decodeWithin fuel tree = .ok record) :
    record.toJson.IsSound := by
  induction fuel generalizing tree record with
  | zero =>
    obtain ⟨_, _, impossible, _⟩ := comesFrom_of_decodeWithin ok
    cases impossible
  | succ fuel inductionHypothesis =>
    obtain ⟨less, members, isFuel, rfl, comesFrom⟩ := comesFrom_of_decodeWithin ok
    cases isFuel
    cases sound with
    | object inside =>
      refine record.isSound_iff.mpr ⟨fun clone member => ?_, fun name json found => ?_⟩
      · obtain ⟨items, isMember, item, inItems, itemRead⟩ := comesFrom.clones clone member
        cases inside _ isMember with
        | list each => exact inductionHypothesis (each item inItems) itemRead
      · obtain ⟨_, value, isMember, isValue⟩ := comesFrom.extra name json found
        exact ⟨_, Tree.fits_of_toJson value (inside value isMember) isValue⟩

/-- Whether a record can be read, from a text or from a part of one: such trees are sound. -/
def IsReadable (record : Record) : Prop :=
  ∃ tree : Tree, tree.IsSound ∧ Record.decode tree = .ok record

variable {record : Record}

theorem isReadable_iff :
    record.IsReadable ↔ record.Writable ∧ record.toJson.IsSound := by
  constructor
  · rintro ⟨tree, sound, ok⟩
    exact ⟨writable_of_decodeWithin ok, isSound_of_decodeWithin sound ok⟩
  · rintro ⟨writable, _, fits⟩
    exact ⟨_, fits.sorted.isSound_ofJson, writable.decode_toJson⟩

namespace IsReadable

theorem writable
    (readable : record.IsReadable) :
    record.Writable :=
  (isReadable_iff.mp readable).1

theorem sound
    (readable : record.IsReadable) :
    record.toJson.IsSound :=
  (isReadable_iff.mp readable).2

/-- Only the link, the clones and the unknown fields of a record count. -/
theorem change
    {other : Record}
    (readable : record.IsReadable) (sameLink : other.duplicateOf = record.duplicateOf)
    (sameExtra : other.extra = record.extra) (clones : ∀ clone ∈ other.clones, clone.IsReadable) :
    other.IsReadable := by
  refine isReadable_iff.mpr ⟨.intro ?_ ?_ fun clone member => (clones clone member).writable,
    other.isSound_iff.mpr ⟨fun clone member => (clones clone member).sound, ?_⟩⟩
  · rw [sameLink]
    exact readable.writable.link
  · rw [sameExtra]
    exact fun name json found => readable.writable.extra found
  · rw [sameExtra]
    exact (record.isSound_iff.mp readable.sound).2

theorem clones
    {clone : Record}
    (readable : record.IsReadable) (member : clone ∈ record.clones) :
    clone.IsReadable :=
  isReadable_iff.mpr ⟨readable.writable.clones member,
    (record.isSound_iff.mp readable.sound).1 clone member⟩

/-- A record without clones and unknown fields can be read, if its link is not blank. -/
theorem of_plain
    (link : record.duplicateOf ≠ some "") (noClones : record.clones = [])
    (noExtra : record.extra = SortedMap.empty) :
    record.IsReadable := by
  have none : ∀ clone ∈ record.clones, False := by
    rw [noClones]
    nofun
  have unknown : ∀ name json, record.extra.find? name = some json → False := by
    rw [noExtra]
    nofun
  exact isReadable_iff.mpr
    ⟨.intro link (fun name json found => (unknown name json found).elim)
      fun clone member => (none clone member).elim,
    record.isSound_iff.mpr ⟨fun clone member => (none clone member).elim,
      fun name json found => (unknown name json found).elim⟩⟩

end IsReadable

end Issue.Record

/-! ## Records that Bugzilla answers -/

namespace Bugzilla

open Http

/-- What is read from the body of an answer is sound. -/
theorem exists_tree_of_readAnswer
    {α : Type} {decode : Decoder α} {answer : Answer} {value : α}
    (ok : Rest.readAnswer decode answer = .ok value) :
    ∃ tree : Tree, tree.IsSound ∧ decode tree = .ok value := by
  obtain ⟨body, _, isRead⟩ := Results.bind_eq_ok_iff.mp ok
  cases decoded : decodeText decode body with
  | error error =>
    rw [decoded] at isRead
    cases isRead
  | ok other =>
    rw [decoded] at isRead
    cases isRead
    obtain ⟨result, isResult, checked⟩ := Results.bind_eq_ok_iff.mp decoded
    split at checked
    · cases checked
    · cases checked
      exact ⟨_, Document.isSound_ofText body, isResult⟩

theorem isReadable_of_decodeBugs
    {tree : Tree} {records : List Record}
    (sound : tree.IsSound) (ok : decodeBugs tree = .ok records) :
    ∀ record ∈ records, record.IsReadable := by
  obtain ⟨fields, isStructure, listed⟩ := Results.bind_eq_ok_iff.mp ok
  rw [Fields.readOr] at listed
  cases found : fields.get? "bugs" with
  | none =>
    rw [found] at listed
    cases listed
    exact List.forall_mem_nil _
  | some field =>
    rw [found] at listed
    obtain ⟨items, rfl, each⟩ := Tree.read_of_mem_toList listed
    intro record member
    obtain ⟨item, inItems, isRead⟩ := each record member
    cases Tree.isSound_of_structure sound isStructure found with
    | list inside => exact ⟨item, inside item inItems, isRead⟩

/-- All records that Bugzilla answers can be read, whatever its texts are. -/
theorem isReadable_of_fetch
    {settings : TrackerSettings} {ids : List String} {network : Network} {records : List Record}
    (ok : ((source settings).fetch ids network).1.outcome = .ok records) :
    ∀ record ∈ records, record.IsReadable := by
  simp only [source, Rest.source] at ok
  split at ok
  · cases ok
  · split at ok
    · cases ok
    · rename_i endpoint _ _ server _
      simp only [ask] at ok
      generalize server.get (endpoint.request (parameters ids)) = reply at ok
      cases answered : Rest.readAnswer decodeBugs reply.1 with
      | error failure =>
        rw [answered] at ok
        cases ok
      | ok found =>
        rw [answered] at ok
        cases ok
        obtain ⟨tree, sound, isRead⟩ := exists_tree_of_readAnswer answered
        exact isReadable_of_decodeBugs sound isRead

end Bugzilla

end TestGate
