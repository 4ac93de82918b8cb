import TestGate.Json.Reader
import TestGate.Proofs.RereadTrees

/-!
What readers find in any text. Main statement: all numbers that are read have 64 bits.
-/

namespace TestGate.Json

/-! ## Numbers -/

theorem appendDigits_le
    {start : Nat} (digits : List Char)
    (fits : start ≤ largestWhole) :
    (appendDigits start digits).1 ≤ largestWhole := by
  induction digits generalizing start with
  | nil => exact fits
  | cons digit digits inductionHypothesis =>
    rw [appendDigits]
    by_cases longerFits : start * 10 + (digit.toNat - '0'.toNat) ≤ largestWhole
    · simp only [longerFits, if_true]
      exact inductionHypothesis longerFits
    · simp only [longerFits, if_false]
      exact fits

theorem isSound_of_ofScaled
    {negative : Bool} {digits : Nat} {scale : Int} {value : Number}
    (isScaled : (Double.ofScaled negative digits scale).map Number.double = some value) :
    value.IsSound := by
  obtain ⟨double, isDouble, rfl⟩ := Option.map_eq_some_iff.mp isScaled
  exact Double.isFinite_of_ofScaled isDouble

/-- A number made of parts has 64 bits. -/
theorem NumberParts.isSound_of_toNumber?
    {parts : NumberParts} {value : Number}
    (isNumber : parts.toNumber? = some value) :
    value.IsSound := by
  obtain ⟨negative, whole, fraction, exponent⟩ := parts
  have bound : (appendDigits 0 whole).1 ≤ largestWhole := appendDigits_le whole (Nat.zero_le _)
  have power : largestWhole = 2 ^ 64 - 1 := by decide
  rw [NumberParts.toNumber?] at isNumber
  simp only at isNumber
  split at isNumber
  · split at isNumber
    · rename_i isWhole
      rw [← Option.some.inj isNumber]
      cases negative with
      | true =>
        have moderate : 0 < (appendDigits 0 whole).1 ∧ (appendDigits 0 whole).1 ≤ 2 ^ 63 := by
          simpa using isWhole.2
        simp only [if_true]
        exact ⟨by omega, by omega⟩
      | false =>
        simp only [Bool.false_eq_true, if_false]
        exact ⟨by omega, by omega⟩
    · exact isSound_of_ofScaled isNumber
  · exact isSound_of_ofScaled isNumber

/-! ## Trees -/

/-- Whether all numbers of a tree have 64 bits. -/
inductive Tree.IsSound : Tree → Prop where
  | null : IsSound .null
  | bool (value : Bool) : IsSound (.bool value)
  | number {value : Number} (sound : value.IsSound) : IsSound (.number value)
  | text (value : String) : IsSound (.text value)
  | list {items : Items} (inside : ∀ item ∈ items.trees, IsSound item) : IsSound (.list items)
  | object {members : Members} (inside : ∀ value ∈ members.trees, IsSound value) :
      IsSound (.object members)
  | unsound : IsSound .unsound
  | broken (strict skipping : Fault) : IsSound (.broken strict skipping)

/-! ## Leaves -/

theorem NumberParts.isSound_toTree
    (parts : NumberParts) :
    parts.toTree.IsSound := by
  rw [NumberParts.toTree]
  split
  · rename_i isNumber
    exact .number (NumberParts.isSound_of_toNumber? isNumber)
  · exact .unsound

theorem isSound_readExponent
    (parts : NumberParts) (text : List Char) :
    (readExponent parts text).1.IsSound := by
  rw [readExponent.eq_def]
  simp only
  split
  all_goals
    split
    · exact .broken _ _
    · exact NumberParts.isSound_toTree _

theorem isSound_finishNumber
    (parts : NumberParts) (text : List Char) :
    (finishNumber parts text).1.IsSound := by
  rw [finishNumber.eq_def]
  split
  · exact isSound_readExponent parts _
  · exact isSound_readExponent parts _
  · exact parts.isSound_toTree

theorem isSound_readFraction
    (parts : NumberParts) (text : List Char) :
    (readFraction parts text).1.IsSound := by
  rw [readFraction.eq_def]
  split
  · simp only
    split
    · exact .broken _ _
    · exact isSound_finishNumber _ _
  · exact isSound_finishNumber parts _

theorem isSound_readNumber
    (negative : Bool) (text : List Char) :
    (readNumber negative text).1.IsSound := by
  rw [readNumber.eq_def]
  split
  · split
    · exact .broken _ _
    · exact isSound_readFraction _ _
  · simp only
    split
    · exact .broken _ _
    · exact isSound_readFraction _ _

theorem isSound_readWord
    {value : Tree} (word text : List Char)
    (sound : value.IsSound) :
    (readWord word value text).1.IsSound := by
  rw [readWord]
  split
  · exact sound
  · exact .broken _ _

/-! ## Values -/

/-- What the readers find with so much fuel has numbers of 64 bits. -/
structure ReadsSoundly (fuel : Nat) : Prop where
  tree : ∀ depth chars, (readTree fuel depth chars).1.IsSound
  items : ∀ depth first chars, ∀ item ∈ (readItems fuel depth first chars).1.trees, item.IsSound
  item : ∀ depth chars, ∀ item ∈ (readItem fuel depth chars).1.trees, item.IsSound
  members : ∀ depth first chars,
    ∀ value ∈ (readMembers fuel depth first chars).1.trees, value.IsSound
  member : ∀ depth chars, ∀ value ∈ (readMember fuel depth chars).1.trees, value.IsSound
  memberValue : ∀ depth key chars,
    ∀ value ∈ (readMemberValue fuel depth key chars).1.trees, value.IsSound

theorem ReadsSoundly.zero : ReadsSoundly 0 := by
  constructor
  · exact fun _ _ => by rw [readTree]; exact .broken _ _
  · exact fun _ _ _ => by rw [readItems]; exact List.forall_mem_nil _
  · exact fun _ _ => by rw [readItem]; exact List.forall_mem_nil _
  · exact fun _ _ _ => by rw [readMembers]; exact List.forall_mem_nil _
  · exact fun _ _ => by rw [readMember]; exact List.forall_mem_nil _
  · exact fun _ _ _ => by rw [readMemberValue]; exact List.forall_mem_nil _

section Steps

variable {fuel : Nat}

theorem ReadsSoundly.readTree_succ
    (soundly : ReadsSoundly fuel) (depth : Nat) (chars : List Char) :
    (readTree (fuel + 1) depth chars).1.IsSound := by
  rw [readTree]
  split
  · exact .broken _ _
  · exact isSound_readWord _ _ .null
  · exact isSound_readWord _ _ (.bool true)
  · exact isSound_readWord _ _ (.bool false)
  · exact isSound_readNumber _ _
  · split
    · exact .text _
    · exact .unsound
    · exact .broken _ _
  · refine .list fun item member => ?_
    split at member
    · cases member
    · exact soundly.items _ _ _ item member
  · refine .object fun value member => ?_
    split at member
    · cases member
    · exact soundly.members _ _ _ value member
  · split
    · exact isSound_readNumber _ _
    · exact .broken _ _

theorem ReadsSoundly.readItems_succ
    (soundly : ReadsSoundly fuel) (depth : Nat) (first : Bool) (chars : List Char) :
    ∀ item ∈ (readItems (fuel + 1) depth first chars).1.trees, item.IsSound := by
  rw [readItems]
  split
  · exact List.forall_mem_nil _
  · exact List.forall_mem_nil _
  · split
    · intro item member
      rw [List.mem_singleton.mp member]
      exact .broken _ _
    · exact soundly.item _ _
  · split
    · exact soundly.item _ _
    · exact List.forall_mem_nil _

theorem ReadsSoundly.readItem_succ
    (soundly : ReadsSoundly fuel) (depth : Nat) (chars : List Char) :
    ∀ item ∈ (readItem (fuel + 1) depth chars).1.trees, item.IsSound := by
  have first := soundly.tree depth chars
  rw [readItem]
  split
  · rename_i item isRead
    rw [isRead] at first
    intro other member
    rw [List.mem_singleton.mp member]
    exact first
  · rename_i item behind isRead
    rw [isRead] at first
    intro other member
    rcases List.mem_cons.mp member with rfl | inRest
    · exact first
    · exact soundly.items _ _ _ other inRest

theorem ReadsSoundly.readMembers_succ
    (soundly : ReadsSoundly fuel) (depth : Nat) (first : Bool) (chars : List Char) :
    ∀ value ∈ (readMembers (fuel + 1) depth first chars).1.trees, value.IsSound := by
  rw [readMembers]
  split
  · exact List.forall_mem_nil _
  · exact List.forall_mem_nil _
  · split
    · exact List.forall_mem_nil _
    · exact soundly.member _ _
  · split
    · exact soundly.member _ _
    · exact List.forall_mem_nil _

theorem ReadsSoundly.readMember_succ
    (soundly : ReadsSoundly fuel) (depth : Nat) (chars : List Char) :
    ∀ value ∈ (readMember (fuel + 1) depth chars).1.trees, value.IsSound := by
  rw [readMember]
  split
  · exact List.forall_mem_nil _
  · split
    · exact soundly.memberValue _ _ _
    · exact soundly.memberValue _ _ _
    · exact List.forall_mem_nil _
  · exact List.forall_mem_nil _

theorem ReadsSoundly.readMemberValue_succ
    (soundly : ReadsSoundly fuel) (depth : Nat) (key : Key) (chars : List Char) :
    ∀ value ∈ (readMemberValue (fuel + 1) depth key chars).1.trees, value.IsSound := by
  rw [readMemberValue]
  split
  · intro value member
    rw [List.mem_singleton.mp member]
    exact .broken _ _
  · rename_i behind isColon
    have first := soundly.tree depth behind
    split
    · rename_i value isRead
      rw [isRead] at first
      intro other member
      rw [List.mem_singleton.mp member]
      exact first
    · rename_i value further isRead
      rw [isRead] at first
      intro other member
      rcases List.mem_cons.mp member with rfl | inRest
      · exact first
      · exact soundly.members _ _ _ other inRest

end Steps

/-- All that is ever read has numbers of 64 bits. -/
theorem readsSoundly
    (fuel : Nat) :
    ReadsSoundly fuel := by
  induction fuel with
  | zero => exact .zero
  | succ fuel soundly =>
    exact ⟨soundly.readTree_succ, soundly.readItems_succ, soundly.readItem_succ,
      soundly.readMembers_succ, soundly.readMember_succ, soundly.readMemberValue_succ⟩

theorem Document.isSound_ofText
    (text : String) :
    (Document.ofText text).tree.IsSound :=
  (readsSoundly _).tree deepest text.toList

/-! ## Values of trees -/

mutual

/-- A value that is read from a sound tree is sound, and as deep as the tree at most. -/
theorem Tree.fits_of_toJson
    {json : Json} :
    (tree : Tree) → tree.IsSound → tree.toJson = .ok json → Fits tree.height json
  | .null, _, read => by cases read; exact .null
  | .bool value, _, read => by cases read; exact .bool value
  | .number value, sound, read => by
    cases read
    cases sound with
    | number sound => exact .number sound
  | .text value, _, read => by cases read; exact .text value
  | .unsound, _, read => by cases read
  | .broken _ _, _, read => by cases read
  | .list items, sound, read => by
    obtain ⟨jsons, itemsRead, rfl⟩ := Results.map_eq_ok_iff.mp read
    cases sound with
    | list inside => exact .list (Items.fits_of_toJsons items inside itemsRead)
  | .object members, sound, read => by
    obtain ⟨pairs, membersRead, rfl⟩ := Results.map_eq_ok_iff.mp read
    cases sound with
    | object inside =>
      refine .object fun member inMembers => ?_
      have found := (SortedMap.find?_eq_some_iff _ _ _).mpr inMembers
      exact Members.fits_of_toJsons members inside membersRead _
        (SortedMap.mem_of_find?_ofList found)

theorem Items.fits_of_toJsons
    {jsons : List Json} :
    (items : Items) → (∀ item ∈ items.trees, item.IsSound) → items.toJsons = .ok jsons →
      ∀ json ∈ jsons, Fits items.height json
  | .closed, _, read => by cases read; nofun
  | .fault _, _, read => by cases read
  | .barred _, _, read => by cases read
  | .cons item rest, sound, read => by
    obtain ⟨first, firstRead, others⟩ := Results.bind_eq_ok_iff.mp read
    obtain ⟨restJsons, restRead, same⟩ := Results.bind_eq_ok_iff.mp others
    cases same
    intro json member
    rcases List.mem_cons.mp member with rfl | inRest
    · exact (Tree.fits_of_toJson item (sound item List.mem_cons_self) firstRead).mono
        (Nat.le_max_left _ _)
    · have restSound := fun other inTrees => sound other (List.mem_cons_of_mem item inTrees)
      exact (Items.fits_of_toJsons rest restSound restRead json inRest).mono (Nat.le_max_right _ _)

theorem Members.fits_of_toJsons
    {pairs : List (String × Json)} :
    (members : Members) → (∀ value ∈ members.trees, value.IsSound) → members.toJsons = .ok pairs →
      ∀ pair ∈ pairs, Fits members.height pair.2
  | .closed, _, read => by cases read; nofun
  | .fault _, _, read => by cases read
  | .brokenKey _ _, _, read => by cases read
  | .barred _, _, read => by cases read
  | .cons key value rest, sound, read => by
    obtain ⟨text, _, others⟩ := Results.bind_eq_ok_iff.mp read
    obtain ⟨first, firstRead, others⟩ := Results.bind_eq_ok_iff.mp others
    obtain ⟨restPairs, restRead, same⟩ := Results.bind_eq_ok_iff.mp others
    cases same
    intro pair member
    rcases List.mem_cons.mp member with rfl | inRest
    · exact (Tree.fits_of_toJson value (sound value List.mem_cons_self) firstRead).mono
        (Nat.le_max_left _ _)
    · have restSound := fun other inTrees => sound other (List.mem_cons_of_mem value inTrees)
      exact (Members.fits_of_toJsons rest restSound restRead pair inRest).mono
        (Nat.le_max_right _ _)

end

/-- The fields of a sound tree are sound. -/
theorem Tree.isSound_of_structure
    {tree field : Tree} {names listed : List String} {fields : Fields Tree} {name : String}
    (sound : tree.IsSound) (ok : tree.structure names listed = .ok fields)
    (found : fields.get? name = some field) :
    field.IsSound := by
  have member := Fields.mem_of_get? found
  cases sound with
  | object inside =>
    rcases Members.read_of_mem_fields _ [] ok name field member with
      absurdity | ⟨_, isMember, isKept⟩
    · cases absurdity
    · rw [eq_of_keepNamed isKept]
      exact inside _ isMember
  | list inside =>
    obtain ⟨kept, isRead, checked⟩ := Results.bind_eq_ok_iff.mp ok
    split at checked
    · cases checked
      rcases Items.read_of_mem_fields _ _ [] isRead name field member with
        absurdity | ⟨_, isItem, isKept⟩
      · cases absurdity
      · rw [eq_of_keepNamed isKept]
        exact inside _ isItem
    · cases checked
  | _ => cases ok

/-- The tree of a sound value is sound. -/
theorem Fits.isSound_ofJson
    {depth : Nat} {json : Json}
    (fits : Fits depth json) :
    (Tree.ofJson json).IsSound := by
  induction fits with
  | null => exact .null
  | bool value => exact .bool value
  | number sound => exact .number sound
  | text value => exact .text value
  | list _ each =>
    refine .list fun tree member => ?_
    rw [Items.trees_ofList] at member
    obtain ⟨item, inItems, rfl⟩ := List.mem_map.mp member
    exact each item inItems
  | object _ each =>
    refine .object fun tree member => ?_
    rw [Members.trees_ofList] at member
    obtain ⟨pair, inMembers, rfl⟩ := List.mem_map.mp member
    exact each pair inMembers

end TestGate.Json
