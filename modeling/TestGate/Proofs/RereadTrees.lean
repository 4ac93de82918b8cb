import TestGate.Proofs.PrintedNumbers
import TestGate.Proofs.ValueTrees

/-!
What a reader meets in the texts of values. Main statement: of a value with numbers of 64 bits it
gets the value itself, with each number as its own text is read, exactly if the lists and objects of
the value do not lie too deep in one another.
-/

namespace TestGate.Json

/-! ## Depth -/

/-- Whether the lists and objects of a value lie in one another at most so many levels deep, and its
numbers have 64 bits. -/
inductive Fits : Nat → Json → Prop where
  | null {depth : Nat} : Fits depth .null
  | bool {depth : Nat} (value : Bool) : Fits depth (.bool value)
  | number {depth : Nat} {value : Number} (sound : value.IsSound) : Fits depth (.number value)
  | text {depth : Nat} (value : String) : Fits depth (.text value)
  | list {depth : Nat} {items : List Json} (inside : ∀ item ∈ items, Fits depth item) :
      Fits (depth + 1) (.list items)
  | object {depth : Nat} {members : List (String × Json)}
      (inside : ∀ member ∈ members, Fits depth member.2) : Fits (depth + 1) (.object members)

theorem Fits.of_list
    {depth : Nat} {items : List Json} {item : Json}
    (fits : Fits (depth + 1) (.list items)) (member : item ∈ items) :
    Fits depth item := by
  cases fits with
  | list inside => exact inside item member

theorem Fits.of_object
    {depth : Nat} {members : List (String × Json)} {member : String × Json}
    (fits : Fits (depth + 1) (.object members)) (inMembers : member ∈ members) :
    Fits depth member.2 := by
  cases fits with
  | object inside => exact inside member inMembers

theorem Fits.mono
    {depth deeper : Nat} {json : Json}
    (fits : Fits depth json) (le : depth ≤ deeper) :
    Fits deeper json := by
  induction fits generalizing deeper with
  | null => exact .null
  | bool value => exact .bool value
  | number sound => exact .number sound
  | text value => exact .text value
  | list _ each =>
    obtain ⟨deeper, rfl⟩ : ∃ less, deeper = less + 1 := ⟨deeper - 1, by omega⟩
    exact .list fun item member => each item member (by omega)
  | object _ each =>
    obtain ⟨deeper, rfl⟩ : ∃ less, deeper = less + 1 := ⟨deeper - 1, by omega⟩
    exact .object fun member inMembers => each member inMembers (by omega)

/-- Canonical order does not change how deep anything lies. -/
theorem Fits.sorted
    {depth : Nat} {json : Json}
    (fits : Fits depth json) :
    Fits depth json.sorted := by
  induction fits with
  | null => exact .null
  | bool value => exact .bool value
  | number sound => exact .number sound
  | text value => exact .text value
  | list _ each =>
    rw [sorted_list]
    refine .list fun item member => ?_
    obtain ⟨source, inItems, rfl⟩ := List.mem_map.mp member
    exact each source inItems
  | object _ each =>
    rw [sorted_object]
    refine .object fun member inMembers => ?_
    have found := (SortedMap.find?_eq_some_iff _ _ _).mpr inMembers
    have inSorted := SortedMap.mem_of_find?_ofList found
    rw [sortedMembers_eq_map] at inSorted
    obtain ⟨source, inSource, same⟩ := List.mem_map.mp inSorted
    rw [← (Prod.mk.inj same).2]
    exact each source inSource

/-- Whether all numbers of a value have 64 bits, however deep they lie. -/
def IsSound (json : Json) : Prop :=
  ∃ depth, Fits depth json

/-- Some depth is enough for all values of a list. -/
theorem exists_common_depth
    {α : Type} {value : α → Json} {list : List α}
    (each : ∀ source ∈ list, (value source).IsSound) :
    ∃ depth, ∀ source ∈ list, Fits depth (value source) := by
  induction list with
  | nil => exact ⟨0, nofun⟩
  | cons source rest inductionHypothesis =>
    obtain ⟨depth, fits⟩ := each source List.mem_cons_self
    obtain ⟨deeper, others⟩ := inductionHypothesis fun other member =>
      each other (List.mem_cons_of_mem source member)
    refine ⟨max depth deeper, fun other member => ?_⟩
    rcases List.mem_cons.mp member with rfl | inRest
    · exact fits.mono (Nat.le_max_left depth deeper)
    · exact (others other inRest).mono (Nat.le_max_right depth deeper)

/-! ## Values as they are read -/

mutual

/-- The value that is read from the text of a value: each number is what its text is read as. -/
def reread : Json → Json
  | .null => .null
  | .bool value => .bool value
  | .number value => .number value.reread
  | .text value => .text value
  | .list items => .list (rereadItems items)
  | .object members => .object (rereadMembers members)

/-- The items that are read from their texts. -/
def rereadItems : List Json → List Json
  | [] => []
  | item :: items => item.reread :: rereadItems items

/-- The members that are read from their texts. -/
def rereadMembers : List (String × Json) → List (String × Json)
  | [] => []
  | (key, value) :: members => (key, value.reread) :: rereadMembers members

end

theorem rereadItems_eq_map
    (items : List Json) :
    rereadItems items = items.map reread := by
  induction items with
  | nil => rfl
  | cons item rest inductionHypothesis => rw [rereadItems, inductionHypothesis, List.map_cons]

theorem rereadMembers_eq_map
    (members : List (String × Json)) :
    rereadMembers members = members.map fun member => (member.1, member.2.reread) := by
  induction members with
  | nil => rfl
  | cons member rest inductionHypothesis =>
    rw [rereadMembers, inductionHypothesis, List.map_cons]

@[simp] theorem reread_list
    (items : List Json) :
    (Json.list items).reread = .list (items.map reread) := by
  rw [reread, rereadItems_eq_map]

@[simp] theorem reread_object
    (members : List (String × Json)) :
    (Json.object members).reread =
      .object (members.map fun member => (member.1, member.2.reread)) := by
  rw [reread, rereadMembers_eq_map]

theorem reread_ofMembers
    (members : List (String × Json)) :
    (ofMembers members).reread =
      ofMembers (members.map fun member => (member.1, member.2.reread)) := by
  rw [ofMembers, reread_object, ofMembers, SortedMap.ofList_map reread members]
  rfl

mutual

/-- Reading the text of a value leaves the order of its members as it is. -/
theorem reread_sorted : (json : Json) → json.sorted.reread = json.reread.sorted
  | .null => rfl
  | .bool _ => rfl
  | .number _ => rfl
  | .text _ => rfl
  | .list items => by
    rw [sorted, reread, reread, sorted, rereadItems_sorted items]
  | .object members => by
    rw [sorted, reread_ofMembers, reread, sorted, ← rereadMembers_eq_map,
      rereadMembers_sorted members]

theorem rereadItems_sorted :
    (items : List Json) → rereadItems (sortedItems items) = sortedItems (rereadItems items)
  | [] => rfl
  | item :: items => by
    rw [sortedItems, rereadItems, rereadItems, sortedItems, reread_sorted item,
      rereadItems_sorted items]

theorem rereadMembers_sorted :
    (members : List (String × Json)) →
      rereadMembers (sortedMembers members) = sortedMembers (rereadMembers members)
  | [] => rfl
  | (key, value) :: members => by
    rw [sortedMembers, rereadMembers, rereadMembers, sortedMembers, reread_sorted value,
      rereadMembers_sorted members]

end

theorem IsCanonical.reread
    {json : Json}
    (isCanonical : json.IsCanonical) :
    json.reread.IsCanonical := by
  rw [IsCanonical, ← reread_sorted, isCanonical]

/-! ## Trees as they are met -/

mutual

/-- What a reader meets in the text of a value, `depth` levels above the deepest one. -/
def treeWithin : (depth : Nat) → Json → Tree
  | _, .null => .null
  | _, .bool value => .bool value
  | _, .number value => .number value.reread
  | _, .text value => .text value
  | depth, .list items =>
    .list (if depth = 0 then .barred none else itemsWithin (depth - 1) items)
  | depth, .object members =>
    .object (if depth = 0 then .barred none else membersWithin (depth - 1) members)

/-- What a reader meets in the texts of items. -/
def itemsWithin (depth : Nat) : List Json → Items
  | [] => .closed
  | item :: items => .cons (treeWithin depth item) (itemsWithin depth items)

/-- What a reader meets in the texts of members. -/
def membersWithin (depth : Nat) : List (String × Json) → Members
  | [] => .closed
  | (key, value) :: members =>
    .cons (.sound key) (treeWithin depth value) (membersWithin depth members)

end

mutual

/-- The text of a value can be skipped, however deep the value is. -/
theorem skipFault?_treeWithin
    (depth : Nat) :
    (json : Json) → (treeWithin depth json).skipFault? = none
  | .null => rfl
  | .bool _ => rfl
  | .number _ => rfl
  | .text _ => rfl
  | .list items => by
    rw [treeWithin, Tree.skipFault?]
    split
    · rfl
    · exact skipFault?_itemsWithin (depth - 1) items
  | .object members => by
    rw [treeWithin, Tree.skipFault?]
    split
    · rfl
    · exact skipFault?_membersWithin (depth - 1) members

theorem skipFault?_itemsWithin
    (depth : Nat) :
    (items : List Json) → (itemsWithin depth items).skipFault? = none
  | [] => rfl
  | item :: items => by
    rw [itemsWithin, Items.skipFault?, skipFault?_treeWithin depth item,
      skipFault?_itemsWithin depth items]
    rfl

theorem skipFault?_membersWithin
    (depth : Nat) :
    (members : List (String × Json)) → (membersWithin depth members).skipFault? = none
  | [] => rfl
  | (_, value) :: members => by
    rw [membersWithin, Members.skipFault?, skipFault?_treeWithin depth value,
      skipFault?_membersWithin depth members]
    rfl

end

theorem itemsWithin_eq
    {depth : Nat} {items : List Json}
    (each : ∀ item ∈ items, treeWithin depth item = Tree.ofJson item.reread) :
    itemsWithin depth items = Items.ofList (rereadItems items) := by
  induction items with
  | nil => rfl
  | cons item items inductionHypothesis =>
    rw [itemsWithin, each item List.mem_cons_self, rereadItems, Items.ofList,
      inductionHypothesis fun other member => each other (List.mem_cons_of_mem item member)]

theorem membersWithin_eq
    {depth : Nat} {members : List (String × Json)}
    (each : ∀ member ∈ members, treeWithin depth member.2 = Tree.ofJson member.2.reread) :
    membersWithin depth members = Members.ofList (rereadMembers members) := by
  induction members with
  | nil => rfl
  | cons member members inductionHypothesis =>
    obtain ⟨key, value⟩ := member
    have first : treeWithin depth value = Tree.ofJson value.reread :=
      each (key, value) List.mem_cons_self
    rw [membersWithin, first, rereadMembers, Members.ofList,
      inductionHypothesis fun other member => each other (List.mem_cons_of_mem _ member)]

/-- Of a value that fits nothing is barred. -/
theorem Fits.treeWithin_eq
    {depth : Nat} {json : Json}
    (fits : Fits depth json) :
    treeWithin depth json = Tree.ofJson json.reread := by
  induction fits with
  | null => rfl
  | bool value => rfl
  | number sound => rfl
  | text value => rfl
  | list _ each =>
    rw [treeWithin, if_neg (Nat.succ_ne_zero _), Nat.add_sub_cancel, itemsWithin_eq each]
    rfl
  | object _ each =>
    rw [treeWithin, if_neg (Nat.succ_ne_zero _), Nat.add_sub_cancel, membersWithin_eq each]
    rfl

theorem read_of_mem_itemsWithin
    {depth : Nat} {items : List Json} {jsons : List Json} {item : Json}
    (read : (itemsWithin depth items).toJsons = .ok jsons) (member : item ∈ items) :
    ∃ json, (treeWithin depth item).toJson = .ok json := by
  induction items generalizing jsons with
  | nil => cases member
  | cons first items inductionHypothesis =>
    obtain ⟨json, firstRead, others⟩ := Results.bind_eq_ok_iff.mp read
    obtain ⟨_, restRead, _⟩ := Results.bind_eq_ok_iff.mp others
    rcases List.mem_cons.mp member with rfl | inRest
    · exact ⟨json, firstRead⟩
    · exact inductionHypothesis restRead inRest

theorem read_of_mem_membersWithin
    {depth : Nat} {members : List (String × Json)} {pairs : List (String × Json)}
    {member : String × Json}
    (read : (membersWithin depth members).toJsons = .ok pairs) (inMembers : member ∈ members) :
    ∃ json, (treeWithin depth member.2).toJson = .ok json := by
  induction members generalizing pairs with
  | nil => cases inMembers
  | cons first members inductionHypothesis =>
    obtain ⟨_, _, others⟩ := Results.bind_eq_ok_iff.mp read
    obtain ⟨json, firstRead, others⟩ := Results.bind_eq_ok_iff.mp others
    obtain ⟨_, restRead, _⟩ := Results.bind_eq_ok_iff.mp others
    rcases List.mem_cons.mp inMembers with rfl | inRest
    · exact ⟨json, firstRead⟩
    · exact inductionHypothesis restRead inRest

/-- A value that can be read at some depth fits there. -/
theorem Fits.of_read
    {depth : Nat} {json value : Json}
    (sound : json.IsSound) (read : (treeWithin depth json).toJson = .ok value) :
    Fits depth json := by
  obtain ⟨_, fits⟩ := sound
  induction fits generalizing depth value with
  | null => exact .null
  | bool truth => exact .bool truth
  | number sound => exact .number sound
  | text text => exact .text text
  | list _ each =>
    obtain ⟨jsons, itemsRead, _⟩ := Results.map_eq_ok_iff.mp read
    -- at depth zero the list is barred, and no value can be read from it
    cases depth with
    | zero => cases itemsRead
    | succ depth =>
      refine .list fun item member => ?_
      obtain ⟨json, itemRead⟩ := read_of_mem_itemsWithin itemsRead member
      exact each item member itemRead
  | object _ each =>
    obtain ⟨pairs, membersRead, _⟩ := Results.map_eq_ok_iff.mp read
    cases depth with
    | zero => cases membersRead
    | succ depth =>
      refine .object fun member inMembers => ?_
      obtain ⟨json, memberRead⟩ := read_of_mem_membersWithin membersRead inMembers
      exact each member inMembers memberRead

end TestGate.Json
