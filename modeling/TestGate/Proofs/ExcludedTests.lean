import TestGate.Proofs.CollectedUses

/-!
Tests that are left out of a collection. They stay in its list, with their guards, but what is
collected about the other tests and about issues does not depend on them. Main statement: a manifest
from which they are deleted gives the same index and the same other tests.
-/

namespace TestGate

open Issue

namespace Manifest

/-- The manifest without its excluded tests. -/
def withoutExcluded (manifest : Manifest) (prefixes : List String) : Manifest :=
  { manifest with items := manifest.includedItems prefixes }

variable {manifest : Manifest} {prefixes : List String}

/-! ## The index -/

/-- The index is made of the modules and of the tests that are not excluded. -/
theorem index_congr
    {other : Manifest} (modules : manifest.modules = other.modules)
    (included : manifest.includedItems prefixes = other.includedItems prefixes) :
    manifest.index prefixes = other.index prefixes := by
  have sameModule : manifest.module? = other.module? := by
    funext name
    rw [module?, module?, modules]
  have sameUsages : manifest.itemUsages = other.itemUsages := by
    funext item
    simp only [itemUsages, component?, importance?, docstrings, sameModule]
  rw [index, index, usedModules, usedModules, included, sameUsages, sameModule]

theorem includedItems_withoutExcluded
    (manifest : Manifest) (prefixes : List String) :
    (manifest.withoutExcluded prefixes).includedItems prefixes = manifest.includedItems prefixes := by
  simp only [withoutExcluded, includedItems, List.filter_filter, Bool.and_self]

/-! ## The tests -/

/-- What a collected test has in common with the test it is made from. -/
structure IsCollectedAs (prefixes : List String) (test : TestItem) (item : CollectedItem) : Prop where
  nodeId : item.nodeId = test.nodeId
  location : item.location = test.location
  excluded : item.excluded = test.isExcluded prefixes

theorem isCollectedAs_of_collectItem
    {test : TestItem} {item : CollectedItem}
    (collected : manifest.collectItem prefixes test = .ok item) :
    IsCollectedAs prefixes test item := by
  rw [collectItem] at collected
  split at collected
  · cases collected
  · split at collected
    · rename_i excluded
      cases collected
      exact ⟨rfl, rfl, excluded.symm⟩
    · rename_i included
      cases collected
      exact ⟨rfl, rfl, (Bool.eq_false_iff.mpr included).symm⟩

theorem unmarked_of_collectItem
    {test : TestItem} {item : CollectedItem}
    (collected : manifest.collectItem prefixes test = .ok item) (excluded : item.excluded = true) :
    (∀ tracker, item.marks tracker = []) ∧ item.primary = none := by
  have isExcluded := (isCollectedAs_of_collectItem collected).excluded.symm.trans excluded
  rw [collectItem, if_pos isExcluded] at collected
  split at collected
  · cases collected
  · cases collected
    exact ⟨fun tracker => by cases tracker <;> rfl, rfl⟩

/-- What is collected about tests is collected about those of them that are not excluded. -/
theorem mapM_collectItem_filter
    {tests : List TestItem} {items : List CollectedItem}
    (collected : tests.mapM (manifest.collectItem prefixes) = .ok items) :
    (tests.filter fun test => !test.isExcluded prefixes).mapM (manifest.collectItem prefixes) =
      .ok (items.filter fun item => !item.excluded) := by
  rw [Results.mapM_eq_ok_iff] at collected ⊢
  refine List.rel_filter (fun test item itemCollected => ?_) collected
  have sameFlag := (isCollectedAs_of_collectItem itemCollected).excluded
  simp only [sameFlag]

end Manifest

/-- Where a manifest is collected, so is the manifest without its excluded tests. It gives the same
index and the same tests but for the excluded ones. Each test is collected under its own id, and an
excluded one has no marks and no primary issue. -/
theorem excluded_tests_do_not_interfere
    {manifest : Manifest} {prefixes : List String} {collection : Collection}
    (collected : manifest.collect prefixes = .ok collection) :
    (∃ remaining, (manifest.withoutExcluded prefixes).collect prefixes = .ok remaining ∧
      remaining.index = collection.index ∧
      remaining.items = collection.items.filter fun item => !item.excluded) ∧
    List.Forall₂ (Manifest.IsCollectedAs prefixes) manifest.items collection.items ∧
    ∀ item ∈ collection.items, item.excluded = true →
      item.bugzillaMarks = [] ∧ item.jiraMarks = [] ∧ item.primary = none := by
  obtain ⟨items, itemsCollected, made⟩ := Results.bind_eq_ok_iff.mp collected
  cases made
  refine ⟨⟨⟨manifest.index prefixes, items.filter fun item => !item.excluded⟩, ?_, rfl, rfl⟩, ?_, ?_⟩
  · have sameIndex : (manifest.withoutExcluded prefixes).index prefixes = manifest.index prefixes :=
      Manifest.index_congr rfl (manifest.includedItems_withoutExcluded prefixes)
    exact Results.bind_eq_ok_iff.mpr
      ⟨_, Manifest.mapM_collectItem_filter itemsCollected, by rw [sameIndex]; rfl⟩
  · exact (Results.mapM_eq_ok_iff.mp itemsCollected).imp
      fun _ _ => Manifest.isCollectedAs_of_collectItem
  · intro item member excluded
    obtain ⟨test, _, itemCollected⟩ := Results.mem_of_mapM_eq_ok itemsCollected member
    obtain ⟨unmarked, noPrimary⟩ := Manifest.unmarked_of_collectItem itemCollected excluded
    exact ⟨unmarked .bugzilla, unmarked .jira, noPrimary⟩

theorem excluded_tests_do_not_interfere_guardedModule :
    let leftOut : CollectedItem :=
      { nodeId := "unit/b", location := ⟨"m.py", 1, "b"⟩, excluded := true }
    let other : CollectedItem :=
      { nodeId := "a", location := ⟨"m.py", 9, "a"⟩, bugzillaMarks := ["7"]
        guard := some ⟨.bugzilla, "7"⟩, primary := some ⟨.bugzilla, "7"⟩ }
    ∃ collection remaining,
      guardedModule.collect ["unit/"] = .ok collection ∧
        (guardedModule.withoutExcluded ["unit/"]).collect ["unit/"] = .ok remaining ∧
        remaining.index = collection.index ∧
        collection.items = [leftOut, other] ∧ remaining.items = [other] := by
  intro leftOut other
  have items : (guardedModule.collect ["unit/"]).toOption.map Collection.items =
      some [leftOut, other] := by
    decide +kernel
  obtain ⟨collection, isCollected, items⟩ := Option.map_eq_some_iff.mp items
  have collected := Results.toOption_eq_some_iff.mp isCollected
  obtain ⟨⟨remaining, again, sameIndex, others⟩, _⟩ := excluded_tests_do_not_interfere collected
  refine ⟨collection, remaining, collected, again, sameIndex, items, ?_⟩
  rw [others, items]
  rfl

end TestGate
