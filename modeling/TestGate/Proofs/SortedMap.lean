import Mathlib.Data.List.Nodup
import TestGate.SortedMap

/-!
More about finite maps: a map is what its look-ups say, and the maps built from lists of pairs hold
exactly these pairs when no key repeats.
-/

namespace TestGate.SortedMap

universe u v

variable {κ : Type u} {α : Type v} [Ord κ]

/-! ## Entries and look-ups -/

theorem compare_eq_iff
    [Std.TransOrd κ] [Std.LawfulEqOrd κ]
    {left right : κ} :
    compare left right = .eq ↔ left = right :=
  ⟨Std.LawfulEqCmp.eq_of_compare, fun equality => equality ▸ Std.ReflCmp.compare_self⟩

theorem find?_eq_some_iff
    [Std.TransOrd κ] [Std.LawfulEqOrd κ]
    (map : SortedMap κ α) (key : κ) (value : α) :
    map.find? key = some value ↔ (key, value) ∈ map.entries := by
  obtain ⟨entries, increasing⟩ := map
  simp only [find?]
  induction entries with
  | nil => simp
  | cons head rest inductionHypothesis =>
    obtain ⟨headBelow, restIncreasing⟩ := List.pairwise_cons.mp increasing
    rw [find?_cons]
    by_cases same : key = head.1
    · subst same
      rw [if_pos Std.ReflCmp.compare_self]
      simp only [Option.map_some, Option.some.injEq, List.mem_cons]
      constructor
      · rintro rfl
        exact Or.inl rfl
      · rintro (equality | inRest)
        · exact congrArg Prod.snd equality.symm
        · have below := headBelow _ inRest
          simp at below
    · have unequal : compare key head.1 ≠ .eq := fun equality =>
        same (compare_eq_iff.mp equality)
      rw [if_neg unequal, inductionHypothesis restIncreasing, List.mem_cons]
      constructor
      · exact Or.inr
      · rintro (equality | inRest)
        · exact absurd (congrArg Prod.fst equality) same
        · exact inRest

theorem contains_iff
    (map : SortedMap κ α) (key : κ) :
    map.contains key = true ↔ ∃ value, map.find? key = some value := by
  simp [contains, Option.isSome_iff_exists]

theorem keys_nodup
    [Std.TransOrd κ]
    (map : SortedMap κ α) :
    (map.entries.map Prod.fst).Nodup := by
  rw [List.Nodup, List.pairwise_map]
  refine map.increasing.imp fun {earlier later} below equality => ?_
  rw [equality] at below
  simp at below

/-- Maps with the same look-ups are equal. -/
theorem ext_find?
    [Std.TransOrd κ] [Std.LawfulEqOrd κ]
    {left right : SortedMap κ α}
    (agree : ∀ key, left.find? key = right.find? key) :
    left = right := by
  apply ext_entries
  have sameMembers : ∀ entry, entry ∈ left.entries ↔ entry ∈ right.entries := by
    rintro ⟨key, value⟩
    rw [← find?_eq_some_iff, ← find?_eq_some_iff, agree]
  have leftNodup : left.entries.Nodup := List.Nodup.of_map _ left.keys_nodup
  have rightNodup : right.entries.Nodup := List.Nodup.of_map _ right.keys_nodup
  have permutation : left.entries.Perm right.entries :=
    (List.perm_ext_iff_of_nodup leftNodup rightNodup).mpr sameMembers
  refine permutation.eq_of_pairwise ?_ left.increasing right.increasing
  intro earlier later _ _ below above
  have opposite := Std.OrientedCmp.gt_of_lt above
  rw [below] at opposite
  cases opposite

/-! ## Changes -/

theorem find?_alter
    [Std.TransOrd κ] [Std.LawfulEqOrd κ] [DecidableEq κ]
    (map : SortedMap κ α) (key other : κ) (change : Option α → α) :
    (map.alter key change).find? other =
      if other = key then some (change (map.find? key)) else map.find? other := by
  split
  · rename_i same
    rw [same, find?_alter_self]
  · rename_i different
    exact find?_alter_of_ne map change different

theorem find?_insert
    [Std.TransOrd κ] [Std.LawfulEqOrd κ] [DecidableEq κ]
    (map : SortedMap κ α) (key other : κ) (value : α) :
    (map.insert key value).find? other = if other = key then some value else map.find? other :=
  find?_alter map key other _

/-! ## Maps from lists of pairs -/

section Pairs

variable [Std.TransOrd κ] [Std.LawfulEqOrd κ] [DecidableEq κ]

/-- Inserting pairs one after another: the last pair with a key counts. -/
theorem find?_foldl_insert
    (pairs : List (κ × α)) (map : SortedMap κ α) (key : κ) :
    (pairs.foldl (fun map pair => map.insert pair.1 pair.2) map).find? key =
      ((pairs.reverse.find? fun pair => pair.1 = key).map Prod.snd).or (map.find? key) := by
  induction pairs generalizing map with
  | nil => simp
  | cons pair rest inductionHypothesis =>
    rw [List.foldl_cons, inductionHypothesis, find?_insert, List.reverse_cons, List.find?_append]
    cases found : rest.reverse.find? fun pair => pair.1 = key with
    | some last => simp
    | none =>
      by_cases same : pair.1 = key
      · simp [same]
      · simp [same, Ne.symm same]

theorem mem_of_find?_ofList
    {pairs : List (κ × α)} {key : κ} {value : α}
    (found : (ofList pairs).find? key = some value) :
    (key, value) ∈ pairs := by
  rw [ofList, find?_foldl_insert, find?_empty, Option.or_none, Option.map_eq_some_iff] at found
  obtain ⟨pair, last, rfl⟩ := found
  have member := List.mem_of_find?_eq_some last
  have same := List.find?_some last
  simp only [decide_eq_true_eq] at same
  rw [← same]
  simpa using member

theorem find?_ofList_isSome
    {pairs : List (κ × α)} {pair : κ × α}
    (member : pair ∈ pairs) :
    ((ofList pairs).find? pair.1).isSome = true := by
  rw [ofList, find?_foldl_insert, find?_empty, Option.or_none, Option.isSome_map,
    List.find?_isSome]
  exact ⟨pair, List.mem_reverse.mpr member, by simp⟩

theorem find?_ofList_eq_some_iff
    {pairs : List (κ × α)}
    (distinctKeys : (pairs.map Prod.fst).Nodup) (key : κ) (value : α) :
    (ofList pairs).find? key = some value ↔ (key, value) ∈ pairs := by
  refine ⟨mem_of_find?_ofList, fun member => ?_⟩
  obtain ⟨other, found⟩ := Option.isSome_iff_exists.mp (find?_ofList_isSome member)
  have otherMember := mem_of_find?_ofList found
  have same : ((key, value) : κ × α) = (key, other) :=
    List.inj_on_of_nodup_map distinctKeys member otherMember rfl
  rw [found, (Prod.mk.inj same).2]

/-- A map is built from its entries in any order, each any number of times. -/
theorem ofList_eq_of_mem_iff
    {map : SortedMap κ α} {pairs : List (κ × α)}
    (same : ∀ key value, (key, value) ∈ pairs ↔ map.find? key = some value) :
    ofList pairs = map := by
  apply ext_find?
  intro key
  apply Option.ext
  intro value
  constructor
  · exact fun found => (same key value).mp (mem_of_find?_ofList found)
  · intro found
    obtain ⟨other, otherFound⟩ :=
      Option.isSome_iff_exists.mp (find?_ofList_isSome ((same key value).mpr found))
    have otherInMap := (same key other).mp (mem_of_find?_ofList otherFound)
    rw [found, Option.some.injEq] at otherInMap
    rw [otherFound, otherInMap]

/-- A map from pairs with changed values is the map from the pairs, with changed values. -/
theorem ofList_map
    {β : Type*} (change : α → β) (pairs : List (κ × α)) :
    ofList (pairs.map fun pair => (pair.1, change pair.2)) =
      (ofList pairs).mapValues fun _ value => change value := by
  apply ext_find?
  intro key
  rw [find?_mapValues, ofList, ofList, find?_foldl_insert, find?_foldl_insert, find?_empty,
    find?_empty, Option.or_none, Option.or_none, ← List.map_reverse, List.find?_map, Option.map_map,
    Option.map_map]
  rfl

theorem ofList_entries
    (map : SortedMap κ α) :
    ofList map.entries = map :=
  ofList_eq_of_mem_iff fun key value => (find?_eq_some_iff map key value).symm

theorem find?_insertAll
    (map other : SortedMap κ α) (key : κ) :
    (map.insertAll other).find? key = (other.find? key).or (map.find? key) := by
  rw [insertAll, find?_foldl_insert]
  congr 1
  apply Option.ext
  intro value
  rw [find?_eq_some_iff, Option.map_eq_some_iff]
  constructor
  · rintro ⟨pair, last, rfl⟩
    have member := List.mem_of_find?_eq_some last
    have same := List.find?_some last
    simp only [decide_eq_true_eq] at same
    rw [← same]
    simpa using member
  · intro member
    have present : (other.entries.reverse.find? fun pair => pair.1 = key).isSome = true := by
      rw [List.find?_isSome]
      exact ⟨(key, value), List.mem_reverse.mpr member, by simp⟩
    obtain ⟨pair, last⟩ := Option.isSome_iff_exists.mp present
    have pairMember : pair ∈ other.entries := by
      simpa using List.mem_of_find?_eq_some last
    have same := List.find?_some last
    simp only [decide_eq_true_eq] at same
    have equality : pair = (key, value) :=
      List.inj_on_of_nodup_map other.keys_nodup pairMember member same
    exact ⟨pair, last, by rw [equality]⟩

theorem empty_insertAll
    (map : SortedMap κ α) :
    empty.insertAll map = map := by
  apply ext_find?
  intro key
  rw [find?_insertAll, find?_empty, Option.or_none]

theorem insertAll_self
    (map : SortedMap κ α) :
    map.insertAll map = map := by
  apply ext_find?
  intro key
  rw [find?_insertAll, Option.or_self]

/-- Of several maps put over one another the last one that has a key counts. -/
theorem find?_foldl_insertAll
    (maps : List (SortedMap κ α)) (map : SortedMap κ α) (key : κ) :
    (maps.foldl insertAll map).find? key =
      (maps.reverse.findSome? fun other => other.find? key).or (map.find? key) := by
  induction maps generalizing map with
  | nil => rfl
  | cons other rest inductionHypothesis =>
    rw [List.foldl_cons, inductionHypothesis, find?_insertAll, List.reverse_cons,
      List.findSome?_append, List.findSome?_singleton, Option.or_assoc]

theorem mem_distinct
    (keys : List κ) (key : κ) :
    key ∈ distinct keys ↔ key ∈ keys := by
  rw [distinct, SortedMap.keys, List.mem_map]
  constructor
  · rintro ⟨⟨other, _⟩, member, rfl⟩
    rw [← find?_eq_some_iff] at member
    have inPairs := mem_of_find?_ofList member
    simpa using inPairs
  · intro member
    have inPairs : (key, ()) ∈ keys.map fun key => (key, ()) :=
      List.mem_map.mpr ⟨key, member, rfl⟩
    obtain ⟨value, found⟩ := Option.isSome_iff_exists.mp (find?_ofList_isSome inPairs)
    exact ⟨(key, value), (find?_eq_some_iff _ _ _).mp found, rfl⟩

end Pairs

end TestGate.SortedMap
