/-!
Finite maps kept as lists of entries whose keys rise strictly, so that two maps with the same
bindings are equal and are listed in the same order. Main statements: a look-up after a change sees
the change at its key and nothing at any other key.
-/

namespace TestGate

universe u v w

/-- A finite map: entries whose keys rise strictly. -/
structure SortedMap (κ : Type u) (α : Type v) [Ord κ] where
  entries : List (κ × α)
  increasing : entries.Pairwise fun earlier later => compare earlier.1 later.1 = .lt

namespace SortedMap

section Entries

variable {κ : Type u} {α : Type v} [Ord κ]

/-- Replaces the value at `key` by what `change` makes of it; `none` stands for a missing one. -/
def alterEntries (key : κ) (change : Option α → α) : List (κ × α) → List (κ × α)
  | [] => [(key, change none)]
  | entry :: rest =>
    match compare key entry.1 with
    | .lt => (key, change none) :: entry :: rest
    | .eq => (entry.1, change (some entry.2)) :: rest
    | .gt => entry :: alterEntries key change rest

theorem compare_of_mem_alterEntries
    [Std.TransOrd κ]
    {key lower : κ} {change : Option α → α} {entries : List (κ × α)} {entry : κ × α}
    (below : compare lower key = .lt)
    (allBelow : ∀ each ∈ entries, compare lower each.1 = .lt)
    (member : entry ∈ alterEntries key change entries) :
    compare lower entry.1 = .lt := by
  induction entries with
  | nil =>
    simp only [alterEntries, List.mem_singleton] at member
    simpa [member] using below
  | cons head rest inductionHypothesis =>
    unfold alterEntries at member
    split at member
    · rcases List.mem_cons.mp member with rfl | inRest
      · exact below
      · exact allBelow _ inRest
    · rcases List.mem_cons.mp member with rfl | inRest
      · exact allBelow head List.mem_cons_self
      · exact allBelow _ (List.mem_cons_of_mem _ inRest)
    · rcases List.mem_cons.mp member with rfl | inRest
      · exact allBelow _ List.mem_cons_self
      · exact inductionHypothesis
          (fun each inEach => allBelow each (List.mem_cons_of_mem _ inEach)) inRest

theorem pairwise_alterEntries
    [Std.TransOrd κ]
    {key : κ} {change : Option α → α} {entries : List (κ × α)}
    (increasing : entries.Pairwise fun earlier later => compare earlier.1 later.1 = .lt) :
    (alterEntries key change entries).Pairwise
      fun earlier later => compare earlier.1 later.1 = .lt := by
  induction entries with
  | nil => simp [alterEntries]
  | cons head rest inductionHypothesis =>
    obtain ⟨headBelow, restIncreasing⟩ := List.pairwise_cons.mp increasing
    unfold alterEntries
    split
    · rename_i below
      refine List.pairwise_cons.mpr ⟨fun each member => ?_, increasing⟩
      rcases List.mem_cons.mp member with rfl | inRest
      · exact below
      · exact Std.TransCmp.lt_trans below (headBelow each inRest)
    · exact List.pairwise_cons.mpr ⟨headBelow, restIncreasing⟩
    · rename_i above
      refine List.pairwise_cons.mpr ⟨fun each member => ?_, inductionHypothesis restIncreasing⟩
      exact compare_of_mem_alterEntries
        (Std.OrientedCmp.lt_of_gt above) headBelow member

end Entries

variable {κ : Type u} {α : Type v} {β : Type w} [Ord κ]

def empty : SortedMap κ α where
  entries := []
  increasing := List.Pairwise.nil

instance : Inhabited (SortedMap κ α) := ⟨empty⟩
instance : EmptyCollection (SortedMap κ α) := ⟨empty⟩

/-- Two maps are the same when their entries are. -/
instance [BEq κ] [BEq α] : BEq (SortedMap κ α) := ⟨fun left right => left.entries == right.entries⟩

/-- The value at `key`. -/
def find? (map : SortedMap κ α) (key : κ) : Option α :=
  (map.entries.find? fun entry => compare key entry.1 == .eq).map (·.2)

/-- Whether `key` has a value. -/
def contains (map : SortedMap κ α) (key : κ) : Bool :=
  (map.find? key).isSome

/-- The keys, in rising order. -/
def keys (map : SortedMap κ α) : List κ :=
  map.entries.map (·.1)

def size (map : SortedMap κ α) : Nat :=
  map.entries.length

def isEmpty (map : SortedMap κ α) : Bool :=
  map.entries.isEmpty

/-- Puts at `key` what `change` makes of the value there; `none` stands for a missing one. -/
def alter [Std.TransOrd κ] (map : SortedMap κ α) (key : κ) (change : Option α → α) :
    SortedMap κ α where
  entries := alterEntries key change map.entries
  increasing := pairwise_alterEntries map.increasing

/-- Puts `value` at `key`. -/
def insert [Std.TransOrd κ] (map : SortedMap κ α) (key : κ) (value : α) : SortedMap κ α :=
  map.alter key fun _ => value

/-- The map of all pairs; of two pairs with one key the later counts. -/
def ofList [Std.TransOrd κ] (pairs : List (κ × α)) : SortedMap κ α :=
  pairs.foldl (fun map pair => map.insert pair.1 pair.2) empty

/-- The entries of `other` put over those of `map`. -/
def insertAll [Std.TransOrd κ] (map other : SortedMap κ α) : SortedMap κ α :=
  other.entries.foldl (fun merged entry => merged.insert entry.1 entry.2) map

/-- Replaces every value. -/
def mapValues (map : SortedMap κ α) (change : κ → α → β) : SortedMap κ β where
  entries := map.entries.map fun entry => (entry.1, change entry.1 entry.2)
  increasing := by
    simpa [List.pairwise_map] using map.increasing

/-- The keys in a list, in rising order and each once. -/
def distinct [Std.TransOrd κ] (keys : List κ) : List κ :=
  (ofList (keys.map fun key => (key, ()))).keys

/-! ## Look-ups after a change -/

theorem ext_entries
    {left right : SortedMap κ α}
    (equality : left.entries = right.entries) :
    left = right := by
  cases left
  cases right
  simp_all

@[simp] theorem find?_empty
    (key : κ) :
    (empty : SortedMap κ α).find? key = none := rfl

theorem find?_cons
    (entries : List (κ × α)) (entry : κ × α) (key : κ) :
    ((entry :: entries).find? fun each => compare key each.1 == .eq) =
      if compare key entry.1 = .eq then
        some entry
      else
        entries.find? fun each => compare key each.1 == .eq := by
  rw [List.find?_cons]
  by_cases same : compare key entry.1 = .eq
  · simp [same]
  · have unequal : (compare key entry.1 == .eq) = false := beq_eq_false_iff_ne.mpr same
    simp only [unequal, if_neg same]

theorem find?_eq_none_of_lt
    [Std.TransOrd κ]
    {entries : List (κ × α)} {key : κ}
    (allAbove : ∀ entry ∈ entries, compare key entry.1 = .lt) :
    (entries.find? fun entry => compare key entry.1 == .eq) = none := by
  rw [List.find?_eq_none]
  intro entry member
  simp [allAbove entry member]

@[simp] theorem find?_alter_self
    [Std.TransOrd κ] [Std.LawfulEqOrd κ]
    (map : SortedMap κ α) (key : κ) (change : Option α → α) :
    (map.alter key change).find? key = some (change (map.find? key)) := by
  obtain ⟨entries, increasing⟩ := map
  simp only [find?, alter]
  induction entries with
  | nil => simp [alterEntries]
  | cons head rest inductionHypothesis =>
    obtain ⟨headBelow, restIncreasing⟩ := List.pairwise_cons.mp increasing
    unfold alterEntries
    split
    · rename_i below
      have absent :
          ((head :: rest).find? fun entry => compare key entry.1 == .eq) = none :=
        find?_eq_none_of_lt fun entry member => by
          rcases List.mem_cons.mp member with rfl | inRest
          · exact below
          · exact Std.TransCmp.lt_trans below (headBelow entry inRest)
      rw [absent]
      simp
    · rename_i same
      simp [same]
    · rename_i above
      simp only [find?_cons, above, reduceCtorEq, ↓reduceIte]
      exact inductionHypothesis restIncreasing

theorem find?_alter_of_ne
    [Std.TransOrd κ] [Std.LawfulEqOrd κ]
    (map : SortedMap κ α) {key other : κ} (change : Option α → α)
    (different : other ≠ key) :
    (map.alter key change).find? other = map.find? other := by
  obtain ⟨entries, increasing⟩ := map
  have unequal : compare other key ≠ .eq := fun same =>
    different (Std.LawfulEqCmp.eq_of_compare same)
  simp only [find?, alter]
  induction entries with
  | nil => simp [alterEntries, unequal]
  | cons head rest inductionHypothesis =>
    obtain ⟨_, restIncreasing⟩ := List.pairwise_cons.mp increasing
    unfold alterEntries
    split
    · simp [find?_cons, unequal]
    · rename_i same
      have equality : key = head.1 := Std.LawfulEqCmp.eq_of_compare same
      simp [← equality, unequal]
    · simp only [find?_cons]
      split
      · rfl
      · exact inductionHypothesis restIncreasing

@[simp] theorem find?_insert_self
    [Std.TransOrd κ] [Std.LawfulEqOrd κ]
    (map : SortedMap κ α) (key : κ) (value : α) :
    (map.insert key value).find? key = some value := by
  simp [insert]

theorem find?_mapValues
    [Std.LawfulEqOrd κ]
    (map : SortedMap κ α) (change : κ → α → β) (key : κ) :
    (map.mapValues change).find? key = (map.find? key).map (change key) := by
  obtain ⟨entries, increasing⟩ := map
  simp only [find?, mapValues]
  induction entries with
  | nil => rfl
  | cons head rest inductionHypothesis =>
    obtain ⟨_, restIncreasing⟩ := List.pairwise_cons.mp increasing
    simp only [List.map_cons, find?_cons]
    split
    · rename_i same
      have equality : key = head.1 := Std.LawfulEqCmp.eq_of_compare same
      simp [← equality]
    · exact inductionHypothesis restIncreasing

end SortedMap

end TestGate
