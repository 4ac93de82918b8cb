import TestGate.Proofs.VersionOrder

/-!
What comparing versions means. The first component in which two versions differ decides, where
missing components count as zeros. Main statement: comparing is a total preorder with `0` at its
bottom, it calls versions equal exactly when they differ in zeros at their ends, and the earliest
version of a list does not depend on the order of the list.
-/

namespace TestGate.Version

/-! ## The first difference -/

/-- Where two rows of components differ first, the smaller component decides. -/
theorem compareComponents_eq_lt_iff
    (left right : List UInt64) :
    compareComponents left right = .lt ↔
      ∃ place, (∀ before < place, left.getD before 0 = right.getD before 0) ∧
        left.getD place 0 < right.getD place 0 := by
  -- the shorter row goes on with zeros, so the induction is on a bound of both lengths
  obtain ⟨bound, within⟩ : ∃ bound, left.length ≤ bound ∧ right.length ≤ bound :=
    ⟨left.length + right.length, by omega⟩
  induction bound generalizing left right with
  | zero =>
    obtain ⟨rfl, rfl⟩ : left = [] ∧ right = [] := by simpa using within
    refine iff_of_false (by decide) ?_
    rintro ⟨place, _, smaller⟩
    simp at smaller
  | succ bound inductionHypothesis =>
    have tails := inductionHypothesis left.tail right.tail (by simp only [List.length_tail]; omega)
    have head : ∀ row : List UInt64, row.headD 0 = row.getD 0 0 := by
      rintro (_ | ⟨first, rest⟩) <;> rfl
    have later : ∀ (row : List UInt64) (place : Nat),
        row.tail.getD place 0 = row.getD (place + 1) 0 := by
      rintro (_ | ⟨first, rest⟩) place <;> rfl
    simp only [later] at tails
    rw [compareComponents_step, Ordering.then_eq_lt, tails, head, head, Std.compare_eq_lt,
      Std.LawfulEqOrd.compare_eq_iff_eq]
    constructor
    · rintro (smaller | ⟨same, place, agree, smaller⟩)
      · exact ⟨0, nofun, smaller⟩
      · refine ⟨place + 1, fun before early => ?_, smaller⟩
        cases before with
        | zero => exact same
        | succ before => exact agree before (Nat.lt_of_succ_lt_succ early)
    · rintro ⟨place, agree, smaller⟩
      cases place with
      | zero => exact Or.inl smaller
      | succ place =>
        refine Or.inr ⟨agree 0 (Nat.succ_pos place), place, fun before early => ?_, smaller⟩
        exact agree (before + 1) (Nat.succ_lt_succ early)

/-- The component of a version at a place; missing ones are zeros. -/
def component (version : Version) (place : Nat) : UInt64 :=
  version.components.getD place 0

theorem before_iff_first_difference
    {left right : Version} :
    left.before right = true ↔
      ∃ place, (∀ earlier < place, left.component earlier = right.component earlier) ∧
        left.component place < right.component place :=
  beq_iff_eq.trans (compareComponents_eq_lt_iff _ _)

/-! ## Zeros at the end -/

/-- A version with zeros written behind it. -/
def padded (version : Version) (zeros : Nat) : Version where
  components := version.components ++ List.replicate zeros 0
  ne_nil := by simp [version.ne_nil]

theorem padded_equivalent
    (version : Version) (zeros : Nat) :
    (version.padded zeros).equivalent version = true := by
  rw [equivalent_iff, padded, List.rdropWhile, List.rdropWhile, List.reverse_append,
    List.reverse_replicate, List.dropWhile_append_of_pos]
  intro component member
  rw [List.eq_of_mem_replicate member]
  rfl

theorem compare_padded
    (left right : Version) (zeros others : Nat) :
    compare (left.padded zeros) (right.padded others) = compare left right := by
  rw [(compare_congr (left.padded_equivalent zeros) _).1,
    (compare_congr (right.padded_equivalent others) _).2]

/-! ## Order and equality -/

theorem equivalent_iff_atMost
    {left right : Version} :
    left.equivalent right = true ↔ left.atMost right = true ∧ right.atMost left = true := by
  rw [equivalent, atMost, atMost, Std.OrientedOrd.eq_swap (a := right)]
  cases compare left right <;> decide

theorem atMost_total
    (left right : Version) :
    left.atMost right = true ∨ right.atMost left = true := by
  rw [atMost, atMost, Std.OrientedOrd.eq_swap (a := right)]
  cases compare left right <;> decide

/-! ## The earliest version of a list -/

/-- Whether a version is an earliest one of a list: it stands there and lies at or below all. -/
structure IsEarliest (version : Version) (versions : List Version) : Prop where
  member : version ∈ versions
  below : ∀ other ∈ versions, version.atMost other = true

theorem earlier_mem
    (left right : Version) :
    earlier left right = left ∨ earlier left right = right := by
  rw [earlier]
  split
  · exact Or.inr rfl
  · exact Or.inl rfl

theorem foldl_earlier_mem
    (first : Version) (versions : List Version) :
    versions.foldl earlier first ∈ first :: versions := by
  induction versions generalizing first with
  | nil => exact List.mem_singleton_self first
  | cons next rest inductionHypothesis =>
    rcases List.mem_cons.mp (inductionHypothesis (earlier first next)) with isHead | inRest
    · rw [List.foldl_cons, isHead]
      rcases earlier_mem first next with isFirst | isNext
      · rw [isFirst]
        exact List.mem_cons_self
      · rw [isNext]
        exact List.mem_cons_of_mem _ List.mem_cons_self
    · exact List.mem_cons_of_mem _ (List.mem_cons_of_mem _ inRest)

theorem isEarliest_of_earliest?
    {versions : List Version} {version : Version}
    (found : earliest? versions = some version) :
    version.IsEarliest versions := by
  cases versions with
  | nil => cases found
  | cons first rest =>
    cases found
    refine ⟨foldl_earlier_mem first rest, fun other member => ?_⟩
    exact foldl_earlier_atMost_iff.mpr ⟨other, member, atMost_refl other⟩

/-- Lists of the same versions have equivalent earliest versions. -/
theorem IsEarliest.equivalent_of_perm
    {version other : Version} {versions permuted : List Version}
    (permutation : versions.Perm permuted) (earliest : version.IsEarliest versions)
    (alsoEarliest : other.IsEarliest permuted) :
    version.equivalent other = true :=
  equivalent_iff_atMost.mpr
    ⟨earliest.below other (permutation.mem_iff.mpr alsoEarliest.member),
      alsoEarliest.below version (permutation.mem_iff.mp earliest.member)⟩

theorem exists_earliest?
    {versions : List Version}
    (nonempty : versions ≠ []) :
    ∃ version, earliest? versions = some version :=
  Option.ne_none_iff_exists'.mp fun none => nonempty (earliest?_eq_none_iff.mp none)

/-! ## The laws of comparing -/

/-- Comparing is a total preorder that looks at the first difference and at nothing behind it but
the zeros that a version leaves out; equality, order and the earliest version go by it alike. -/
theorem comparing_is_total_preorder
    (first second third : Version) {versions permuted : List Version} (nonempty : versions ≠ [])
    (permutation : versions.Perm permuted) :
    (compare first first = .eq ∧ compare second first = (compare first second).swap ∧
        ((compare first second).isLE = true → (compare second third).isLE = true →
          (compare first third).isLE = true)) ∧
      (first.equivalent second = true ↔
        first.components.rdropWhile (· == 0) = second.components.rdropWhile (· == 0)) ∧
      (∀ zeros others,
        compare (first.padded zeros) (second.padded others) = compare first second) ∧
      (zero.atMost first = true ∧ (first.atMost second = true ∨ second.atMost first = true)) ∧
      ((first.before second = true ↔
          ∃ place, (∀ earlier < place, first.component earlier = second.component earlier) ∧
            first.component place < second.component place) ∧
        (first.before second = true ↔ ¬ second.atMost first = true) ∧
        (first.equivalent second = true ↔
          first.atMost second = true ∧ second.atMost first = true) ∧
        (first.equivalent second = true →
          compare first third = compare second third ∧
            compare third first = compare third second)) ∧
      (earlier first second).IsEarliest [first, second] ∧
      ∃ version other, earliest? versions = some version ∧ earliest? permuted = some other ∧
        version.IsEarliest versions ∧ version.equivalent other = true := by
  refine ⟨⟨Std.ReflCmp.compare_self, Std.OrientedOrd.eq_swap, Std.TransOrd.isLE_trans⟩,
    equivalent_iff, compare_padded first second, ⟨zero_atMost first, atMost_total first second⟩,
    ⟨before_iff_first_difference, ?_, equivalent_iff_atMost, fun same => compare_congr same third⟩,
    isEarliest_of_earliest? rfl, ?_⟩
  · rw [before_eq_not_atMost, Bool.not_eq_true', Bool.not_eq_true]
  · have alsoNonempty : permuted ≠ [] := by
      rintro rfl
      exact nonempty permutation.eq_nil
    obtain ⟨version, found⟩ := exists_earliest? nonempty
    obtain ⟨other, otherFound⟩ := exists_earliest? alsoNonempty
    have earliest := isEarliest_of_earliest? found
    exact ⟨version, other, found, otherFound, earliest,
      earliest.equivalent_of_perm permutation (isEarliest_of_earliest? otherFound)⟩

/-- Two spellings of a version, and a later one: the earliest of the three is one of the two. -/
theorem comparing_is_total_preorder_twoSpellings :
    let long : Version := { components := [6, 9, 0] }
    let short : Version := { components := [6, 9] }
    let later : Version := { components := [6, 10] }
    [later, long, short].Perm [short, long, later] ∧
      ∃ version other, earliest? [later, long, short] = some version ∧
        earliest? [short, long, later] = some other ∧
        version.IsEarliest [later, long, short] ∧ version.equivalent other = true := by
  intro long short later
  have permutation : [later, long, short].Perm [short, long, later] := by decide
  obtain ⟨_, _, _, _, _, _, same⟩ :=
    comparing_is_total_preorder long short later (List.cons_ne_nil _ _) permutation
  exact ⟨permutation, same⟩

end TestGate.Version
