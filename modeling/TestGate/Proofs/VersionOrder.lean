import Mathlib.Data.List.DropRight
import TestGate.Version

/-!
The order of versions. Comparing fills up the shorter version with zeros, so the order is total and
transitive, and it does not tell versions apart that are equal up to zeros at the end. Main
statements: versions are equivalent exactly when the same is left of them without these zeros; the
earliest version of a list lies at or below a bound exactly when some version of the list does.
-/

namespace TestGate.Version

/-! ## Comparing components -/

theorem compare_zero_left
    (component : UInt64) :
    compare 0 component = if component = 0 then .eq else .lt := by
  change compareOfLessAndEq 0 component = _
  rw [compareOfLessAndEq]
  by_cases isZero : component = 0
  · simp [isZero]
  · rw [if_pos (UInt64.pos_iff_ne_zero.mpr isZero), if_neg isZero]

theorem compare_zero_right
    (component : UInt64) :
    compare component 0 = if component = 0 then .eq else .gt := by
  change compareOfLessAndEq component 0 = _
  rw [compareOfLessAndEq, if_neg UInt64.not_lt_zero]

/-- Components are compared from the front, where missing ones count as zeros. -/
theorem compareComponents_step
    (left right : List UInt64) :
    compareComponents left right =
      (compare (left.headD 0) (right.headD 0)).then
        (compareComponents left.tail right.tail) := by
  cases left with
  | nil =>
    cases right with
    | nil => decide
    | cons first rest =>
      rw [List.headD_nil, List.headD_cons, List.tail_nil, List.tail_cons, compare_zero_left]
      by_cases isZero : first = 0
      · rw [if_pos isZero, isZero, compareComponents, compareComponents, List.all_cons,
          beq_self_eq_true, Bool.true_and, Ordering.eq_then]
      · simp [compareComponents, isZero]
  | cons first rest =>
    cases right with
    | nil =>
      rw [List.headD_nil, List.headD_cons, List.tail_nil, List.tail_cons, compare_zero_right]
      by_cases isZero : first = 0
      · cases rest <;> simp [compareComponents, isZero]
      · simp [compareComponents, isZero]
    | cons other others => rfl

theorem compareComponents_swap
    (left right : List UInt64) :
    compareComponents left right = (compareComponents right left).swap := by
  induction left generalizing right with
  | nil =>
    cases right with
    | nil => rfl
    | cons first rest =>
      rw [compareComponents, compareComponents]
      split <;> rfl
  | cons first rest inductionHypothesis =>
    cases right with
    | nil =>
      rw [compareComponents, compareComponents]
      split <;> rfl
    | cons other others =>
      rw [compareComponents, compareComponents, Ordering.swap_then, ← inductionHypothesis,
        Std.OrientedOrd.eq_swap (a := first)]

instance : Std.OrientedCmp compareComponents where
  eq_swap := compareComponents_swap _ _

theorem compareComponents_trans
    {first second third : List UInt64}
    (early : (compareComponents first second).isLE = true)
    (late : (compareComponents second third).isLE = true) :
    (compareComponents first third).isLE = true := by
  -- the shorter lists go on with zeros, so the induction is on a bound of all three lengths
  obtain ⟨bound, within⟩ : ∃ bound, first.length ≤ bound ∧ second.length ≤ bound ∧
      third.length ≤ bound :=
    ⟨first.length + second.length + third.length, by omega⟩
  induction bound generalizing first second third with
  | zero =>
    simp only [Nat.le_zero, List.length_eq_zero_iff] at within
    obtain ⟨rfl, rfl, rfl⟩ := within
    rfl
  | succ bound inductionHypothesis =>
    rw [compareComponents_step, Ordering.isLE_then_iff_and] at early late ⊢
    obtain ⟨headsEarly, tailsEarly⟩ := early
    obtain ⟨headsLate, tailsLate⟩ := late
    refine ⟨Std.TransOrd.isLE_trans headsEarly headsLate, ?_⟩
    rcases tailsEarly with below | tailsEarly
    · exact Or.inl (Std.TransCmp.lt_of_lt_of_isLE below headsLate)
    · rcases tailsLate with below | tailsLate
      · exact Or.inl (Std.TransCmp.lt_of_isLE_of_lt headsEarly below)
      · refine Or.inr (inductionHypothesis tailsEarly tailsLate ?_)
        simp only [List.length_tail]
        omega

instance : Std.TransCmp compareComponents where
  isLE_trans := compareComponents_trans

instance : Std.TransOrd Version where
  eq_swap := compareComponents_swap _ _
  isLE_trans := compareComponents_trans

/-! ## Equivalent versions -/

theorem rdropWhile_zero_cons
    (first : UInt64) (rest : List UInt64) :
    (first :: rest).rdropWhile (· == 0) =
      if rest.rdropWhile (· == 0) = [] then
        if first = 0 then [] else [first]
      else
        first :: rest.rdropWhile (· == 0) := by
  simp only [List.rdropWhile, List.reverse_cons, List.dropWhile_append, List.isEmpty_iff,
    List.reverse_eq_nil_iff]
  by_cases allZero : rest.reverse.dropWhile (· == 0) = []
  · by_cases isZero : first = 0
    · simp [allZero, isZero]
    · simp [allZero, isZero]
  · simp [allZero]

/-- Components that compare as equal differ in zeros at the end only. -/
theorem compareComponents_eq_iff
    (left right : List UInt64) :
    compareComponents left right = .eq ↔
      left.rdropWhile (· == 0) = right.rdropWhile (· == 0) := by
  have allZero_iff : ∀ components : List UInt64,
      components.rdropWhile (· == 0) = [] ↔ components.all (· == 0) = true := by
    intro components
    rw [List.rdropWhile_eq_nil_iff, List.all_eq_true]
  induction left generalizing right with
  | nil =>
    rw [List.rdropWhile_nil, eq_comm (a := []), allZero_iff, compareComponents]
    split
    · rename_i allZero
      exact iff_of_true rfl allZero
    · rename_i notAll
      exact iff_of_false nofun notAll
  | cons first rest inductionHypothesis =>
    cases right with
    | nil =>
      rw [List.rdropWhile_nil, allZero_iff, compareComponents]
      split
      · rename_i allZero
        exact iff_of_true rfl allZero
      · rename_i notAll
        exact iff_of_false nofun notAll
    | cons other others =>
      have tails : compareComponents rest others = .eq ↔
          rest.rdropWhile (· == 0) = others.rdropWhile (· == 0) :=
        inductionHypothesis others
      rw [compareComponents, Ordering.then_eq_eq, tails, Std.LawfulEqOrd.compare_eq_iff_eq,
        rdropWhile_zero_cons, rdropWhile_zero_cons]
      by_cases restZero : rest.rdropWhile (· == 0) = []
      · by_cases othersZero : others.rdropWhile (· == 0) = []
        · rw [if_pos restZero, if_pos othersZero, restZero, othersZero]
          by_cases isZero : first = 0
          · by_cases otherZero : other = 0
            · simp [isZero, otherZero]
            · simp [isZero, otherZero, Ne.symm otherZero]
          · by_cases otherZero : other = 0
            · simp [isZero, otherZero]
            · simp [isZero, otherZero]
        · rw [if_pos restZero, if_neg othersZero, restZero]
          split <;> simp [Ne.symm othersZero]
      · by_cases othersZero : others.rdropWhile (· == 0) = []
        · rw [if_neg restZero, if_pos othersZero, othersZero]
          split <;> simp [restZero]
        · rw [if_neg restZero, if_neg othersZero, List.cons.injEq]

theorem equivalent_iff
    {left right : Version} :
    left.equivalent right = true ↔
      left.components.rdropWhile (· == 0) = right.components.rdropWhile (· == 0) := by
  rw [equivalent, beq_iff_eq]
  exact compareComponents_eq_iff _ _

/-- Equivalent versions compare alike with any other. -/
theorem compare_congr
    {written version : Version}
    (equivalent : written.equivalent version = true) (other : Version) :
    compare written other = compare version other ∧
      compare other written = compare other version := by
  have same : compare written version = .eq := beq_iff_eq.mp equivalent
  exact ⟨Std.TransCmp.congr_left same, Std.TransCmp.congr_right same⟩

theorem equivalent_refl
    (version : Version) :
    version.equivalent version = true :=
  beq_iff_eq.mpr Std.ReflCmp.compare_self

/-! ## Versions up to a bound -/

theorem atMost_iff
    {left right : Version} :
    left.atMost right = true ↔ (compare left right).isLE = true := by
  rw [atMost]
  cases compare left right <;> decide

theorem atMost_refl
    (version : Version) :
    version.atMost version = true :=
  atMost_iff.mpr Std.ReflCmp.isLE_rfl

theorem atMost_trans
    {first second third : Version}
    (early : first.atMost second = true) (late : second.atMost third = true) :
    first.atMost third = true :=
  atMost_iff.mpr (Std.TransOrd.isLE_trans (atMost_iff.mp early) (atMost_iff.mp late))

/-- One version comes before another exactly where that one does not lie at or below it. -/
theorem before_eq_not_atMost
    (left right : Version) :
    left.before right = !right.atMost left := by
  rw [before, atMost, Std.OrientedOrd.eq_swap (a := left)]
  cases compare right left <;> rfl

theorem zero_atMost
    (version : Version) :
    zero.atMost version = true := by
  have nothing : ∀ components, (compareComponents [] components).isLE = true := by
    intro components
    cases components with
    | nil => rfl
    | cons first rest =>
      rw [compareComponents]
      split <;> rfl
  have sameAsNothing : compareComponents zero.components version.components =
      compareComponents [] version.components :=
    Std.TransCmp.congr_left (by decide)
  rw [atMost_iff, ← nothing version.components]
  exact congrArg Ordering.isLE sameAsNothing

/-! ## The earliest version -/

theorem earlier_atMost_iff
    {left right bound : Version} :
    (earlier left right).atMost bound = true ↔
      left.atMost bound = true ∨ right.atMost bound = true := by
  rw [earlier]
  by_cases follows : right.before left = true
  · rw [if_pos follows]
    have below : right.atMost left = true := by
      rw [before, beq_iff_eq] at follows
      rw [atMost, follows]
      rfl
    exact ⟨Or.inr, fun some => some.elim (atMost_trans below) id⟩
  · rw [if_neg follows]
    have below : left.atMost right = true := by
      simpa [before_eq_not_atMost] using follows
    exact ⟨Or.inl, fun some => some.elim id (atMost_trans below)⟩

theorem foldl_earlier_atMost_iff
    {versions : List Version} {first bound : Version} :
    (versions.foldl earlier first).atMost bound = true ↔
      ∃ version ∈ first :: versions, version.atMost bound = true := by
  induction versions generalizing first with
  | nil => simp
  | cons next rest inductionHypothesis =>
    rw [List.foldl_cons, inductionHypothesis]
    simp only [List.mem_cons, exists_eq_or_imp, earlier_atMost_iff, or_assoc]

/-- The earliest version of a list lies at or below a bound where some version of it does. -/
theorem any_earliest?_iff
    {versions : List Version} {bound : Version} :
    ((earliest? versions).any fun version => version.atMost bound) = true ↔
      ∃ version ∈ versions, version.atMost bound = true := by
  cases versions with
  | nil => simp [earliest?]
  | cons first rest => exact foldl_earlier_atMost_iff

theorem earliest?_eq_none_iff
    {versions : List Version} :
    earliest? versions = none ↔ versions = [] := by
  cases versions <;> simp [earliest?]

/-- A list without versions counts as zero, which lies at or below every bound. -/
theorem earliest?_getD_zero_atMost_iff
    {versions : List Version} {bound : Version} :
    ((earliest? versions).getD zero).atMost bound = true ↔
      versions = [] ∨ ∃ version ∈ versions, version.atMost bound = true := by
  rw [← any_earliest?_iff, ← earliest?_eq_none_iff]
  cases earliest? versions with
  | none => simp [zero_atMost]
  | some version => simp

end TestGate.Version
