import Mathlib.Tactic.SplitIfs
import TestGate.SortedMap

/-!
The order of texts. Texts are compared character by character. Main statement: comparing the bytes
of their UTF-8 forms gives the same.
-/

namespace TestGate

/-- A map along which all that is below stays below keeps the order. -/
theorem compare_map_of_rises
    {α β : Type} [Ord α] [Std.OrientedOrd α] [Std.LawfulEqOrd α] [Ord β] [Std.OrientedOrd β]
    {code : α → β}
    (rises : ∀ {lower upper}, compare lower upper = .lt → compare (code lower) (code upper) = .lt)
    (left right : α) :
    compare (code left) (code right) = compare left right := by
  cases order : compare left right with
  | lt => exact rises order
  | eq =>
    rw [Std.LawfulEqCmp.eq_of_compare order]
    exact Std.ReflCmp.compare_self
  | gt => exact Std.OrientedCmp.gt_of_lt (rises (Std.OrientedCmp.lt_of_gt order))

namespace Text

theorem compare_eq_lt_iff
    {left right : String} :
    compare left right = .lt ↔ left.toList < right.toList := by
  rw [← String.lt_iff]
  exact compareOfLessAndEq_eq_lt

/-- The first characters decide if they are different. -/
theorem compare_eq_lt_of_head
    {left right : String} {first second : Char}
    (leftHead : left.toList.head? = some first) (rightHead : right.toList.head? = some second)
    (below : first < second) :
    compare left right = .lt := by
  obtain ⟨rest, leftWhole⟩ := List.head?_eq_some_iff.mp leftHead
  obtain ⟨others, rightWhole⟩ := List.head?_eq_some_iff.mp rightHead
  rw [compare_eq_lt_iff, leftWhole, rightWhole]
  exact List.cons_lt_cons_iff.mpr (Or.inl below)

/-- What two texts begin with in common does not count. -/
theorem compare_append_left
    (front left right : String) :
    compare (front ++ left) (front ++ right) = compare left right := by
  refine compare_map_of_rises (fun {lower upper} below => ?_) left right
  rw [compare_eq_lt_iff] at below ⊢
  rw [String.toList_append, String.toList_append]
  exact List.append_left_lt below

/-! ## Bytes -/

/-- The bytes of a text in UTF-8. -/
def utf8Bytes (text : String) : List UInt8 :=
  text.toByteArray.data.toList

theorem utf8Bytes_eq_flatMap
    (text : String) :
    utf8Bytes text = text.toList.flatMap String.utf8EncodeChar := by
  rw [utf8Bytes, ← String.utf8Encode_toList, List.utf8Encode, List.toList_data_toByteArray]

theorem compare_bytes_eq_lt_iff
    {left right : List UInt8} :
    compare left right = .lt ↔ left < right := by
  induction left generalizing right with
  | nil =>
    cases right with
    | nil => simp
    | cons second others => simp
  | cons first rest inductionHypothesis =>
    cases right with
    | nil => simp
    | cons second others =>
      have heads : compare first second = .lt ↔ first < second := compareOfLessAndEq_eq_lt
      rw [List.compare_cons_cons, Ordering.then_eq_lt, inductionHypothesis, List.cons_lt_cons_iff,
        heads, Std.LawfulEqOrd.compare_eq_iff_eq]

/-- The bytes of a lower character are lower, whatever follows them. -/
theorem utf8EncodeChar_append_lt
    {lower upper : Char} (below : lower < upper) (behind others : List UInt8) :
    String.utf8EncodeChar lower ++ behind < String.utf8EncodeChar upper ++ others := by
  have codesBelow : lower.val.toNat < upper.val.toNat := below
  have bounded : upper.val.toNat < 0x110000 := by
    rcases upper.valid with small | ⟨_, large⟩
    · exact Nat.lt_trans small (by decide)
    · exact large
  -- a code is taken apart into digits to base 64, and each byte has room for its digit
  have digits : ∀ code : Nat,
      code / 4096 = code / 64 / 64 ∧ code / 262144 = code / 64 / 64 / 64 := by
    intro code
    constructor <;> simp only [Nat.div_div_eq_div_mul]
  have fits : ∀ code size mark : Nat, 0 < size → size + mark ≤ 256 →
      (code % size + mark) % 256 = code % size + mark := by
    intro code size mark positive room
    have smaller := Nat.mod_lt code positive
    exact Nat.mod_eq_of_lt (by omega)
  simp only [String.utf8EncodeChar]
  generalize lower.val.toNat = first at codesBelow
  generalize upper.val.toNat = second at codesBelow bounded
  split_ifs <;>
    simp (disch := decide) only [List.cons_append, List.nil_append, List.cons_lt_cons_iff,
      UInt8.lt_iff_toNat_lt, ← UInt8.toNat_inj, UInt8.toNat_ofNat', digits, fits] <;>
    omega

theorem flatMap_utf8EncodeChar_lt
    {lower upper : List Char} (below : lower < upper) :
    lower.flatMap String.utf8EncodeChar < upper.flatMap String.utf8EncodeChar := by
  induction lower generalizing upper with
  | nil =>
    cases upper with
    | nil => cases below
    | cons c rest =>
      obtain ⟨byte, others, bytes⟩ :=
        List.exists_cons_of_ne_nil (String.utf8EncodeChar_ne_nil (c := c))
      rw [List.flatMap_nil, List.flatMap_cons, bytes]
      exact List.nil_lt_cons _ _
  | cons first rest inductionHypothesis =>
    cases upper with
    | nil => cases below
    | cons second others =>
      rw [List.flatMap_cons, List.flatMap_cons]
      rcases List.cons_lt_cons_iff.mp below with headsBelow | ⟨rfl, restBelow⟩
      · exact utf8EncodeChar_append_lt headsBelow _ _
      · exact List.append_left_lt (inductionHypothesis restBelow)

/-- Texts are in the order of their bytes. -/
theorem compare_utf8Bytes
    (left right : String) :
    compare (utf8Bytes left) (utf8Bytes right) = compare left right := by
  refine compare_map_of_rises (fun {lower upper} below => ?_) left right
  rw [compare_eq_lt_iff] at below
  rw [compare_bytes_eq_lt_iff, utf8Bytes_eq_flatMap, utf8Bytes_eq_flatMap]
  exact flatMap_utf8EncodeChar_lt below

end Text

end TestGate
