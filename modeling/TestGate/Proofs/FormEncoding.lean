import TestGate.Http.Form
import TestGate.Proofs.TextParts

/-!
Encoded parameters can be told apart. The code of a character is never the start of another one, so
a text can be read off its code, and neither `&` nor `=` stands in one. Main statement: parameters
with the same encoding are the same.
-/

namespace TestGate

open Text

/-! ## Codes that can be told apart -/

universe u v w

/-- Whether the code of an item is no start of another one, so that what a text starts with tells
which item it is and where its code ends. -/
def IsPrefixFree {α : Type u} {β : Type v} (code : α → List β) : Prop :=
  ∀ first second behind others, code first ++ behind = code second ++ others →
    first = second ∧ behind = others

namespace IsPrefixFree

variable {α : Type u} {β : Type v} {γ : Type w} {code : α → List β}

theorem of_head
    (free : ∀ first second behind others, code first ++ behind = code second ++ others →
      first = second) :
    IsPrefixFree code := by
  intro first second behind others same
  obtain rfl := free first second behind others same
  exact ⟨rfl, List.append_cancel_left same⟩

/-- Texts can be told apart by their codes. -/
theorem flatMap_injective
    (free : IsPrefixFree code) (nonempty : ∀ item, code item ≠ []) {left right : List α}
    (same : left.flatMap code = right.flatMap code) :
    left = right := by
  induction left generalizing right with
  | nil =>
    cases right with
    | nil => rfl
    | cons item rest =>
      rw [List.flatMap_cons] at same
      exact absurd (List.append_eq_nil_iff.mp same.symm).1 (nonempty item)
  | cons first rest inductionHypothesis =>
    cases right with
    | nil =>
      rw [List.flatMap_cons] at same
      exact absurd (List.append_eq_nil_iff.mp same).1 (nonempty first)
    | cons second others =>
      rw [List.flatMap_cons, List.flatMap_cons] at same
      obtain ⟨rfl, later⟩ := free _ _ _ _ same
      rw [inductionHypothesis later]

/-- Of two rows whose codes start alike, one is a start of the other. -/
theorem prefix_of_flatMap_append
    (free : IsPrefixFree code) {left right : List α} {behind others : List β}
    (same : left.flatMap code ++ behind = right.flatMap code ++ others) :
    left <+: right ∨ right <+: left := by
  induction left generalizing right with
  | nil => exact Or.inl List.nil_prefix
  | cons first rest inductionHypothesis =>
    cases right with
    | nil => exact Or.inr List.nil_prefix
    | cons second later =>
      rw [List.flatMap_cons, List.flatMap_cons, List.append_assoc, List.append_assoc] at same
      obtain ⟨rfl, rest⟩ := free _ _ _ _ same
      rw [List.prefix_cons_inj, List.prefix_cons_inj]
      exact inductionHypothesis rest

/-- Codes of codes can be told apart. -/
theorem flatMap
    {outer : β → List γ} (outerFree : IsPrefixFree outer) (free : IsPrefixFree code) :
    IsPrefixFree fun item => (code item).flatMap outer := by
  have ofPrefix : ∀ {first second}, code first <+: code second → first = second := by
    rintro first second ⟨behind, whole⟩
    exact (free first second behind [] (by rw [whole, List.append_nil])).1
  refine of_head fun first second behind others same => ?_
  rcases outerFree.prefix_of_flatMap_append same with starts | starts
  · exact ofPrefix starts
  · exact (ofPrefix starts).symm

end IsPrefixFree

/-! ## Percent encoding -/

namespace Text

theorem hexDigit_injective :
    ∀ value < 16, ∀ other < 16, hexDigit value = hexDigit other → value = other := by
  decide

theorem percentByte_isPrefixFree :
    IsPrefixFree percentByte := by
  refine .of_head fun first second behind others same => ?_
  simp only [percentByte, List.cons_append, List.nil_append, List.cons.injEq, true_and] at same
  obtain ⟨high, low, _⟩ := same
  have firstSize := first.toNat_lt
  have secondSize := second.toNat_lt
  have highSame := hexDigit_injective _ (by omega) _ (by omega) high
  have lowSame := hexDigit_injective _ (by omega) _ (by omega) low
  exact UInt8.toNat_inj.mp (by omega)

/-- The bytes of a character tell the character. -/
theorem utf8EncodeChar_isPrefixFree :
    IsPrefixFree String.utf8EncodeChar := by
  refine .of_head fun first second behind others same => ?_
  have decoded : ∀ c rest,
      ((String.utf8EncodeChar c ++ rest).toByteArray).utf8DecodeChar? 0 = some c := by
    intro c rest
    rw [List.toByteArray_append]
    exact ByteArray.utf8DecodeChar?_utf8EncodeChar_append
  have firstDecoded := decoded first behind
  rw [same, decoded second others] at firstDecoded
  exact (Option.some.inj firstDecoded).symm

theorem percentChar_isPrefixFree :
    IsPrefixFree percentChar :=
  percentByte_isPrefixFree.flatMap utf8EncodeChar_isPrefixFree

/-- An encoded character starts with a percent sign and goes on with these and digits. -/
theorem exists_percentChar
    (c : Char) :
    ∃ rest, percentChar c = '%' :: rest := by
  cases bytes : String.utf8EncodeChar c with
  | nil => exact absurd bytes String.utf8EncodeChar_ne_nil
  | cons byte others =>
    rw [percentChar, bytes]
    exact ⟨_, rfl⟩

theorem mem_percentChar
    {c member : Char} (isMember : member ∈ percentChar c) :
    member = '%' ∨ ∃ value < 16, member = hexDigit value := by
  obtain ⟨byte, _, inByte⟩ := List.mem_flatMap.mp isMember
  have size := byte.toNat_lt
  simp only [percentByte, List.mem_cons, List.not_mem_nil, or_false] at inByte
  rcases inByte with rfl | rfl | rfl
  · exact Or.inl rfl
  · exact Or.inr ⟨_, by omega, rfl⟩
  · exact Or.inr ⟨_, by omega, rfl⟩

end Text

/-! ## Parameters -/

namespace Http

/-- The code of a character in a parameter. -/
def formChar (c : Char) : List Char :=
  if isPlainInForm c then [c] else if c = ' ' then ['+'] else percentChar c

/-- What an encoded character consists of. -/
def IsFormChar (c : Char) : Prop :=
  c = '%' ∨ c = '+' ∨ isPlainInForm c = true

theorem isPlainInForm_hexDigit :
    ∀ value < 16, isPlainInForm (hexDigit value) = true := by
  decide

theorem isFormChar_of_mem_percentChar
    {c member : Char} (isMember : member ∈ percentChar c) :
    IsFormChar member := by
  rcases mem_percentChar isMember with isPercent | ⟨value, small, rfl⟩
  · exact Or.inl isPercent
  · exact Or.inr (Or.inr (isPlainInForm_hexDigit value small))

theorem isFormChar_of_mem_formChar
    {c member : Char} (isMember : member ∈ formChar c) :
    IsFormChar member := by
  rw [formChar] at isMember
  split at isMember
  · rename_i plain
    exact Or.inr (Or.inr (List.mem_singleton.mp isMember ▸ plain))
  · split at isMember
    · exact Or.inr (Or.inl (List.mem_singleton.mp isMember))
    · exact isFormChar_of_mem_percentChar isMember

theorem toList_formText
    (text : String) :
    (formText text).toList = text.toList.flatMap formChar := by
  rw [formText, String.toList_ofList, percentEncode, List.map_flatMap]
  refine List.flatMap_congr fun c _ => ?_
  rw [formChar]
  by_cases isSpace : c = ' '
  · rw [isSpace]
    decide
  · by_cases plain : isPlainInForm c = true
    · simp [plain, isSpace]
    · have kept : ∀ member ∈ percentChar c, (if member = ' ' then '+' else member) = member := by
        intro member isMember
        refine if_neg ?_
        rintro rfl
        exact absurd (isFormChar_of_mem_percentChar isMember) (by unfold IsFormChar; decide)
      simp only [plain, isSpace, if_false, Bool.false_eq_true, Bool.false_or, beq_iff_eq]
      rw [List.map_congr_left kept, List.map_id']

theorem formChar_ne_nil
    (c : Char) :
    formChar c ≠ [] := by
  obtain ⟨rest, starts⟩ := exists_percentChar c
  rw [formChar]
  split
  · exact List.cons_ne_nil _ _
  · split
    · exact List.cons_ne_nil _ _
    · exact starts ▸ List.cons_ne_nil _ _

theorem formChar_of_plain
    {c : Char} (plain : isPlainInForm c = true) :
    formChar c = [c] :=
  if_pos plain

/-- The code of a character that may not stand for itself starts with none that may. -/
theorem exists_formChar_of_not_plain
    {c : Char} (notPlain : ¬ isPlainInForm c = true) :
    (c = ' ' ∧ formChar c = ['+']) ∨ (c ≠ ' ' ∧ formChar c = percentChar c) := by
  rw [formChar, if_neg notPlain]
  by_cases isSpace : c = ' '
  · exact Or.inl ⟨isSpace, if_pos isSpace⟩
  · exact Or.inr ⟨isSpace, if_neg isSpace⟩

theorem not_plain_of_formChar_append
    {c head : Char} {behind rest : List Char} (notPlain : ¬ isPlainInForm c = true)
    (starts : formChar c ++ behind = head :: rest) :
    ¬ isPlainInForm head = true := by
  obtain ⟨others, isPercent⟩ := exists_percentChar c
  rcases exists_formChar_of_not_plain notPlain with ⟨_, code⟩ | ⟨_, code⟩
  · rw [code] at starts
    rw [← (List.cons.inj starts).1]
    decide
  · rw [code, isPercent] at starts
    rw [← (List.cons.inj starts).1]
    decide

theorem formChar_isPrefixFree :
    IsPrefixFree formChar := by
  refine .of_head fun first second behind others same => ?_
  by_cases firstPlain : isPlainInForm first = true
  · rw [formChar_of_plain firstPlain] at same
    by_cases secondPlain : isPlainInForm second = true
    · rw [formChar_of_plain secondPlain] at same
      exact (List.cons.inj same).1
    · exact absurd firstPlain (not_plain_of_formChar_append secondPlain same.symm)
  · by_cases secondPlain : isPlainInForm second = true
    · rw [formChar_of_plain secondPlain] at same
      exact absurd secondPlain (not_plain_of_formChar_append firstPlain same)
    · -- a plus sign stands for a space, and a percent sign for any other character
      obtain ⟨firstRest, firstStarts⟩ := exists_percentChar first
      obtain ⟨secondRest, secondStarts⟩ := exists_percentChar second
      rcases exists_formChar_of_not_plain firstPlain with ⟨isSpace, code⟩ | ⟨_, code⟩ <;>
        rcases exists_formChar_of_not_plain secondPlain with ⟨alsoSpace, other⟩ | ⟨_, other⟩ <;>
        rw [code, other] at same
      · exact isSpace.trans alsoSpace.symm
      · rw [secondStarts] at same
        exact absurd (List.cons.inj same).1 (by decide)
      · rw [firstStarts] at same
        exact absurd (List.cons.inj same).1 (by decide)
      · exact (percentChar_isPrefixFree first second behind others same).1

theorem formText_injective
    {left right : String} (same : formText left = formText right) :
    left = right := by
  have codes := congrArg String.toList same
  rw [toList_formText, toList_formText] at codes
  exact String.toList_inj.mp (formChar_isPrefixFree.flatMap_injective formChar_ne_nil codes)

theorem notMem_formText
    {separator : Char} (separates : ¬ IsFormChar separator) (text : String) :
    separator ∉ (formText text).toList := by
  rw [toList_formText, List.mem_flatMap]
  rintro ⟨c, _, member⟩
  exact separates (isFormChar_of_mem_formChar member)

/-- A name and its value, encoded. -/
def formPair (pair : String × String) : List Char :=
  (formText pair.1).toList ++ '=' :: (formText pair.2).toList

theorem toList_formPairs
    (pairs : List (String × String)) :
    (formPairs pairs).toList = ['&'].intercalate (pairs.map formPair) := by
  have coded : ∀ pair : String × String,
      (formText pair.1 ++ "=" ++ formText pair.2).toList = formPair pair := by
    intro pair
    simp [formPair]
  rw [formPairs, String.toList_intercalate, List.map_map]
  exact congrArg (['&'].intercalate ·) (List.map_congr_left fun pair _ => coded pair)

theorem formPair_injective
    {left right : String × String} (same : formPair left = formPair right) :
    left = right := by
  have parts : ∀ pair : String × String, splitWhere (· == '=') (formPair pair) =
      [(formText pair.1).toList, (formText pair.2).toList] := by
    intro pair
    have noEqual : ∀ text, '=' ∉ (formText text).toList :=
      notMem_formText (by unfold IsFormChar; decide)
    rw [formPair, splitWhere_append_cons, splitWhere_of_not_mem (noEqual pair.1),
      splitWhere_of_not_mem (noEqual pair.2)]
    rfl
  have sameParts := parts left
  rw [same, parts right, List.cons.injEq, List.cons.injEq, String.toList_inj, String.toList_inj]
    at sameParts
  exact Prod.ext (formText_injective sameParts.1.symm) (formText_injective sameParts.2.1.symm)

theorem ampersand_notMem_formPair
    (pair : String × String) :
    '&' ∉ formPair pair := by
  have noAmpersand : ∀ text, '&' ∉ (formText text).toList :=
    notMem_formText (by unfold IsFormChar; decide)
  rw [formPair, List.mem_append, List.mem_cons, not_or, not_or]
  exact ⟨noAmpersand pair.1, by decide, noAmpersand pair.2⟩

/-- Parameters with the same encoding are the same. -/
theorem formPairs_inj
    {left right : List (String × String)} (leftNonempty : left ≠ []) (rightNonempty : right ≠ []) :
    formPairs left = formPairs right ↔ left = right := by
  refine ⟨fun same => ?_, congrArg formPairs⟩
  have parts : ∀ pairs : List (String × String), pairs ≠ [] →
      splitWhere (· == '&') (formPairs pairs).toList = pairs.map formPair := by
    intro pairs nonempty
    rw [toList_formPairs]
    refine splitWhere_intercalate_of_not_mem (mt List.map_eq_nil_iff.mp nonempty) ?_
    intro part member
    obtain ⟨pair, _, rfl⟩ := List.mem_map.mp member
    exact ampersand_notMem_formPair pair
  have sameParts := parts left leftNonempty
  rw [same, parts right rightNonempty] at sameParts
  exact (List.map_injective_iff.mpr (fun _ _ => formPair_injective) sameParts).symm

end Http

end TestGate
