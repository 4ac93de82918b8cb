import Mathlib.Data.List.DropRight
import Mathlib.Data.List.TakeDrop
import TestGate.CallSite
import TestGate.Issue.Reference

/-!
References that can be written and read back: their ids are trimmed and not blank. Main statement:
every reference that was read is of this kind.
-/

namespace TestGate

open Text Issue

/-- Sets whose ranges lie apart have no character in common. -/
theorem Text.CharSet.not_contains_of_apart
    {left right : CharSet} {c : Char}
    (apart : ∀ range ∈ left.ranges, ∀ other ∈ right.ranges,
      range.2 < other.1 ∨ other.2 < range.1)
    (inLeft : left.contains c = true) :
    right.contains c = false := by
  obtain ⟨range, member, above, below⟩ := (contains_iff _ _).mp inLeft
  rw [Bool.eq_false_iff]
  intro inRight
  obtain ⟨other, otherMember, first, last⟩ := (contains_iff _ _).mp inRight
  rcases apart range member other otherMember with before | behind <;> omega

/-- About a character below a bound only the ranges that begin below it tell something. -/
theorem Text.CharSet.contains_eq_filter
    (set : CharSet) {c : Char} {bound : Nat}
    (below : c.toNat < bound) :
    set.contains c =
      CharSet.contains ⟨set.ranges.filter fun range => range.1 < bound⟩ c := by
  rw [Bool.eq_iff_iff, contains_iff, contains_iff]
  constructor
  · rintro ⟨range, member, first, last⟩
    have begins : range.1 < bound := Nat.lt_of_le_of_lt first below
    exact ⟨range, List.mem_filter.mpr ⟨member, decide_eq_true begins⟩, first, last⟩
  · rintro ⟨range, member, inside⟩
    exact ⟨range, (List.mem_filter.mp member).1, inside⟩

/-! ## Trimmed texts -/

theorem trimEnd_eq_rdropWhile
    (chars : List Char) :
    trimEnd chars = chars.rdropWhile isBlank := rfl

/-- Trimming takes away the blanks around a text that holds none itself. -/
theorem trimChars_append_blanks
    {front chars back : List Char} (blankFront : ∀ c ∈ front, isBlank c = true)
    (noBlank : ∀ c ∈ chars, isBlank c = false) (blankBack : ∀ c ∈ back, isBlank c = true) :
    trimChars (front ++ chars ++ back) = chars := by
  rw [trimChars, List.append_assoc, List.dropWhile_append_of_pos blankFront]
  cases chars with
  | nil =>
    rw [List.nil_append, List.dropWhile_eq_nil_iff.mpr blankBack]
    rfl
  | cons c rest =>
    obtain ⟨first, _⟩ := List.forall_mem_cons.mp noBlank
    have keeps : (c :: rest).reverse.dropWhile isBlank = (c :: rest).reverse := by
      rw [List.dropWhile_eq_self_iff]
      intro nonempty
      have isMember := List.mem_reverse.mp (List.getElem_mem nonempty)
      exact (Bool.not_eq_true _).mpr (noBlank _ isMember)
    rw [List.cons_append, List.dropWhile_cons_of_neg (by simp [first]), ← List.cons_append,
      trimEnd, List.reverse_append,
      List.dropWhile_append_of_pos fun c member => blankBack c (List.mem_reverse.mp member),
      keeps, List.reverse_reverse]

theorem trimChars_of_no_blank
    {chars : List Char}
    (noBlank : ∀ c ∈ chars, isBlank c = false) :
    trimChars chars = chars := by
  have trimmed := @trimChars_append_blanks [] chars [] nofun noBlank nofun
  rwa [List.nil_append, List.append_nil] at trimmed

/-- Trimming twice changes nothing. -/
theorem trimChars_trimChars
    (chars : List Char) :
    trimChars (trimChars chars) = trimChars chars := by
  have front : (trimChars chars).dropWhile isBlank = trimChars chars := by
    obtain ⟨behind, whole⟩ : trimChars chars <+: chars.dropWhile isBlank :=
      List.rdropWhile_prefix isBlank (chars.dropWhile isBlank)
    have first := List.head?_dropWhile_not isBlank chars
    rw [← whole] at first
    cases same : trimChars chars with
    | nil => rfl
    | cons c rest =>
      rw [same, List.cons_append, List.head?_cons] at first
      exact List.dropWhile_cons_of_neg (by simpa using first)
  rw [trimChars.eq_def (trimChars chars), front, trimChars, trimEnd_eq_rdropWhile,
    trimEnd_eq_rdropWhile, List.rdropWhile_idempotent]

/-- A tag names a tracker if it is the tag of the tracker up to blanks and case. -/
theorem Issue.Tracker.ofTag?_eq_some_iff
    {text : String} {tracker : Tracker} :
    Tracker.ofTag? text = some tracker ↔
      (trimChars text.toList).map Char.toUpper = tracker.tag.toList := by
  rw [Tracker.ofTag?]
  split
  · rename_i same
    cases tracker <;> simp [same, Tracker.tag]
  · rename_i same
    cases tracker <;> simp [same, Tracker.tag]
  · rename_i noBugzilla noJira
    refine iff_of_false nofun fun same => ?_
    cases tracker with
    | bugzilla => exact noBugzilla same
    | jira => exact noJira same

namespace Issue.Reference

/-- Whether the id of a reference is trimmed and not blank. -/
def IsProper (reference : Reference) : Prop :=
  trim reference.id = reference.id ∧ reference.id ≠ ""

/-- Every reference that was read is proper. -/
theorem isProper_of_parse?
    {text : String} {reference : Reference}
    (parsed : Reference.parse? text = some reference) :
    reference.IsProper := by
  unfold Reference.parse? at parsed
  split at parsed
  · rename_i tag colon id _
    split at parsed
    · cases parsed
    · rename_i tracker trimmed _ nonempty
      cases parsed
      refine ⟨?_, fun blank => nonempty ?_⟩
      · rw [trim, String.toList_ofList, trimChars_trimChars]
      · simpa using congrArg String.toList blank
    · cases parsed
  · cases parsed

/-- The text of a proper reference reads back. -/
theorem parse?_toText
    {reference : Reference}
    (proper : reference.IsProper) :
    Reference.parse? reference.toText = some reference := by
  obtain ⟨tracker, id⟩ := reference
  obtain ⟨trimmed, nonempty⟩ := proper
  have chars : trimChars id.toList = id.toList := by
    have same := congrArg String.toList trimmed
    rwa [trim, String.toList_ofList] at same
  have notBlank : id.toList ≠ [] := fun blank => nonempty (by simpa using blank)
  have parts : (toText ⟨tracker, id⟩).toList.span (· != ':') =
      (tracker.tag.toList, ':' :: id.toList) := by
    cases tracker <;>
      simp [toText, Tracker.tag, List.span_eq_takeWhile_dropWhile]
  have isTag : Tracker.ofTag? (String.ofList tracker.tag.toList) = some tracker := by
    cases tracker <;> decide
  rw [Reference.parse?, parts]
  simp only [isTag, chars]
  rw [String.ofList_toList]

theorem toText_injective :
    Function.Injective toText := by
  rintro ⟨tracker, id⟩ ⟨otherTracker, otherId⟩ same
  rw [toText, toText, ← String.toList_inj] at same
  rw [Reference.mk.injEq, ← String.toList_inj]
  cases tracker <;> cases otherTracker <;> simp_all [Tracker.tag]

/-- The text of a reference starts with the first letter of its tag. -/
theorem head_toText
    (reference : Reference) :
    reference.toText.toList.head? = some 'B' ∨ reference.toText.toList.head? = some 'J' := by
  obtain ⟨tracker, id⟩ := reference
  cases tracker <;> simp [toText, Tracker.tag]

end Issue.Reference

/-! ## Characters of ids -/

/-- No word character is blank. -/
theorem not_isBlank_of_isWordChar
    {c : Char}
    (isWord : isWordChar c = true) :
    isBlank c = false :=
  CharSet.not_contains_of_apart (by decide +kernel) isWord

/-- Of the characters of ASCII, letters, digits and the underscore are parts of words. -/
theorem isWordChar_of_ascii
    {c : Char}
    (ascii : c.toNat < 128) :
    isWordChar c = (c.isAlphanum || c == '_') := by
  have few : wordChars.ranges.filter (fun range => range.1 < 128) =
      [(0x30, 0x39), (0x41, 0x5A), (0x5F, 0x5F), (0x61, 0x7A)] := by
    decide +kernel
  have ofCode : ∀ code < 128,
      CharSet.contains ⟨[(0x30, 0x39), (0x41, 0x5A), (0x5F, 0x5F), (0x61, 0x7A)]⟩
          (Char.ofNat code) =
        ((Char.ofNat code).isAlphanum || Char.ofNat code == '_') := by
    decide +kernel
  have same := ofCode c.toNat ascii
  rwa [Char.ofNat_toNat, ← few, ← CharSet.contains_eq_filter wordChars ascii] at same

namespace CallSite

theorem isIdChar_of_ascii
    {c : Char}
    (ascii : c.toNat < 128) :
    isIdChar c = (c.isAlphanum || c == '_' || c == '-') := by
  rw [isIdChar, isWordChar_of_ascii ascii]

theorem not_isBlank_of_isIdChar
    {c : Char}
    (isId : isIdChar c = true) :
    isBlank c = false := by
  rcases Bool.or_eq_true_iff.mp isId with isWord | isHyphen
  · exact not_isBlank_of_isWordChar isWord
  · rw [beq_iff_eq.mp isHyphen]
    decide

end CallSite

end TestGate
