import TestGate.Proofs.CacheCodec
import TestGate.Proofs.TextOrder
import TestGate.Proofs.WrittenGuards

/-!
References as they are written. Main statement: a text is read as a reference exactly when the tag
of a tracker and something that is not blank stand before and behind its first colon; what is read
is written in one way, which reads back; and references are in the order of their texts, so that
cache files list issues in the order of the index.
-/

namespace TestGate

open Text Issue

/-! ## Blanks -/

theorem Text.trimChars_eq_nil_iff
    {chars : List Char} :
    trimChars chars = [] ↔ ∀ c ∈ chars, isBlank c = true := by
  constructor
  · intro blank
    obtain ⟨_, _, front, back, whole⟩ := Row.exists_append_rdropWhile isBlank chars
    rw [show (chars.dropWhile isBlank).rdropWhile isBlank = [] from blank, List.nil_append] at whole
    rw [whole]
    exact List.forall_mem_append.mpr ⟨front.all, back.all⟩
  · intro blank
    have trimmed := trimChars_append_blanks blank (List.forall_mem_nil _) (List.forall_mem_nil _)
    rwa [List.append_nil, List.append_nil] at trimmed

/-! ## Tags -/

namespace Issue

/-- Whether characters are the tag of a tracker, in any case and with blanks around it. -/
def Tracker.IsNamedBy (tracker : Tracker) (chars : List Char) : Prop :=
  ∃ (before after : Row isBlank) (letters : List Char),
    chars = before.chars ++ letters ++ after.chars ∧
      letters.map Char.toUpper = tracker.tag.toList

theorem Tracker.ofTag?_eq_some_iff_isNamedBy
    {chars : List Char} {tracker : Tracker} :
    Tracker.ofTag? (String.ofList chars) = some tracker ↔ tracker.IsNamedBy chars := by
  rw [ofTag?_eq_some_iff, String.toList_ofList]
  constructor
  · intro names
    obtain ⟨_, _, before, after, whole⟩ := Row.exists_append_rdropWhile isBlank chars
    exact ⟨before, after, trimChars chars, by rwa [List.append_assoc], names⟩
  · rintro ⟨before, after, letters, rfl, names⟩
    have noBlank : ∀ c ∈ letters, isBlank c = false := fun c member =>
      not_isBlank_of_isWordChar <|
        CallSite.isWordChar_of_toUpper_mem (names ▸ List.mem_map_of_mem member)
    rw [trimChars_append_blanks before.all noBlank after.all, names]

/-! ## Reading -/

namespace Reference

/-- Whether this stands before and behind the first colon of a text. -/
def SplitsAtColon (text : String) (front back : List Char) : Prop :=
  text.toList = front ++ ':' :: back ∧ ':' ∉ front

variable {text : String} {front back : List Char}

theorem passes_of_notMem
    {chars : List Char} (noColon : ':' ∉ chars) :
    ∀ c ∈ chars, (c != ':') = true :=
  fun _ member => bne_iff_ne.mpr (ne_of_mem_of_not_mem member noColon)

theorem exists_splitsAtColon
    (hasColon : ':' ∈ text.toList) :
    ∃ front back, SplitsAtColon text front back :=
  List.eq_append_cons_of_mem hasColon

theorem parse?_of_splitsAtColon
    (splits : SplitsAtColon text front back) :
    parse? text =
      (Tracker.ofTag? (String.ofList front)).bind fun tracker =>
        if trimChars back = [] then none else some ⟨tracker, String.ofList (trimChars back)⟩ := by
  obtain ⟨whole, noColon⟩ := splits
  let row : Row (· != ':') := ⟨front, passes_of_notMem noColon⟩
  have parts : text.toList.span (· != ':') = (front, ':' :: back) := by
    rw [List.span_eq_takeWhile_dropWhile, whole]
    exact Prod.ext (row.takeWhile_append rfl back) (row.dropWhile_append rfl back)
  rw [parse?, parts]
  simp only
  generalize Tracker.ofTag? (String.ofList front) = named
  generalize trimChars back = id
  cases named with
  | none => rfl
  | some tracker =>
    cases id with
    | nil => rfl
    | cons c rest => rfl

theorem parse?_eq_none_of_notMem
    (noColon : ':' ∉ text.toList) :
    parse? text = none := by
  rw [parse?, List.span_eq_takeWhile_dropWhile,
    List.dropWhile_eq_nil_iff.mpr (passes_of_notMem noColon)]

/-- What is read, and from which texts. -/
theorem parse?_eq_some_iff
    {reference : Reference} :
    parse? text = some reference ↔
      ∃ front back, SplitsAtColon text front back ∧ reference.tracker.IsNamedBy front ∧
        reference.id.toList = trimChars back ∧ reference.id ≠ "" := by
  have nonempty : reference.id ≠ "" ↔ reference.id.toList ≠ [] := by simp
  rw [nonempty]
  constructor
  · intro parsed
    by_cases hasColon : ':' ∈ text.toList
    · obtain ⟨front, back, splits⟩ := exists_splitsAtColon hasColon
      rw [parse?_of_splitsAtColon splits] at parsed
      obtain ⟨tracker, named, isId⟩ := Option.bind_eq_some_iff.mp parsed
      split at isId
      · cases isId
      · rename_i notBlank
        cases isId
        refine ⟨front, back, splits, Tracker.ofTag?_eq_some_iff_isNamedBy.mp named, ?_⟩
        rw [String.toList_ofList]
        exact ⟨rfl, notBlank⟩
    · rw [parse?_eq_none_of_notMem hasColon] at parsed
      cases parsed
  · rintro ⟨front, back, splits, named, sameId, notBlank⟩
    rw [parse?_of_splitsAtColon splits, Tracker.ofTag?_eq_some_iff_isNamedBy.mpr named,
      Option.bind_some, if_neg (sameId ▸ notBlank), ← sameId, String.ofList_toList]

theorem isSome_parse?_iff :
    (parse? text).isSome = true ↔
      ∃ front back, SplitsAtColon text front back ∧
        (∃ tracker : Tracker, tracker.IsNamedBy front) ∧ ∃ c ∈ back, isBlank c = false := by
  have someChar : ∀ chars, (∃ c ∈ chars, isBlank c = false) ↔ trimChars chars ≠ [] := by
    intro chars
    rw [Ne, trimChars_eq_nil_iff]
    simp
  simp only [someChar, Option.isSome_iff_exists, parse?_eq_some_iff]
  constructor
  · rintro ⟨reference, front, back, splits, named, sameId, nonempty⟩
    refine ⟨front, back, splits, ⟨reference.tracker, named⟩, ?_⟩
    rw [← sameId]
    simpa using nonempty
  · rintro ⟨front, back, splits, ⟨tracker, named⟩, notBlank⟩
    refine ⟨⟨tracker, String.ofList (trimChars back)⟩, front, back, splits, named, ?_⟩
    simpa using notBlank

/-! ## Order -/

/-- References are in the order of their texts. -/
theorem compare_toText
    (left right : Reference) :
    compare left.toText right.toText = compare left right := by
  refine compare_map_of_rises (fun {lower upper} below => ?_) left right
  obtain ⟨tracker, id⟩ := lower
  obtain ⟨other, otherId⟩ := upper
  rcases Ordering.then_eq_lt.mp below with trackerBelow | ⟨sameTracker, idBelow⟩
  · replace trackerBelow : compare tracker other = .lt := trackerBelow
    obtain ⟨rfl, rfl⟩ : tracker = .bugzilla ∧ other = .jira := by
      revert trackerBelow
      cases tracker <;> cases other <;> decide
    have isB : (toText ⟨.bugzilla, id⟩).toList.head? = some 'B' := by simp [toText, Tracker.tag]
    have isJ : (toText ⟨.jira, otherId⟩).toList.head? = some 'J' := by simp [toText, Tracker.tag]
    exact compare_eq_lt_of_head isB isJ (by decide)
  · have equal : tracker = other := Std.LawfulEqCmp.eq_of_compare sameTracker
    subst equal
    exact (compare_append_left (tracker.tag ++ ":") id otherId).trans idBelow

end Reference

end Issue

/-! ## Cache files -/

namespace Cache

/-- The keys of a cache file rise in the order of the index, and the note comes behind them. -/
theorem pairwise_contentOf
    (index : Index) (runMeta : RunMeta) :
    (contentOf index runMeta).Pairwise fun earlier later => compare earlier.1 later.1 = .lt := by
  have belowMeta : ∀ issue : Reference, compare issue.toText metaKey = .lt := by
    intro issue
    rcases issue.head_toText with isB | isJ
    · exact compare_eq_lt_of_head isB (by decide) (by decide : 'B' < '_')
    · exact compare_eq_lt_of_head isJ (by decide) (by decide : 'J' < '_')
  rw [contentOf, List.pairwise_append, List.pairwise_map]
  refine ⟨?_, List.pairwise_singleton _ _, ?_⟩
  · simp only [Reference.compare_toText]
    exact index.increasing
  · intro written member note isNote
    obtain ⟨⟨issue, entry⟩, _, rfl⟩ := List.mem_map.mp member
    rw [List.mem_singleton.mp isNote]
    exact belowMeta issue

/-- A cache file lists the issues in the order of the index. -/
theorem toJson_eq_object
    (index : Index) (runMeta : RunMeta) :
    toJson index runMeta = .object (contentOf index runMeta) := by
  let members : SortedMap String Json := ⟨_, pairwise_contentOf index runMeta⟩
  exact congrArg (fun map => Json.object map.entries) (SortedMap.ofList_entries members)

end Cache

/-! ## The normal form -/

namespace Issue.Reference

/-- A text is read as a reference exactly when the tag of a tracker stands before its first colon,
and something behind it that is not blank; the id is that, trimmed. What is read is proper and reads
back from its own text. Different references have different texts, and are in the order of these,
compared by characters as well as by bytes; so a cache file lists the issues in the order of the
index. -/
theorem text_is_normal_form :
    (∀ text, (parse? text).isSome = true ↔
      ∃ front back, SplitsAtColon text front back ∧
        (∃ tracker : Tracker, tracker.IsNamedBy front) ∧ ∃ c ∈ back, isBlank c = false) ∧
    (∀ text reference, parse? text = some reference ↔
      ∃ front back, SplitsAtColon text front back ∧ reference.tracker.IsNamedBy front ∧
        reference.id.toList = trimChars back ∧ reference.id ≠ "") ∧
    (∀ text reference, parse? text = some reference →
      reference.IsProper ∧ parse? reference.toText = some reference) ∧
    Function.Injective toText ∧
    (∀ left right : Reference,
      compare left.toText right.toText = compare left right ∧
      compare (utf8Bytes left.toText) (utf8Bytes right.toText) = compare left right) ∧
    ∀ index runMeta, Cache.toJson index runMeta = .object (Cache.contentOf index runMeta) := by
  refine ⟨fun text => isSome_parse?_iff, fun text reference => parse?_eq_some_iff, ?_,
    toText_injective, ?_, Cache.toJson_eq_object⟩
  · intro text reference parsed
    have proper := isProper_of_parse? parsed
    exact ⟨proper, parse?_toText proper⟩
  · intro left right
    exact ⟨compare_toText left right, (compare_utf8Bytes _ _).trans (compare_toText left right)⟩

/-- A reference with blanks and a second colon in it. -/
theorem text_is_normal_form_spacedText :
    let reference : Reference := ⟨.bugzilla, "a :\u00e9"⟩
    parse? "\u00a0bZ\t:\n a :\u00e9 " = some reference ∧ reference.IsProper ∧
      parse? "BZ:a :\u00e9" = some reference := by
  intro reference
  have parsed : parse? "\u00a0bZ\t:\n a :\u00e9 " = some reference := by decide
  obtain ⟨_, _, normal, _⟩ := text_is_normal_form
  obtain ⟨proper, readsBack⟩ := normal _ reference parsed
  exact ⟨parsed, proper, readsBack⟩

end Issue.Reference

end TestGate
