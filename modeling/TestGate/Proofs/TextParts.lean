import TestGate.Proofs.References

/-!
Texts taken apart and put together. Main statements: a text that is put together from parts without
the separator falls into these parts again, a text with a separator in it falls into the parts before
and behind, and every part, word or item of a list is a piece of the text that it comes from.
-/

namespace TestGate

/-! ## Rows of characters -/

/-- Characters that all pass a test; there may be none. -/
structure Row (test : Char → Bool) where
  chars : List Char
  all : ∀ c ∈ chars, test c = true

namespace Row

variable {test : Char → Bool}

theorem dropWhile_append
    (row : Row test) {c : Char} (stops : test c = false) (rest : List Char) :
    (row.chars ++ c :: rest).dropWhile test = c :: rest := by
  rw [List.dropWhile_append_of_pos row.all, List.dropWhile_cons_of_neg (by simp [stops])]

theorem takeWhile_append
    (row : Row test) {c : Char} (stops : test c = false) (rest : List Char) :
    (row.chars ++ c :: rest).takeWhile test = row.chars := by
  rw [List.takeWhile_append_of_pos row.all, List.takeWhile_cons_of_neg (by simp [stops]),
    List.append_nil]

theorem exists_append_dropWhile
    (test : Char → Bool) (chars : List Char) :
    ∃ row : Row test, row.chars = chars.takeWhile test ∧
      chars = row.chars ++ chars.dropWhile test :=
  ⟨⟨chars.takeWhile test, fun _ => List.mem_takeWhile_imp⟩, rfl,
    List.takeWhile_append_dropWhile.symm⟩

theorem dropWhile_eq_cons_iff
    {chars rest : List Char} {c : Char} (stops : test c = false) :
    chars.dropWhile test = c :: rest ↔ ∃ row : Row test, chars = row.chars ++ c :: rest := by
  constructor
  · intro dropped
    obtain ⟨row, _, whole⟩ := exists_append_dropWhile test chars
    exact ⟨row, dropped ▸ whole⟩
  · rintro ⟨row, rfl⟩
    exact row.dropWhile_append stops rest

theorem rdropWhile_append
    (row : Row test) (chars : List Char) :
    (chars ++ row.chars).rdropWhile test = chars.rdropWhile test := by
  rw [List.rdropWhile, List.reverse_append, List.dropWhile_append_of_pos, List.rdropWhile]
  exact fun c member => row.all c (List.mem_reverse.mp member)

/-- What is left of a text without the rows at both ends, if it starts and ends otherwise. -/
theorem rdropWhile_dropWhile_append
    (front back : Row test) {chars : List Char} (starts : ∀ c ∈ chars.head?, test c = false)
    (ends : ∀ c ∈ chars.getLast?, test c = false) :
    ((front.chars ++ (chars ++ back.chars)).dropWhile test).rdropWhile test = chars := by
  rw [List.dropWhile_append_of_pos front.all]
  cases chars with
  | nil =>
    rw [List.nil_append, List.dropWhile_eq_nil_iff.mpr back.all]
    rfl
  | cons c rest =>
    have stops : test c = false := starts c rfl
    rw [List.cons_append, List.dropWhile_cons_of_neg (by simp [stops]), ← List.cons_append,
      rdropWhile_append, List.rdropWhile_eq_self_iff]
    intro nonempty
    rw [ends _ (List.getLast?_eq_some_getLast nonempty)]
    exact Bool.false_ne_true

/-- Every text is a text that starts and ends otherwise, with rows at both ends. -/
theorem exists_append_rdropWhile
    (test : Char → Bool) (chars : List Char) :
    let inner := (chars.dropWhile test).rdropWhile test
    (∀ c ∈ inner.head?, test c = false) ∧ (∀ c ∈ inner.getLast?, test c = false) ∧
      ∃ front back : Row test, chars = front.chars ++ (inner ++ back.chars) := by
  intro inner
  refine ⟨?_, ?_, ?_⟩
  · intro c first
    obtain ⟨behind, whole⟩ := List.rdropWhile_prefix test (chars.dropWhile test)
    have kept := List.head?_dropWhile_not test chars
    rw [← whole, List.head?_append, show inner.head? = some c from first] at kept
    simpa using kept
  · intro c last
    have nonempty : inner ≠ [] := by
      rintro none
      rw [none] at last
      cases last
    have isLast := List.getLast?_eq_some_getLast nonempty
    rw [show inner.getLast? = some c from last] at isLast
    rw [Option.some.inj isLast]
    simpa using List.rdropWhile_last_not test _ nonempty
  · obtain ⟨front, _, whole⟩ := exists_append_dropWhile test chars
    refine ⟨front, ⟨(chars.dropWhile test).rtakeWhile test, ?_⟩, ?_⟩
    · exact fun c member => List.mem_rtakeWhile_imp member
    · rw [List.rdropWhile_append_rtakeWhile]
      exact whole

end Row

namespace Text

/-! ## Parts between separators -/

section Parts

variable {isSeparator : Char → Bool} {separator : Char} {chars : List Char}

theorem splitWhere_eq_splitOnP
    (isSeparator : Char → Bool) (chars : List Char) :
    splitWhere isSeparator chars = chars.splitOnP isSeparator := by
  induction chars with
  | nil => rfl
  | cons c rest inductionHypothesis =>
    rw [splitWhere, inductionHypothesis, List.splitOnP_cons_eq_if_modifyHead]
    split
    · rfl
    · cases parts : rest.splitOnP isSeparator with
      | nil => exact absurd parts (List.splitOnP_ne_nil isSeparator rest)
      | cons part parts => rfl

theorem splitWhere_append_cons
    (separator : Char) (before behind : List Char) :
    splitWhere (· == separator) (before ++ separator :: behind) =
      splitWhere (· == separator) before ++ splitWhere (· == separator) behind := by
  simp only [splitWhere_eq_splitOnP]
  exact List.splitOnP_append_cons before behind (beq_self_eq_true separator)

theorem splitWhere_of_not_mem
    (noSeparator : separator ∉ chars) :
    splitWhere (· == separator) chars = [chars] := by
  rw [splitWhere_eq_splitOnP, ← List.splitOn_eq_splitOnP, List.splitOn_eq_singleton noSeparator]

theorem intercalate_splitWhere
    (separator : Char) (chars : List Char) :
    [separator].intercalate (splitWhere (· == separator) chars) = chars := by
  rw [splitWhere_eq_splitOnP, ← List.splitOn_eq_splitOnP, List.intercalate_splitOn]

/-- A text joined from parts falls into the parts of these. -/
theorem splitWhere_intercalate
    {parts : List (List Char)} (nonempty : parts ≠ []) :
    splitWhere (· == separator) ([separator].intercalate parts) =
      parts.flatMap (splitWhere (· == separator)) := by
  induction parts with
  | nil => exact absurd rfl nonempty
  | cons part rest inductionHypothesis =>
    cases rest with
    | nil => rw [List.intercalate_singleton, List.flatMap_singleton]
    | cons next others =>
      rw [List.intercalate_cons_cons, List.append_assoc, List.singleton_append,
        splitWhere_append_cons, List.flatMap_cons, inductionHypothesis (List.cons_ne_nil _ _)]

/-- Parts without the separator are found again in the text that is joined from them. -/
theorem splitWhere_intercalate_of_not_mem
    {parts : List (List Char)} (nonempty : parts ≠ [])
    (noSeparator : ∀ part ∈ parts, separator ∉ part) :
    splitWhere (· == separator) ([separator].intercalate parts) = parts := by
  rw [splitWhere_eq_splitOnP, ← List.splitOn_eq_splitOnP,
    List.splitOn_intercalate separator noSeparator nonempty]

theorem cons_intercalate
    (separator : Char) {parts : List (List Char)} (nonempty : parts ≠ []) :
    separator :: [separator].intercalate parts = parts.flatMap (separator :: ·) := by
  induction parts with
  | nil => exact absurd rfl nonempty
  | cons part rest inductionHypothesis =>
    cases rest with
    | nil => rw [List.intercalate_singleton, List.flatMap_singleton]
    | cons next others =>
      rw [List.intercalate_cons_cons, List.flatMap_cons,
        ← inductionHypothesis (List.cons_ne_nil _ _), List.append_assoc, List.cons_append]
      rfl

theorem separator_notMem_of_mem_splitWhere
    {part : List Char} (member : part ∈ splitWhere (· == separator) chars) :
    separator ∉ part := by
  intro inPart
  have notSeparator := not_isSeparator_of_mem_splitWhere member inPart
  rw [beq_self_eq_true] at notSeparator
  cases notSeparator

/-- The first part starts the text, and every part is a piece of it. -/
theorem infix_of_mem_splitWhere
    {part : List Char} (member : part ∈ splitWhere isSeparator chars) :
    part <:+: chars := by
  suffices pieces : (∀ first rest, splitWhere isSeparator chars = first :: rest → first <+: chars) ∧
      ∀ part ∈ splitWhere isSeparator chars, part <:+: chars from pieces.2 part member
  clear member
  induction chars with
  | nil => simp [splitWhere]
  | cons c rest inductionHypothesis =>
    obtain ⟨starts, pieces⟩ := inductionHypothesis
    have later : ∀ part ∈ splitWhere isSeparator rest, part <:+: c :: rest := fun part member =>
      (pieces part member).trans (List.suffix_cons c rest).isInfix
    rw [splitWhere]
    split
    · refine ⟨fun first others same => ?_, List.forall_mem_cons.mpr ⟨List.nil_infix, later⟩⟩
      rw [← (List.cons.inj same).1]
      exact List.nil_prefix
    · split
      · rename_i none
        exact absurd none (splitWhere_ne_nil isSeparator rest)
      · rename_i first others same
        rw [same] at later
        have front : c :: first <+: c :: rest :=
          (List.prefix_cons_inj c).mpr (starts first others same)
        refine ⟨fun _ _ equal => (List.cons.inj equal).1 ▸ front, ?_⟩
        exact List.forall_mem_cons.mpr ⟨front.isInfix, (List.forall_mem_cons.mp later).2⟩

end Parts

/-! ## Trimmed parts, words and lists -/

theorem trimChars_infix
    (chars : List Char) :
    trimChars chars <:+: chars :=
  (List.rdropWhile_prefix isBlank _).isInfix.trans (List.dropWhile_suffix isBlank).isInfix

theorem infix_of_mem_words
    {chars word : List Char} (member : word ∈ words chars) :
    word <:+: chars :=
  infix_of_mem_splitWhere (List.mem_filter.mp member).1

/-- What a list holds is trimmed and not blank, holds no comma, and is a piece of the text. -/
theorem mem_listed
    {chars : List Char} {item : String} (member : item ∈ listed chars) :
    (item ≠ "" ∧ trim item = item) ∧ ',' ∉ item.toList ∧ item.toList <:+: chars := by
  obtain ⟨trimmed, kept, rfl⟩ := List.mem_map.mp member
  obtain ⟨isPart, nonempty⟩ := List.mem_filter.mp kept
  obtain ⟨part, inText, rfl⟩ := List.mem_map.mp isPart
  have within : trimChars part <:+: part := trimChars_infix part
  rw [String.toList_ofList]
  refine ⟨⟨fun blank => ?_, ?_⟩, fun comma => ?_, within.trans (infix_of_mem_splitWhere inText)⟩
  · have noChars := congrArg String.toList blank
    rw [String.toList_ofList] at noChars
    simp [noChars] at nonempty
  · rw [trim, String.toList_ofList, trimChars_trimChars]
  · exact separator_notMem_of_mem_splitWhere inText (within.subset comma)

end Text

end TestGate
