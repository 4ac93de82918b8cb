import TestGate.Proofs.TextParts
import TestGate.Version

/-!
The text of a version, and versions inside texts. Main statements: a text is read as a version
exactly when it is one, blanks around it apart; the text of a version is read as that version,
anywhere inside a text that does not go on with it; and a version that was found in a text is found
again in its own text.
-/

namespace TestGate

open Text

/-! ## The text of a version -/

namespace Version

theorem isDecimalDigit_of_isDigit
    {c : Char}
    (isDigit : c.isDigit = true) :
    isDecimalDigit c = true := by
  rw [isDecimalDigit, CharSet.contains_iff]
  refine ⟨(0x30, 0x39), by decide, ?_⟩
  exact Char.isDigit_iff_toNat.mp isDigit

theorem not_isBlank_of_isDecimalDigit
    {c : Char}
    (isDigit : isDecimalDigit c = true) :
    isBlank c = false :=
  CharSet.not_contains_of_apart (by decide +kernel) isDigit

/-- The characters of the text of a version. -/
def chars (version : Version) : List Char :=
  ['.'].intercalate (version.components.map fun component => natChars component.toNat)

theorem toList_toText
    (version : Version) :
    version.toText.toList = version.chars := by
  rw [toText, String.toList_intercalate, List.map_map, chars]
  congr 1
  refine List.map_congr_left fun component _ => ?_
  exact String.toList_ofList

theorem dottedRun_append
    {piece : List Char} (behind : List Char)
    (digits : ∀ c ∈ piece, isDecimalDigit c = true) :
    dottedRun (piece ++ behind) = piece ++ dottedRun behind := by
  induction piece with
  | nil => rfl
  | cons c rest inductionHypothesis =>
    rw [List.cons_append, dottedRun, digits c List.mem_cons_self, Bool.true_or, if_pos rfl,
      inductionHypothesis fun other member => digits other (List.mem_cons_of_mem c member),
      List.cons_append]

/-- Whether these are rows of digits, at least one and none of them empty. -/
def AreNumerals (pieces : List (List Char)) : Prop :=
  pieces ≠ [] ∧ ∀ piece ∈ pieces, piece ≠ [] ∧ ∀ c ∈ piece, c.isDigit = true

instance (pieces : List (List Char)) : Decidable (AreNumerals pieces) :=
  decidable_of_iff
    (pieces ≠ [] ∧ pieces.all fun piece => !piece.isEmpty && piece.all Char.isDigit)
    (by simp [AreNumerals])

theorem AreNumerals.of_components
    (version : Version) :
    AreNumerals (version.components.map fun component => natChars component.toNat) := by
  refine ⟨fun none => version.ne_nil (List.map_eq_nil_iff.mp none), fun piece member => ?_⟩
  obtain ⟨component, _, rfl⟩ := List.mem_map.mp member
  exact ⟨natChars_ne_nil _, fun c inPiece => isDigit_of_mem_natChars inPiece⟩

theorem AreNumerals.tail
    {piece next : List Char} {others : List (List Char)}
    (numerals : AreNumerals (piece :: next :: others)) :
    AreNumerals (next :: others) :=
  ⟨List.cons_ne_nil _ _, fun other member => numerals.2 other (List.mem_cons_of_mem piece member)⟩

theorem AreNumerals.head
    {pieces : List (List Char)}
    (numerals : AreNumerals pieces) :
    ∃ first behind, ['.'].intercalate pieces = first :: behind ∧ first.isDigit = true := by
  obtain ⟨nonempty, digits⟩ := numerals
  cases pieces with
  | nil => exact absurd rfl nonempty
  | cons piece rest =>
    obtain ⟨pieceNonempty, pieceDigits⟩ := digits piece List.mem_cons_self
    cases piece with
    | nil => exact absurd rfl pieceNonempty
    | cons first behind =>
      have isDigit := pieceDigits first List.mem_cons_self
      cases rest with
      | nil => exact ⟨first, behind, List.intercalate_singleton, isDigit⟩
      | cons next others =>
        exact ⟨first, _, List.intercalate_cons_cons, isDigit⟩

theorem AreNumerals.mem
    {pieces : List (List Char)} {c : Char}
    (numerals : AreNumerals pieces) (member : c ∈ ['.'].intercalate pieces) :
    c = '.' ∨ c.isDigit = true := by
  induction pieces with
  | nil => cases member
  | cons piece rest inductionHypothesis =>
    have pieceDigits := (numerals.2 piece List.mem_cons_self).2
    cases rest with
    | nil =>
      rw [List.intercalate_singleton] at member
      exact Or.inr (pieceDigits c member)
    | cons next others =>
      rw [List.intercalate_cons_cons, List.append_assoc, List.mem_append, List.singleton_append,
        List.mem_cons] at member
      rcases member with inPiece | isDot | inRest
      · exact Or.inr (pieceDigits c inPiece)
      · exact Or.inl isDot
      · exact inductionHypothesis numerals.tail inRest

/-- Numerals joined by points are a row as a whole, up to a text that does not go on with it. -/
theorem AreNumerals.dottedRun_append
    {pieces : List (List Char)} {behind : List Char}
    (numerals : AreNumerals pieces) (ends : dottedRun behind = []) :
    dottedRun (['.'].intercalate pieces ++ behind) = ['.'].intercalate pieces := by
  induction pieces with
  | nil => exact absurd rfl numerals.1
  | cons piece rest inductionHypothesis =>
    have pieceDigits : ∀ c ∈ piece, isDecimalDigit c = true := fun c member =>
      isDecimalDigit_of_isDigit ((numerals.2 piece List.mem_cons_self).2 c member)
    cases rest with
    | nil =>
      rw [List.intercalate_singleton, Version.dottedRun_append behind pieceDigits, ends,
        List.append_nil]
    | cons next others =>
      have later := inductionHypothesis numerals.tail
      obtain ⟨first, rest, starts, isDigit⟩ := numerals.tail.head
      simp only [List.intercalate_cons_cons, List.append_assoc, List.cons_append, List.nil_append]
      rw [Version.dottedRun_append _ pieceDigits]
      congr 1
      rw [starts, List.cons_append] at later
      rw [starts, List.cons_append, Version.dottedRun, later, List.head?_cons, Option.any_some,
        isDecimalDigit_of_isDigit isDigit]
      rfl

/-- Numerals joined by points are free of blanks. -/
theorem AreNumerals.trimChars
    {pieces : List (List Char)}
    (numerals : AreNumerals pieces) :
    trimChars (['.'].intercalate pieces) = ['.'].intercalate pieces := by
  refine trimChars_of_no_blank fun c member => ?_
  rcases numerals.mem member with rfl | isDigit
  · decide
  · exact not_isBlank_of_isDecimalDigit (isDecimalDigit_of_isDigit isDigit)

/-! ## Reading versions -/

theorem readComponent?_eq_some_iff
    {piece : List Char} {component : UInt64} :
    readComponent? piece = some component ↔
      (piece ≠ [] ∧ ∀ c ∈ piece, c.isDigit = true) ∧ digitsValue piece = component.toNat := by
  have isNumeral : (!piece.isEmpty && piece.all Char.isDigit) = true ↔
      piece ≠ [] ∧ ∀ c ∈ piece, c.isDigit = true := by
    simp
  rw [readComponent?, readNat?, ← isNumeral]
  cases !piece.isEmpty && piece.all Char.isDigit with
  | false => simp
  | true =>
    simp only [if_true, true_and]
    split
    · rename_i bounded
      rw [Option.some_inj, ← UInt64.toNat_inj, UInt64.toNat_ofNat_of_lt' bounded]
    · rename_i unbounded
      refine iff_of_false (Option.some_ne_none component).symm fun same => unbounded ?_
      rw [same]
      exact component.toNat_lt_size

theorem mapM_readComponent?_eq_some_iff
    {pieces : List (List Char)} {components : List UInt64} :
    pieces.mapM readComponent? = some components ↔
      (∀ piece ∈ pieces, piece ≠ [] ∧ ∀ c ∈ piece, c.isDigit = true) ∧
        pieces.map digitsValue = components.map UInt64.toNat := by
  induction pieces generalizing components with
  | nil =>
    refine ⟨fun same => Option.some.inj same ▸ ⟨List.forall_mem_nil _, rfl⟩, fun same => ?_⟩
    rw [List.map_eq_nil_iff.mp same.2.symm]
    rfl
  | cons piece rest inductionHypothesis =>
    rw [List.mapM_cons, List.forall_mem_cons, List.map_cons]
    constructor
    · intro read
      obtain ⟨first, isFirst, read⟩ := Option.bind_eq_some_iff.mp read
      obtain ⟨others, areOthers, made⟩ := Option.bind_eq_some_iff.mp read
      cases made
      obtain ⟨numeral, value⟩ := readComponent?_eq_some_iff.mp isFirst
      obtain ⟨numerals, values⟩ := inductionHypothesis.mp areOthers
      exact ⟨⟨numeral, numerals⟩, by rw [value, values, List.map_cons]⟩
    · rintro ⟨⟨numeral, numerals⟩, values⟩
      cases components with
      | nil => cases values
      | cons first others =>
        obtain ⟨value, values⟩ := List.cons.inj values
        refine Option.bind_eq_some_iff.mpr
          ⟨first, readComponent?_eq_some_iff.mpr ⟨numeral, value⟩, ?_⟩
        exact Option.bind_eq_some_iff.mpr
          ⟨others, inductionHypothesis.mpr ⟨numerals, values⟩, rfl⟩

theorem AreNumerals.dot_notMem
    {pieces : List (List Char)}
    (numerals : AreNumerals pieces) :
    ∀ piece ∈ pieces, '.' ∉ piece := by
  intro piece member isDot
  have isDigit := (numerals.2 piece member).2 '.' isDot
  revert isDigit
  decide

/-- Components are read exactly from numerals that are joined by points. -/
theorem readComponents?_eq_some_iff
    {chars : List Char} {components : List UInt64} :
    readComponents? chars = some components ↔
      ∃ pieces, AreNumerals pieces ∧ chars = ['.'].intercalate pieces ∧
        pieces.map digitsValue = components.map UInt64.toNat := by
  rw [readComponents?, mapM_readComponent?_eq_some_iff]
  constructor
  · rintro ⟨numerals, values⟩
    exact ⟨_, ⟨splitWhere_ne_nil _ _, numerals⟩, (intercalate_splitWhere '.' chars).symm, values⟩
  · rintro ⟨pieces, numerals, rfl, values⟩
    rw [splitWhere_intercalate_of_not_mem numerals.1 numerals.dot_notMem]
    exact ⟨numerals.2, values⟩

theorem ofComponents?_eq_some_iff
    {components : List UInt64} {version : Version} :
    ofComponents? components = some version ↔ components = version.components := by
  obtain ⟨others, nonempty⟩ := version
  rw [ofComponents?]
  split
  · rename_i none
    exact iff_of_false nofun fun same => nonempty (same.symm.trans none)
  · simp

/-- A text is read as a version if it consists of the numerals of its components, joined by points,
and of blanks around them. -/
theorem parse?_eq_some_iff
    {text : String} {version : Version} :
    parse? text = some version ↔
      ∃ pieces, AreNumerals pieces ∧ trimChars text.toList = ['.'].intercalate pieces ∧
        pieces.map digitsValue = version.components.map UInt64.toNat := by
  simp only [parse?, Option.bind_eq_some_iff, ofComponents?_eq_some_iff, exists_eq_right,
    readComponents?_eq_some_iff]

/-- The text of a version is read as that version. -/
theorem parse?_chars
    (version : Version) :
    parse? (String.ofList version.chars) = some version := by
  have numerals := AreNumerals.of_components version
  refine parse?_eq_some_iff.mpr ⟨_, numerals, ?_, ?_⟩
  · rw [String.toList_ofList, chars, numerals.trimChars]
  · rw [List.map_map]
    exact List.map_congr_left fun component _ => digitsValue_natChars component.toNat

/-! ## Versions inside texts -/

/-- Digits without a point are passed over. -/
theorem firstDotted?_of_digits
    {digits : List Char}
    (areDigits : ∀ c ∈ digits, c.isDigit = true) :
    firstDotted? digits = none := by
  induction digits with
  | nil => rfl
  | cons first rest inductionHypothesis =>
    have whole : dottedRun (first :: rest ++ []) = first :: rest ++ dottedRun [] :=
      dottedRun_append [] fun c member => isDecimalDigit_of_isDigit (areDigits c member)
    rw [List.append_nil, dottedRun.eq_def [], List.append_nil] at whole
    have noDot : (first :: rest).contains '.' = false := by
      rw [Bool.eq_false_iff]
      intro hasDot
      have isDigit := areDigits '.' (List.contains_iff_mem.mp hasDot)
      revert isDigit
      decide
    rw [firstDotted?, whole, noDot, Bool.and_false]
    exact inductionHypothesis fun c member => areDigits c (List.mem_cons_of_mem first member)

/-- What stands before the first digit does not matter. -/
theorem firstDotted?_append
    {before : List Char} (noDigit : ∀ c ∈ before, isDecimalDigit c = false) (behind : List Char) :
    firstDotted? (before ++ behind) = firstDotted? behind := by
  induction before with
  | nil => rfl
  | cons c rest inductionHypothesis =>
    obtain ⟨first, others⟩ := List.forall_mem_cons.mp noDigit
    rw [List.cons_append, firstDotted?, first, Bool.false_and]
    exact inductionHypothesis others

/-- A row ends before a text that starts neither with a digit nor with a point and a digit. -/
theorem dottedRun_eq_nil
    {behind : List Char} (noDigit : ∀ c ∈ behind.head?, isDecimalDigit c = false)
    (noPoint : ∀ c rest, behind = '.' :: c :: rest → isDecimalDigit c = false) :
    dottedRun behind = [] := by
  cases behind with
  | nil => rfl
  | cons first rest =>
    have notFirst : isDecimalDigit first = false := noDigit first rfl
    rw [dottedRun, if_neg]
    rw [notFirst, Bool.false_or, Bool.and_eq_true, beq_iff_eq]
    rintro ⟨rfl, hasDigit⟩
    cases rest with
    | nil => cases hasDigit
    | cons second others =>
      rw [List.head?_cons, Option.any_some, noPoint second others rfl] at hasDigit
      cases hasDigit

theorem dot_mem_chars
    {version : Version}
    (several : 2 ≤ version.components.length) :
    '.' ∈ version.chars := by
  rw [chars]
  revert several
  cases version.components with
  | nil => nofun
  | cons first others =>
    cases others with
    | nil => exact fun several => absurd several (by simp)
    | cons second rest =>
      rw [List.map_cons, List.map_cons, List.intercalate_cons_cons]
      simp

/-- A version with two components is found whole, whatever text without digits stands before it, if
the text behind it does not go on with it. -/
theorem extract?_embedded
    {version : Version} (several : 2 ≤ version.components.length) {before behind : List Char}
    (noDigit : ∀ c ∈ before, isDecimalDigit c = false) (ends : dottedRun behind = []) :
    extract? (String.ofList (before ++ (version.chars ++ behind))) = some version := by
  have numerals := AreNumerals.of_components version
  have run : dottedRun (version.chars ++ behind) = version.chars := numerals.dottedRun_append ends
  have found : firstDotted? (version.chars ++ behind) = some version.chars := by
    obtain ⟨first, rest, starts, isDigit⟩ := numerals.head
    have hasDot := dot_mem_chars several
    rw [chars, starts] at run hasDot ⊢
    rw [List.cons_append, firstDotted?, ← List.cons_append, run, List.contains_iff_mem.mpr hasDot,
      isDecimalDigit_of_isDigit isDigit]
    rfl
  rw [extract?, String.toList_ofList, firstDotted?_append noDigit, found, Option.bind_some,
    parse?_chars]

/-- In the text of a version is this version if it has two components, and no other. -/
theorem extract?_toText
    (version : Version) :
    extract? version.toText = if 2 ≤ version.components.length then some version else none := by
  split
  · rename_i several
    have found := @extract?_embedded version several [] [] (List.forall_mem_nil _) rfl
    rwa [List.nil_append, List.append_nil, ← toList_toText, String.ofList_toList] at found
  · -- a single component has no point in it, and is passed over
    rename_i single
    have digits : ∀ c ∈ version.chars, c.isDigit = true := by
      have one : version.components.length = 1 := by
        have positive := List.length_pos_iff.mpr version.ne_nil
        omega
      obtain ⟨component, same⟩ := List.length_eq_one_iff.mp one
      rw [chars, same, List.map_singleton, List.intercalate_singleton]
      exact fun c member => isDigit_of_mem_natChars member
    rw [extract?, toList_toText, firstDotted?_of_digits digits, Option.bind_none]

theorem mem_dottedRun
    {text : List Char} {c : Char}
    (member : c ∈ dottedRun text) :
    c = '.' ∨ isDecimalDigit c = true := by
  induction text with
  | nil => cases member
  | cons first rest inductionHypothesis =>
    rw [dottedRun] at member
    split at member
    · rename_i accepted
      rcases List.mem_cons.mp member with rfl | inRest
      · rcases Bool.or_eq_true_iff.mp accepted with isDigit | isDot
        · exact Or.inr isDigit
        · exact Or.inl (beq_iff_eq.mp (Bool.and_eq_true_iff.mp isDot).1)
      · exact inductionHypothesis inRest
    · cases member

theorem firstDotted?_spec
    {text run : List Char}
    (found : firstDotted? text = some run) :
    '.' ∈ run ∧ ∀ c ∈ run, isBlank c = false := by
  induction text with
  | nil => cases found
  | cons first rest inductionHypothesis =>
    rw [firstDotted?] at found
    split at found
    · rename_i accepted
      cases found
      refine ⟨List.contains_iff_mem.mp (Bool.and_eq_true_iff.mp accepted).2, fun c member => ?_⟩
      rcases mem_dottedRun member with rfl | isDigit
      · decide
      · exact not_isBlank_of_isDecimalDigit isDigit
    · exact inductionHypothesis found

theorem AreNumerals.two_le_length
    {pieces : List (List Char)}
    (numerals : AreNumerals pieces) (hasDot : '.' ∈ ['.'].intercalate pieces) :
    2 ≤ pieces.length := by
  cases pieces with
  | nil => cases hasDot
  | cons piece rest =>
    cases rest with
    | nil =>
      rw [List.intercalate_singleton] at hasDot
      exact absurd hasDot (numerals.dot_notMem piece List.mem_cons_self)
    | cons next others => simp

/-- A version that was found in a text is found again in its own text. -/
theorem extract?_toText_of_extract?
    {text : String} {version : Version}
    (found : extract? text = some version) :
    extract? version.toText = some version := by
  obtain ⟨run, isRun, parsed⟩ := Option.bind_eq_some_iff.mp found
  obtain ⟨hasDot, noBlank⟩ := firstDotted?_spec isRun
  obtain ⟨pieces, numerals, joined, values⟩ := parse?_eq_some_iff.mp parsed
  rw [String.toList_ofList, trimChars_of_no_blank noBlank] at joined
  have length : pieces.length = version.components.length := by
    simpa using congrArg List.length values
  rw [extract?_toText, if_pos (length ▸ numerals.two_le_length (joined ▸ hasDot))]

/-! ## What the texts of versions are -/

/-- Whether a text consists, blanks around it apart, of these numerals joined by points, each of
which denotes a number of 64 bits. -/
structure IsWrittenWith (text : String) (numerals : List (List Char)) : Prop where
  areNumerals : AreNumerals numerals
  joined : trimChars text.toList = ['.'].intercalate numerals
  bounded : ∀ numeral ∈ numerals, digitsValue numeral < UInt64.size

theorem parse?_eq_some_iff_isWrittenWith
    {text : String} {version : Version} :
    parse? text = some version ↔
      ∃ numerals, IsWrittenWith text numerals ∧
        version.components.map UInt64.toNat = numerals.map digitsValue := by
  rw [parse?_eq_some_iff]
  refine exists_congr fun numerals => ⟨?_, ?_⟩
  · rintro ⟨areNumerals, joined, values⟩
    refine ⟨⟨areNumerals, joined, fun numeral member => ?_⟩, values.symm⟩
    have isValue : digitsValue numeral ∈ version.components.map UInt64.toNat :=
      values ▸ List.mem_map_of_mem member
    obtain ⟨component, _, same⟩ := List.mem_map.mp isValue
    exact same ▸ component.toNat_lt_size
  · rintro ⟨written, values⟩
    exact ⟨written.areNumerals, written.joined, values.symm⟩

theorem isSome_parse?_iff
    {text : String} :
    (parse? text).isSome = true ↔ ∃ numerals, IsWrittenWith text numerals := by
  rw [Option.isSome_iff_exists]
  constructor
  · rintro ⟨version, parsed⟩
    obtain ⟨numerals, written, _⟩ := parse?_eq_some_iff_isWrittenWith.mp parsed
    exact ⟨numerals, written⟩
  · rintro ⟨numerals, written⟩
    let version : Version :=
      { components := numerals.map fun numeral => UInt64.ofNat (digitsValue numeral)
        ne_nil := by simpa using written.areNumerals.1 }
    refine ⟨version, parse?_eq_some_iff_isWrittenWith.mpr ⟨numerals, written, ?_⟩⟩
    rw [List.map_map]
    exact List.map_congr_left fun numeral member =>
      UInt64.toNat_ofNat_of_lt' (written.bounded numeral member)

/-- A text is read as a version exactly when it is one or more numerals of 64 bits joined by points,
blanks around them apart, and as the version with these components. A version is read back from its
text, and found whole inside a text that has no digit before it and does not go on with it. -/
theorem text_reads_exactly
    (text : String) (version : Version) :
    ((parse? text).isSome = true ↔ ∃ numerals, IsWrittenWith text numerals) ∧
      (parse? text = some version ↔
        ∃ numerals, IsWrittenWith text numerals ∧
          version.components.map UInt64.toNat = numerals.map digitsValue) ∧
      parse? version.toText = some version ∧
      (2 ≤ version.components.length → ∀ before after : String,
        (∀ c ∈ before.toList, isDecimalDigit c = false) →
        (∀ c ∈ after.toList.head?, isDecimalDigit c = false) →
        (∀ c rest, after.toList = '.' :: c :: rest → isDecimalDigit c = false) →
          extract? (before ++ version.toText ++ after) = some version) := by
  refine ⟨isSome_parse?_iff, parse?_eq_some_iff_isWrittenWith, ?_, ?_⟩
  · rw [← String.ofList_toList (s := version.toText), toList_toText, parse?_chars]
  · intro several before after noDigit noNext noPoint
    have whole : before ++ version.toText ++ after =
        String.ofList (before.toList ++ (version.chars ++ after.toList)) := by
      rw [← String.toList_inj, String.toList_ofList, String.toList_append, String.toList_append,
        toList_toText, List.append_assoc]
    rw [whole, extract?_embedded several noDigit (dottedRun_eq_nil noNext noPoint)]

/-- A version with leading zeros and blanks around it, and one inside a milestone. -/
theorem text_reads_exactly_milestone :
    let version : Version := { components := [6, 10] }
    (parse? "\u00a006.010\n" = some version) ∧ extract? "sat-6.10.z" = some version := by
  intro version
  have written : IsWrittenWith "\u00a006.010\n" [['0', '6'], ['0', '1', '0']] :=
    ⟨by decide, by decide +kernel, by decide⟩
  have noDigit : ∀ c ∈ "sat-".toList, isDecimalDigit c = false := fun c member =>
    Bool.eq_false_iff.mpr (List.any_eq_false.mp (by decide) c member)
  have noNext : ∀ c ∈ ".z".toList.head?, isDecimalDigit c = false := by
    rintro _ ⟨⟩
    decide
  have noPoint : ∀ c rest, ".z".toList = '.' :: c :: rest → isDecimalDigit c = false := by
    rintro _ _ ⟨⟩
    decide
  obtain ⟨_, reads, _, finds⟩ := text_reads_exactly "\u00a006.010\n" version
  exact ⟨reads.mpr ⟨_, written, by decide⟩, finds (by decide) "sat-" ".z" noDigit noNext noPoint⟩

end Version

end TestGate
