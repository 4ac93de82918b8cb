import TestGate.Proofs.TextParts

/-!
Guards in source code as they are written. Main statement: what is read as a guard is exactly what
is written as one, and what stands between its quotes is read as a reference to the same issue.
-/

namespace TestGate

open Text Issue

namespace CallSite

/-- The two characters that quote a reference. -/
inductive Quote where
  | single
  | double

def Quote.char : Quote → Char
  | single => '\''
  | double => '"'

theorem Quote.not_isBlank (quote : Quote) : isBlank quote.char = false := by
  cases quote <;> decide

theorem Quote.not_isIdChar (quote : Quote) : isIdChar quote.char = false := by
  cases quote
  · exact isIdChar_of_ascii (by decide)
  · exact isIdChar_of_ascii (by decide)

/-- A call of `is_open` as it is written. Its tag is any two characters that are no digits. -/
structure WrittenCall where
  beforeQuote : Row isBlank
  opening : Quote
  first : Char
  second : Char
  beforeColon : Row isBlank
  afterColon : Row isBlank
  id : Row isIdChar
  closing : Quote
  beforeEnd : Row isBlank
  noDigits : isDecimalDigit first = false ∧ isDecimalDigit second = false
  id_ne_nil : id.chars ≠ []

namespace WrittenCall

def tag (call : WrittenCall) : List Char :=
  [call.first, call.second]

/-- What stands between the quotes. -/
def quoted (call : WrittenCall) : List Char :=
  call.tag ++ call.beforeColon.chars ++ ':' :: (call.afterColon.chars ++ call.id.chars)

def chars (call : WrittenCall) : List Char :=
  "is_open(".toList ++ call.beforeQuote.chars ++ call.opening.char :: call.quoted ++
    call.closing.char :: (call.beforeEnd.chars ++ [')'])

/-- The id starts where the blanks in front of it end. -/
theorem dropWhile_id
    (call : WrittenCall) (rest : List Char) :
    (call.afterColon.chars ++ (call.id.chars ++ rest)).dropWhile isBlank =
      call.id.chars ++ rest := by
  obtain ⟨c, others, whole⟩ := List.exists_cons_of_ne_nil call.id_ne_nil
  have isId : isIdChar c = true := call.id.all c (whole ▸ List.mem_cons_self)
  rw [whole, List.cons_append, call.afterColon.dropWhile_append (not_isBlank_of_isIdChar isId)]

theorem chars_append
    (call : WrittenCall) (behind : List Char) :
    call.chars ++ behind =
      "is_open(".toList ++ (call.beforeQuote.chars ++ call.opening.char :: call.first ::
        call.second :: (call.beforeColon.chars ++ ':' :: (call.afterColon.chars ++
          (call.id.chars ++ call.closing.char :: (call.beforeEnd.chars ++ ')' :: behind))))) := by
  unfold chars quoted tag
  simp only [List.append_assoc, List.cons_append, List.nil_append]

end WrittenCall

/-- A guard as it is written; blanks must follow `if` and `not`. -/
structure WrittenGuard where
  afterIf : Row isBlank
  afterNot : Option (Row isBlank)
  call : WrittenCall
  afterIf_ne_nil : afterIf.chars ≠ []
  afterNot_ne_nil : ∀ blanks ∈ afterNot, blanks.chars ≠ []

namespace WrittenGuard

/-- The negation with the blanks behind it, if it is there. -/
def negation : Option (Row isBlank) → List Char
  | some blanks => "not".toList ++ blanks.chars
  | none => []

def chars (written : WrittenGuard) : List Char :=
  "if".toList ++ written.afterIf.chars ++ negation written.afterNot ++ written.call.chars

def guard (written : WrittenGuard) : Guard :=
  ⟨written.afterNot.isSome, written.call.tag, written.call.id.chars⟩

theorem chars_append
    (written : WrittenGuard) (behind : List Char) :
    written.chars ++ behind =
      "if".toList ++ (written.afterIf.chars ++
        (negation written.afterNot ++ (written.call.chars ++ behind))) := by
  unfold chars
  simp only [List.append_assoc]

/-- A guard ends with its bracket. -/
theorem exists_body
    (written : WrittenGuard) :
    ∃ body, ∀ behind, written.chars ++ behind = 'i' :: (body ++ ')' :: behind) := by
  let call := written.call
  refine ⟨'f' :: (written.afterIf.chars ++ (negation written.afterNot ++ ("is_open(".toList ++
    (call.beforeQuote.chars ++ call.opening.char :: (call.quoted ++
      call.closing.char :: call.beforeEnd.chars))))), fun behind => ?_⟩
  unfold chars WrittenCall.chars
  simp only [List.append_assoc, List.cons_append, List.nil_append]
  rfl

/-- What follows the blanks behind `if` starts with a letter. -/
theorem exists_letter
    (afterNot : Option (Row isBlank)) (call : WrittenCall) (behind : List Char) :
    ∃ letter rest, isBlank letter = false ∧
      negation afterNot ++ (call.chars ++ behind) = letter :: rest := by
  cases afterNot with
  | none => exact ⟨'i', _, by decide, call.chars_append behind⟩
  | some blanks => exact ⟨'n', _, by decide, rfl⟩

end WrittenGuard

/-! ## Reading -/

theorem passWord_eq_some_iff
    {word chars rest : List Char} :
    passWord word chars = some rest ↔ chars = word ++ rest := by
  induction word generalizing chars with
  | nil => simp [passWord, eq_comm]
  | cons letter word inductionHypothesis =>
    cases chars with
    | nil => simp [passWord]
    | cons c chars =>
      rw [passWord]
      split
      · rename_i same
        rw [inductionHypothesis, same, List.cons_append, List.cons_inj_right]
      · rename_i different
        simp [different]

theorem passQuote_eq_some_iff
    {chars rest : List Char} :
    passQuote chars = some rest ↔ ∃ quote : Quote, chars = quote.char :: rest := by
  constructor
  · intro passed
    rw [passQuote.eq_def] at passed
    split at passed
    · cases passed
      exact ⟨.single, rfl⟩
    · cases passed
      exact ⟨.double, rfl⟩
    · cases passed
  · rintro ⟨quote, rfl⟩
    cases quote <;> rfl

theorem passTag_eq_some_iff
    {chars tag rest : List Char} :
    passTag chars = some (tag, rest) ↔
      ∃ first second, (isDecimalDigit first = false ∧ isDecimalDigit second = false) ∧
        tag = [first, second] ∧ chars = first :: second :: rest := by
  rw [passTag.eq_def]
  split
  · rename_i first second behind
    split
    · rename_i digit
      constructor
      · nofun
      · rintro ⟨other, another, ⟨noDigit, noOther⟩, _, same⟩
        cases same
        simp [noDigit, noOther] at digit
    · rename_i noDigit
      simp only [Bool.or_eq_true, not_or, Bool.not_eq_true] at noDigit
      constructor
      · intro passed
        cases passed
        exact ⟨first, second, noDigit, rfl, rfl⟩
      · rintro ⟨_, _, _, rfl, same⟩
        cases same
        rfl
  · rename_i short
    refine iff_of_false nofun ?_
    rintro ⟨first, second, _, _, rfl⟩
    exact short first second rest rfl

theorem passBlanks_eq_some
    {chars rest : List Char} (passed : passBlanks chars = some rest) :
    ∃ blanks : Row isBlank, blanks.chars ≠ [] ∧ chars = blanks.chars ++ rest := by
  cases chars with
  | nil => cases passed
  | cons c chars =>
    rw [passBlanks] at passed
    split at passed
    · rename_i blank
      cases passed
      obtain ⟨row, _, whole⟩ := Row.exists_append_dropWhile isBlank chars
      refine ⟨⟨c :: row.chars, List.forall_mem_cons.mpr ⟨blank, row.all⟩⟩, List.cons_ne_nil _ _, ?_⟩
      rw [List.cons_append, ← whole]
    · cases passed

/-- Blanks are passed as a whole, for what follows them is none. -/
theorem passBlanks_append
    {blanks : Row isBlank} (nonempty : blanks.chars ≠ []) {c : Char} (stops : isBlank c = false)
    (rest : List Char) :
    passBlanks (blanks.chars ++ c :: rest) = some (c :: rest) := by
  obtain ⟨chars, all⟩ := blanks
  cases chars with
  | nil => exact absurd rfl nonempty
  | cons first row =>
    obtain ⟨blank, others⟩ := List.forall_mem_cons.mp all
    rw [List.cons_append, passBlanks, if_pos blank]
    exact congrArg some (Row.dropWhile_append ⟨row, others⟩ stops rest)

theorem passWord_dropWhile_iff
    {letter : Char} {word chars rest : List Char} (notBlank : isBlank letter = false) :
    passWord (letter :: word) (chars.dropWhile isBlank) = some rest ↔
      ∃ blanks : Row isBlank, chars = blanks.chars ++ letter :: (word ++ rest) := by
  rw [passWord_eq_some_iff, List.cons_append, Row.dropWhile_eq_cons_iff notBlank]

theorem passQuote_dropWhile_iff
    {chars rest : List Char} :
    passQuote (chars.dropWhile isBlank) = some rest ↔
      ∃ (quote : Quote) (blanks : Row isBlank), chars = blanks.chars ++ quote.char :: rest := by
  rw [passQuote_eq_some_iff]
  exact exists_congr fun quote => Row.dropWhile_eq_cons_iff quote.not_isBlank

/-- Reads a guard from its id on. -/
def readId? (negated : Bool) (tag chars : List Char) : Option (Guard × List Char) := do
  let id := chars.takeWhile isIdChar
  if id.isEmpty then
    none
  let chars ← passQuote (chars.dropWhile isIdChar)
  let chars ← passWord [')'] (chars.dropWhile isBlank)
  return (⟨negated, tag, id⟩, chars)

/-- Reads a guard from its call on. -/
def readCall? (negated : Bool) (chars : List Char) : Option (Guard × List Char) := do
  let chars ← passWord "is_open(".toList chars
  let chars ← passQuote (chars.dropWhile isBlank)
  let (tag, chars) ← passTag chars
  let chars ← passWord [':'] (chars.dropWhile isBlank)
  readId? negated tag (chars.dropWhile isBlank)

/-- Reads a guard from behind its `if` on. -/
def readCondition? (chars : List Char) : Option (Guard × List Char) :=
  match passNot chars with
  | some rest => readCall? true rest
  | none => readCall? false chars

theorem readGuard?_eq
    (chars : List Char) :
    readGuard? chars =
      ((passWord "if".toList chars).bind passBlanks).bind readCondition? := by
  rw [Option.bind_assoc]
  refine bind_congr fun rest => bind_congr fun chars => ?_
  rw [readCondition?]
  cases passNot chars <;> rfl

theorem readId?_eq_some_iff
    {negated : Bool} {tag chars behind : List Char} {guard : Guard} :
    readId? negated tag chars = some (guard, behind) ↔
      ∃ (id : Row isIdChar) (closing : Quote) (beforeEnd : Row isBlank), id.chars ≠ [] ∧
        guard = ⟨negated, tag, id.chars⟩ ∧
        chars = id.chars ++ closing.char :: (beforeEnd.chars ++ ')' :: behind) := by
  rw [readId?]
  constructor
  · intro read
    obtain ⟨id, isId, whole⟩ := Row.exists_append_dropWhile isIdChar chars
    split at read
    · cases read
    · rename_i nonempty
      obtain ⟨rest, isQuote, read⟩ := Option.bind_eq_some_iff.mp read
      obtain ⟨_, isEnd, same⟩ := Option.bind_eq_some_iff.mp read
      cases same
      obtain ⟨closing, quoted⟩ := passQuote_eq_some_iff.mp isQuote
      obtain ⟨beforeEnd, rfl⟩ := (passWord_dropWhile_iff (by decide)).mp isEnd
      refine ⟨id, closing, beforeEnd, ?_, by rw [isId], quoted ▸ whole⟩
      rw [isId]
      simpa using nonempty
  · rintro ⟨id, closing, beforeEnd, nonempty, rfl, rfl⟩
    have isQuote : passQuote (closing.char :: (beforeEnd.chars ++ ')' :: behind)) =
        some (beforeEnd.chars ++ ')' :: behind) := passQuote_eq_some_iff.mpr ⟨closing, rfl⟩
    have isEnd : passWord [')'] ((beforeEnd.chars ++ ')' :: behind).dropWhile isBlank) =
        some behind := (passWord_dropWhile_iff (by decide)).mpr ⟨beforeEnd, rfl⟩
    have stops := closing.not_isIdChar
    rw [id.takeWhile_append stops, id.dropWhile_append stops, isQuote]
    simp only [List.isEmpty_iff, nonempty, if_false, bind, pure, Option.bind_some, isEnd]

theorem readCall?_eq_some_iff
    {negated : Bool} {chars behind : List Char} {guard : Guard} :
    readCall? negated chars = some (guard, behind) ↔
      ∃ call : WrittenCall, guard = ⟨negated, call.tag, call.id.chars⟩ ∧
        chars = call.chars ++ behind := by
  rw [readCall?]
  constructor
  · intro read
    obtain ⟨afterCall, isCall, read⟩ := Option.bind_eq_some_iff.mp read
    obtain ⟨afterQuote, isQuote, read⟩ := Option.bind_eq_some_iff.mp read
    obtain ⟨⟨tag, afterTag⟩, isTag, read⟩ := Option.bind_eq_some_iff.mp read
    obtain ⟨afterColon, isColon, read⟩ := Option.bind_eq_some_iff.mp read
    obtain ⟨opening, beforeQuote, isOpening⟩ := passQuote_dropWhile_iff.mp isQuote
    obtain ⟨first, second, noDigits, rfl, isFirst⟩ := passTag_eq_some_iff.mp isTag
    obtain ⟨beforeColon, isBefore⟩ := (passWord_dropWhile_iff (by decide)).mp isColon
    obtain ⟨afterColon, _, isAfter⟩ := Row.exists_append_dropWhile isBlank afterColon
    obtain ⟨id, closing, beforeEnd, nonempty, rfl, isId⟩ := readId?_eq_some_iff.mp read
    refine ⟨⟨beforeQuote, opening, first, second, beforeColon, afterColon, id, closing, beforeEnd,
      noDigits, nonempty⟩, rfl, ?_⟩
    rw [passWord_eq_some_iff.mp isCall, isOpening, isFirst, isBefore, isAfter, isId,
      WrittenCall.chars_append]
    rfl
  · rintro ⟨call, rfl, whole⟩
    rw [call.chars_append] at whole
    have isId : readId? negated call.tag
        ((call.afterColon.chars ++ (call.id.chars ++ call.closing.char ::
          (call.beforeEnd.chars ++ ')' :: behind))).dropWhile isBlank) =
        some (⟨negated, call.tag, call.id.chars⟩, behind) := by
      rw [call.dropWhile_id, readId?_eq_some_iff]
      exact ⟨call.id, call.closing, call.beforeEnd, call.id_ne_nil, rfl, rfl⟩
    refine Option.bind_eq_some_iff.mpr ⟨_, passWord_eq_some_iff.mpr whole, ?_⟩
    refine Option.bind_eq_some_iff.mpr ⟨_, passQuote_dropWhile_iff.mpr ⟨_, _, rfl⟩, ?_⟩
    refine Option.bind_eq_some_iff.mpr
      ⟨_, passTag_eq_some_iff.mpr ⟨_, _, call.noDigits, rfl, rfl⟩, ?_⟩
    refine Option.bind_eq_some_iff.mpr ⟨_, ?_, isId⟩
    exact (passWord_dropWhile_iff (by decide)).mpr ⟨call.beforeColon, rfl⟩

theorem passNot_eq_some
    {chars rest : List Char} (passed : passNot chars = some rest) :
    ∃ blanks : Row isBlank, blanks.chars ≠ [] ∧
      chars = WrittenGuard.negation (some blanks) ++ rest := by
  obtain ⟨afterWord, isNot, isBlanks⟩ := Option.bind_eq_some_iff.mp passed
  obtain ⟨blanks, nonempty, rfl⟩ := passBlanks_eq_some isBlanks
  exact ⟨blanks, nonempty, (passWord_eq_some_iff.mp isNot).trans (List.append_assoc ..).symm⟩

theorem passNot_negation
    (afterNot : Option (Row isBlank)) (nonempty : ∀ blanks ∈ afterNot, blanks.chars ≠ [])
    (call : WrittenCall) (behind : List Char) :
    passNot (WrittenGuard.negation afterNot ++ (call.chars ++ behind)) =
      afterNot.map fun _ => call.chars ++ behind := by
  rw [call.chars_append]
  cases afterNot with
  | none => rfl
  | some blanks =>
    refine Option.bind_eq_some_iff.mpr ⟨_, passWord_eq_some_iff.mpr (List.append_assoc ..), ?_⟩
    exact passBlanks_append (nonempty blanks rfl) (by decide) _

/-- What is read as a guard is exactly what is written as one. -/
theorem readGuard?_eq_some_iff
    {chars behind : List Char} {guard : Guard} :
    readGuard? chars = some (guard, behind) ↔
      ∃ written : WrittenGuard, written.guard = guard ∧ chars = written.chars ++ behind := by
  rw [readGuard?_eq]
  constructor
  · intro read
    obtain ⟨rest, isIf, read⟩ := Option.bind_eq_some_iff.mp read
    obtain ⟨afterWord, isWord, isBlanks⟩ := Option.bind_eq_some_iff.mp isIf
    obtain ⟨afterIf, afterIf_ne, rfl⟩ := passBlanks_eq_some isBlanks
    rw [passWord_eq_some_iff] at isWord
    rw [readCondition?] at read
    split at read
    · rename_i afterNegation isNot
      obtain ⟨blanks, blanks_ne, rfl⟩ := passNot_eq_some isNot
      obtain ⟨call, rfl, rfl⟩ := readCall?_eq_some_iff.mp read
      refine ⟨⟨afterIf, some blanks, call, afterIf_ne, ?_⟩, rfl, ?_⟩
      · rintro _ ⟨⟩
        exact blanks_ne
      · rw [WrittenGuard.chars_append, isWord]
    · obtain ⟨call, rfl, rfl⟩ := readCall?_eq_some_iff.mp read
      refine ⟨⟨afterIf, none, call, afterIf_ne, nofun⟩, rfl, ?_⟩
      rw [WrittenGuard.chars_append, isWord]
      rfl
  · rintro ⟨⟨afterIf, afterNot, call, afterIf_ne, afterNot_ne⟩, rfl, rfl⟩
    rw [WrittenGuard.chars_append]
    obtain ⟨letter, rest, notBlank, whole⟩ := WrittenGuard.exists_letter afterNot call behind
    have isIf : passBlanks (afterIf.chars ++ letter :: rest) = some (letter :: rest) :=
      passBlanks_append afterIf_ne notBlank rest
    have isNot := passNot_negation afterNot afterNot_ne call behind
    have isCall : ∀ negated, readCall? negated (call.chars ++ behind) =
        some (⟨negated, call.tag, call.id.chars⟩, behind) :=
      fun negated => readCall?_eq_some_iff.mpr ⟨call, rfl, rfl⟩
    refine Option.bind_eq_some_iff.mpr ⟨letter :: rest,
      Option.bind_eq_some_iff.mpr ⟨_, passWord_eq_some_iff.mpr rfl, whole ▸ isIf⟩, ?_⟩
    rw [← whole, readCondition?, isNot]
    cases afterNot with
    | none => exact isCall false
    | some blanks => exact isCall true

/-! ## Tags of trackers -/

/-- The tag of a tracker, in any case, is made of letters. -/
theorem isWordChar_of_toUpper_mem
    {c : Char} {tracker : Tracker} (upper : c.toUpper ∈ tracker.tag.toList) :
    isWordChar c = true := by
  by_cases lower : 'a'.val ≤ c.val ∧ c.val ≤ 'z'.val
  · have ascii : c.toNat ≤ 122 := lower.2
    have isLower : c.isLower = true :=
      Bool.and_eq_true_iff.mpr ⟨decide_eq_true lower.1, decide_eq_true lower.2⟩
    have isAlpha : c.isAlpha = true := Bool.or_eq_true_iff.mpr (Or.inr isLower)
    have isAlphanum : c.isAlphanum = true := Bool.or_eq_true_iff.mpr (Or.inl isAlpha)
    rw [isWordChar_of_ascii (by omega), isAlphanum, Bool.true_or]
  · have same : c.toUpper = c := dif_neg lower
    rw [same] at upper
    cases tracker with
    | bugzilla =>
      rcases List.mem_pair.mp upper with rfl | rfl <;> exact isWordChar_of_ascii (by decide)
    | jira =>
      rcases List.mem_pair.mp upper with rfl | rfl <;> exact isWordChar_of_ascii (by decide)

theorem WrittenCall.isWordChar_tag
    (call : WrittenCall) {tracker : Tracker}
    (names : call.tag.map Char.toUpper = tracker.tag.toList) (c : Char) (member : c ∈ call.tag) :
    isWordChar c = true :=
  isWordChar_of_toUpper_mem (names ▸ List.mem_map_of_mem member)

theorem WrittenCall.ofTag?_tag
    (call : WrittenCall) {tracker : Tracker}
    (names : call.tag.map Char.toUpper = tracker.tag.toList) (blanks : Row isBlank) :
    Tracker.ofTag? (String.ofList (call.tag ++ blanks.chars)) = some tracker := by
  have noBlank : ∀ c ∈ call.tag, isBlank c = false :=
    fun c member => not_isBlank_of_isWordChar (call.isWordChar_tag names c member)
  have trimmed : trimChars (call.tag ++ blanks.chars) = call.tag :=
    @trimChars_append_blanks [] _ _ nofun noBlank blanks.all
  rw [Tracker.ofTag?_eq_some_iff, String.toList_ofList, trimmed, names]

/-- A guard whose tag names a tracker is a call site. -/
theorem WrittenGuard.site?_guard
    (written : WrittenGuard) {tracker : Tracker}
    (names : written.call.tag.map Char.toUpper = tracker.tag.toList) :
    written.guard.site? =
      some ⟨⟨tracker, String.ofList written.call.id.chars⟩, written.afterNot.isSome⟩ := by
  have isTag := written.call.ofTag?_tag names ⟨[], nofun⟩
  rw [List.append_nil] at isTag
  rw [Guard.site?, guard, isTag]
  rfl

theorem WrittenCall.not_isBlank_id
    (call : WrittenCall) (c : Char) (member : c ∈ call.id.chars) :
    isBlank c = false :=
  not_isBlank_of_isIdChar (call.id.all c member)

/-- The reference of a call site is proper. -/
theorem WrittenGuard.isProper_of_site?
    {written : WrittenGuard} {site : CallSite} (isSite : written.guard.site? = some site) :
    site.issue.IsProper := by
  obtain ⟨tracker, _, rfl⟩ := Option.map_eq_some_iff.mp isSite
  constructor
  · rw [trim, String.toList_ofList, guard, trimChars_of_no_blank written.call.not_isBlank_id]
  · intro blank
    exact written.call.id_ne_nil (by simpa [guard] using congrArg String.toList blank)

/-- What stands between the quotes is a reference to the same issue. -/
theorem WrittenCall.parse?_quoted
    (call : WrittenCall) {tracker : Tracker}
    (names : call.tag.map Char.toUpper = tracker.tag.toList) :
    Reference.parse? (String.ofList call.quoted) =
      some ⟨tracker, String.ofList call.id.chars⟩ := by
  have noColon : ∀ c ∈ call.tag ++ call.beforeColon.chars, (c != ':') = true := by
    intro c member
    rw [bne_iff_ne]
    rintro rfl
    rcases List.mem_append.mp member with inTag | inBlanks
    · have isWord := call.isWordChar_tag names _ inTag
      rw [isWordChar_of_ascii (by decide)] at isWord
      exact absurd isWord (by decide)
    · exact absurd (call.beforeColon.all _ inBlanks) (by decide)
  have parts : call.quoted.span (· != ':') =
      (call.tag ++ call.beforeColon.chars, ':' :: (call.afterColon.chars ++ call.id.chars)) := by
    let front : Row (· != ':') := ⟨_, noColon⟩
    rw [List.span_eq_takeWhile_dropWhile]
    exact Prod.ext (front.takeWhile_append rfl _) (front.dropWhile_append rfl _)
  have isId : trimChars (call.afterColon.chars ++ call.id.chars) = call.id.chars := by
    have trimmed := @trimChars_append_blanks _ _ [] call.afterColon.all call.not_isBlank_id nofun
    rwa [List.append_nil] at trimmed
  obtain ⟨first, others, whole⟩ := List.exists_cons_of_ne_nil call.id_ne_nil
  rw [Reference.parse?, String.toList_ofList, parts]
  simp only [call.ofTag?_tag names, isId]
  rw [whole]

end CallSite

end TestGate
