import TestGate.Proofs.WrittenGuards

/-!
What scanning finds around a guard on lines of its own. Main statement: the guard is found once, and
the texts before and behind it are scanned as if each stood alone. Behind this stands that no guard
reaches over a line end into a line that starts with a guard.
-/

namespace TestGate

open Text Issue

namespace CallSite

/-! ## Line ends

A guard may run over many lines, but not into a line that starts with a guard of its own. -/

/-- A word without line end stands on one side of it. -/
theorem word_before_line
    {word more before line : List Char} (noEnd : '\n' ∉ word)
    (same : word ++ more = before ++ '\n' :: line) :
    ∃ rest, before = word ++ rest ∧ more = rest ++ '\n' :: line := by
  obtain ⟨rest, isBefore, isMore⟩ | ⟨cut, isWord, isLine⟩ := List.append_eq_append_iff.mp same
  · exact ⟨rest, isBefore, isMore⟩
  · cases cut with
    | nil => exact ⟨[], by simpa using isWord.symm, by simpa using isLine.symm⟩
    | cons c cut =>
      rw [(List.cons.inj isLine).1] at noEnd
      simp [isWord] at noEnd

/-- A row of blanks may end with the line end, but goes no further. -/
theorem blanks_before_line
    (blanks : Row isBlank) {c : Char} {more before line : List Char} (notBlank : isBlank c = false)
    (same : blanks.chars ++ more = before ++ '\n' :: c :: line) :
    (∃ rest, before = blanks.chars ++ rest ∧ more = rest ++ '\n' :: c :: line) ∨
      more = c :: line := by
  obtain ⟨rest, isBefore, isMore⟩ | ⟨cut, isBlanks, isLine⟩ := List.append_eq_append_iff.mp same
  · exact .inl ⟨rest, isBefore, isMore⟩
  · match cut with
    | [] => exact .inl ⟨[], by simpa using isBlanks.symm, by simpa using isLine.symm⟩
    | [_] => exact .inr (List.cons.inj isLine).2.symm
    | _ :: next :: cut =>
      obtain ⟨_, isNext⟩ := List.cons.inj isLine
      have blank := blanks.all next (by simp [isBlanks])
      rw [← (List.cons.inj isNext).1, notBlank] at blank
      cases blank

/-- A character behind a row of blanks, unless it starts the next line. -/
theorem blanks_cons_before_line
    (blanks : Row isBlank) {c d : Char} {more before line : List Char}
    (notBlank : isBlank d = false) (noEnd : c ≠ '\n') (different : c ≠ d)
    (same : blanks.chars ++ c :: more = before ++ '\n' :: d :: line) :
    ∃ rest, before = blanks.chars ++ c :: rest ∧ more = rest ++ '\n' :: d :: line := by
  obtain ⟨rest, isBefore, isMore⟩ | isNext := blanks_before_line blanks notBlank same
  · obtain ⟨others, isRest, isMore⟩ := word_before_line
      (show '\n' ∉ [c] by simpa using noEnd.symm) (show [c] ++ more = _ from isMore)
    exact ⟨others, by rw [isBefore, isRest, List.singleton_append], isMore⟩
  · exact absurd (List.cons.inj isNext).1 different

/-- What follows a row of blanks starts where they end. -/
theorem eq_of_blanks_append
    {blanks : Row isBlank} {left right : Char} {more line : List Char}
    (notLeft : isBlank left = false) (notRight : isBlank right = false)
    (same : blanks.chars ++ left :: more = right :: line) :
    left = right := by
  have dropped := congrArg (List.dropWhile isBlank) same
  rw [blanks.dropWhile_append notLeft, List.dropWhile_cons_of_neg (by simp [notRight])] at dropped
  exact (List.cons.inj dropped).1

namespace WrittenCall

variable {behind before line : List Char} {gap : Char}

/-- The tag does not take part in the next line. -/
theorem tag_before_line
    (call : WrittenCall) {more : List Char}
    (same : call.first :: call.second :: (call.beforeColon.chars ++ ':' :: more) =
      before ++ '\n' :: 'i' :: 'f' :: line) :
    ∃ afterTag, before = call.first :: call.second :: afterTag ∧
      call.beforeColon.chars ++ ':' :: more = afterTag ++ '\n' :: 'i' :: 'f' :: line := by
  match before with
  | [] | [_] =>
    -- The tag would hold the line end, and the colon would be a letter of the word behind it.
    have isColon := eq_of_blanks_append (by decide) (by decide)
      (List.cons.inj (List.cons.inj same).2).2
    exact absurd isColon (by decide)
  | first :: second :: afterTag =>
    obtain ⟨isFirst, others⟩ := List.cons.inj same
    obtain ⟨isSecond, others⟩ := List.cons.inj others
    exact ⟨afterTag, by rw [isFirst, isSecond], others⟩

/-- The id is not the word `if` of the next line, which a blank follows and no quote. -/
theorem id_ne_next
    (call : WrittenCall) (blank : isBlank gap = true) (more : List Char) :
    call.id.chars ++ call.closing.char :: more ≠ 'i' :: 'f' :: gap :: line := by
  intro same
  have isLetter : isIdChar 'i' = true ∧ isIdChar 'f' = true :=
    ⟨isIdChar_of_ascii (by decide), isIdChar_of_ascii (by decide)⟩
  have noId : ¬ isIdChar gap = true := fun isId => by
    rw [not_isBlank_of_isIdChar isId] at blank
    cases blank
  have dropped := congrArg (List.dropWhile isIdChar) same
  rw [call.id.dropWhile_append call.closing.not_isIdChar, List.dropWhile_cons_of_pos isLetter.1,
    List.dropWhile_cons_of_pos isLetter.2, List.dropWhile_cons_of_neg noId] at dropped
  rw [← (List.cons.inj dropped).1, call.closing.not_isBlank] at blank
  cases blank

/-- A call that starts before a line with a guard ends before it. -/
theorem before_line
    (call : WrittenCall) (blank : isBlank gap = true)
    (same : call.chars ++ behind = before ++ '\n' :: 'i' :: 'f' :: gap :: line) :
    ∃ between, before = call.chars ++ between ∧
      behind = between ++ '\n' :: 'i' :: 'f' :: gap :: line := by
  have notBlank : isBlank 'i' = false := by decide
  have ofQuote : ∀ quote : Quote, quote.char ≠ '\n' ∧ quote.char ≠ 'i' := by
    intro quote
    cases quote <;> decide
  have noEnd : '\n' ∉ call.id.chars ++ [call.closing.char] := by
    rw [List.mem_append, not_or, List.mem_singleton]
    refine ⟨fun member => ?_, (ofQuote _).1.symm⟩
    exact absurd (not_isBlank_of_isIdChar (call.id.all _ member)) (by decide)
  -- Part by part: blanks may take the line end, but then the next part would start with the `i`.
  rw [call.chars_append] at same
  obtain ⟨afterCall, isCall, same⟩ := word_before_line (by decide) same
  obtain ⟨afterQuote, isQuote, same⟩ :=
    blanks_cons_before_line _ notBlank (ofQuote _).1 (ofQuote _).2 same
  obtain ⟨afterTag, isTag, same⟩ := call.tag_before_line same
  obtain ⟨afterColon, isColon, same⟩ :=
    blanks_cons_before_line _ notBlank (by decide) (by decide) same
  obtain ⟨afterBlanks, isBlanks, same⟩ | same := blanks_before_line _ notBlank same
  swap
  · exact absurd same (call.id_ne_next blank _)
  obtain ⟨afterId, isId, same⟩ := word_before_line noEnd (by simpa using same)
  obtain ⟨between, isEnd, same⟩ :=
    blanks_cons_before_line _ notBlank (by decide) (by decide) same
  refine ⟨between, ?_, same⟩
  rw [call.chars_append, isCall, isQuote, isTag, isColon, isBlanks, isId, isEnd]
  simp only [List.append_assoc, List.cons_append, List.nil_append]

end WrittenCall

/-- A guard that starts before a line with a guard ends before it. -/
theorem WrittenGuard.before_line
    {behind before line : List Char} {gap : Char}
    (written : WrittenGuard) (blank : isBlank gap = true)
    (same : written.chars ++ behind = before ++ '\n' :: 'i' :: 'f' :: gap :: line) :
    ∃ between, before = written.chars ++ between ∧
      behind = between ++ '\n' :: 'i' :: 'f' :: gap :: line := by
  have notBlank : isBlank 'i' = false := by decide
  have notCall : ∀ rest, written.call.chars ++ behind ≠ 'i' :: 'f' :: rest := by
    intro rest same
    rw [written.call.chars_append] at same
    exact absurd (List.cons.inj (List.cons.inj same).2).1 (by decide)
  rw [written.chars_append] at same
  obtain ⟨afterWord, isWord, same⟩ := word_before_line (by decide) same
  obtain ⟨afterIf, isIf, same⟩ | same := blanks_before_line _ notBlank same
  swap
  · cases isNot : written.afterNot with
    | none => exact absurd (isNot ▸ same) (notCall _)
    | some blanks =>
      rw [isNot] at same
      exact absurd (List.cons.inj same).1 (by decide)
  obtain ⟨beforeCall, isNegation, same⟩ : ∃ beforeCall,
      afterIf = negation written.afterNot ++ beforeCall ∧
        written.call.chars ++ behind = beforeCall ++ '\n' :: 'i' :: 'f' :: gap :: line := by
    cases isNot : written.afterNot with
    | none =>
      rw [isNot, negation, List.nil_append] at same
      exact ⟨afterIf, rfl, same⟩
    | some blanks =>
      rw [isNot, negation, List.append_assoc] at same
      obtain ⟨afterNot, isWord, same⟩ := word_before_line (by decide) same
      obtain ⟨beforeCall, isBlanks, same⟩ | same := blanks_before_line _ notBlank same
      · exact ⟨beforeCall, by rw [isWord, isBlanks, negation, List.append_assoc], same⟩
      · exact absurd same (notCall _)
  obtain ⟨between, isCall, same⟩ := written.call.before_line blank same
  refine ⟨between, ?_, same⟩
  rw [written.chars_append, isWord, isIf, isNegation, isCall]

/-- Reading is not disturbed by a guard on the lines behind. -/
theorem readGuard?_append_line
    {gap : Char} (blank : isBlank gap = true) (chars line : List Char) :
    readGuard? (chars ++ '\n' :: 'i' :: 'f' :: gap :: line) =
      (readGuard? chars).map fun (guard, behind) =>
        (guard, behind ++ '\n' :: 'i' :: 'f' :: gap :: line) := by
  refine Option.ext fun ⟨guard, behind⟩ => ?_
  rw [Option.map_eq_some_iff, readGuard?_eq_some_iff]
  constructor
  · rintro ⟨written, rfl, same⟩
    obtain ⟨between, rfl, rfl⟩ := written.before_line blank same.symm
    exact ⟨(written.guard, between), readGuard?_eq_some_iff.mpr ⟨written, rfl, rfl⟩, rfl⟩
  · rintro ⟨⟨_, between⟩, read, ⟨⟩⟩
    obtain ⟨written, isGuard, rfl⟩ := readGuard?_eq_some_iff.mp read
    exact ⟨written, isGuard, List.append_assoc ..⟩

/-! ## Scanning -/

/-- A guard that starts where a word starts is found. -/
theorem scanFrom_of_read
    {previous : Option Char} {c : Char} {rest behind : List Char} {guard : Guard}
    (free : ¬ previous.any isWordChar = true)
    (read : readGuard? (c :: rest) = some (guard, behind)) :
    scanFrom 0 previous (c :: rest) =
      guard.site?.toList ++ scanFrom (rest.length - behind.length) (some c) rest := by
  rw [scanFrom, if_neg free, read]

theorem scanFrom_of_none
    {previous : Option Char} {c : Char} {rest : List Char}
    (nothing : ¬ previous.any isWordChar = true → readGuard? (c :: rest) = none) :
    scanFrom 0 previous (c :: rest) = scanFrom 0 (some c) rest := by
  rw [scanFrom]
  by_cases inWord : previous.any isWordChar = true
  · rw [if_pos inWord]
  · rw [if_neg inWord, nothing inWord]

/-- Scanning goes on behind a guard that was found, at a character that ends the guard. -/
theorem scanFrom_passed
    (passed : List Char) (last : Char) (previous : Option Char) (behind : List Char) :
    scanFrom (passed ++ [last]).length previous (passed ++ last :: behind) =
      scanFrom 0 (some last) behind := by
  induction passed generalizing previous with
  | nil => rfl
  | cons c passed inductionHypothesis => exact inductionHypothesis (some c)

/-- Behind a character that is no part of a word, scanning starts anew. -/
theorem scanFrom_some
    {c : Char} (noWord : isWordChar c = false) (chars : List Char) :
    scanFrom 0 (some c) chars = scanFrom 0 none chars := by
  cases chars with
  | nil => rfl
  | cons first rest => simp only [scanFrom, Option.any_some, noWord, Option.any_none]

theorem scanFrom_newline
    (previous : Option Char) (chars : List Char) :
    scanFrom 0 previous ('\n' :: chars) = scanFrom 0 none chars := by
  rw [scanFrom_of_none fun _ => rfl, scanFrom_some (isWordChar_of_ascii (by decide))]

/-- A guard at the start of a text is found, and scanning starts anew behind it. -/
theorem scanFrom_written
    (written : WrittenGuard) (behind : List Char) :
    scanFrom 0 none (written.chars ++ behind) =
      written.guard.site?.toList ++ scanFrom 0 none behind := by
  have read : readGuard? (written.chars ++ behind) = some (written.guard, behind) :=
    readGuard?_eq_some_iff.mpr ⟨written, rfl, rfl⟩
  obtain ⟨body, whole⟩ := written.exists_body
  have length : (body ++ ')' :: behind).length - behind.length = (body ++ [')']).length := by
    simp only [List.length_append, List.length_cons, List.length_nil]
    omega
  rw [whole] at read ⊢
  rw [scanFrom_of_read (by simp) read, length, scanFrom_passed,
    scanFrom_some (isWordChar_of_ascii (by decide))]

/-- What stands before a guard on the next line is scanned as if it stood alone. -/
theorem scanFrom_append_line
    {gap : Char} (blank : isBlank gap = true) (line : List Char)
    (chars : List Char) (skip : Nat) (previous : Option Char) (short : skip ≤ chars.length) :
    scanFrom skip previous (chars ++ '\n' :: 'i' :: 'f' :: gap :: line) =
      scanFrom skip previous chars ++ scanFrom 0 none ('i' :: 'f' :: gap :: line) := by
  induction chars generalizing skip previous with
  | nil =>
    obtain rfl := Nat.le_zero.mp short
    exact scanFrom_newline previous _
  | cons c rest inductionHypothesis =>
    cases skip with
    | succ skip => exact inductionHypothesis skip (some c) (Nat.le_of_succ_le_succ short)
    | zero =>
      have undisturbed := readGuard?_append_line blank (c :: rest) line
      have later := inductionHypothesis 0 (some c) (Nat.zero_le _)
      rw [List.cons_append] at undisturbed ⊢
      by_cases inWord : previous.any isWordChar = true
      · rwa [scanFrom_of_none (absurd inWord), scanFrom_of_none (absurd inWord)]
      · cases read : readGuard? (c :: rest) with
        | none =>
          rw [read] at undisturbed
          rwa [scanFrom_of_none fun _ => undisturbed, scanFrom_of_none fun _ => read]
        | some found =>
          obtain ⟨guard, behind⟩ := found
          rw [read] at undisturbed
          rw [scanFrom_of_read inWord undisturbed, scanFrom_of_read inWord read,
            List.length_append, List.length_append, Nat.add_sub_add_right, List.append_assoc,
            inductionHypothesis _ (some c) (Nat.sub_le _ _)]

/-! ## Guards in source texts -/

theorem exists_written_of_mem_scanFrom
    {chars : List Char} {skip : Nat} {previous : Option Char} {site : CallSite}
    (member : site ∈ scanFrom skip previous chars) :
    ∃ written : WrittenGuard, written.guard.site? = some site ∧ written.chars <:+: chars := by
  induction chars generalizing skip previous with
  | nil => cases member
  | cons c rest inductionHypothesis =>
    have later : ∀ {skip previous}, site ∈ scanFrom skip previous rest →
        ∃ written : WrittenGuard, written.guard.site? = some site ∧
          written.chars <:+: c :: rest := by
      intro skip previous member
      obtain ⟨written, isSite, within⟩ := inductionHypothesis member
      exact ⟨written, isSite, within.trans (List.suffix_cons c rest).isInfix⟩
    cases skip with
    | succ skip => exact later member
    | zero =>
      by_cases inWord : previous.any isWordChar = true
      · exact later (scanFrom_of_none (absurd inWord) ▸ member)
      · cases read : readGuard? (c :: rest) with
        | none => exact later (scanFrom_of_none (fun _ => read) ▸ member)
        | some found =>
          obtain ⟨guard, behind⟩ := found
          rw [scanFrom_of_read inWord read, List.mem_append, Option.mem_toList] at member
          rcases member with isSite | member
          · obtain ⟨written, rfl, whole⟩ := readGuard?_eq_some_iff.mp read
            exact ⟨written, isSite, whole ▸ (List.prefix_append _ _).isInfix⟩
          · exact later member

/-- Every call site that is found is written in the text. -/
theorem exists_written_of_mem_scan
    {source : String} {site : CallSite} (member : site ∈ scan source) :
    ∃ written : WrittenGuard, written.guard.site? = some site ∧
      written.chars <:+: source.toList :=
  exists_written_of_mem_scanFrom member

/-- Every reference found in source code is proper. -/
theorem isProper_of_mem_scan
    {source : String} {site : CallSite} (member : site ∈ scan source) :
    site.issue.IsProper := by
  obtain ⟨written, isSite, _⟩ := exists_written_of_mem_scan member
  exact written.isProper_of_site? isSite

/-- A text without a call of `is_open` need not be scanned. -/
theorem scan_eq_nil_of_no_call
    {source : String} (noCall : ¬ "is_open(".toList <:+: source.toList) :
    scan source = [] := by
  rw [List.eq_nil_iff_forall_not_mem]
  intro site member
  obtain ⟨written, _, within⟩ := exists_written_of_mem_scan member
  have inCall : "is_open(".toList <+: written.call.chars :=
    ⟨_, (written.call.chars_append []).symm.trans (List.append_nil _)⟩
  have inGuard : written.call.chars <:+ written.chars := List.suffix_append _ _
  exact noCall ((inCall.isInfix.trans inGuard.isInfix).trans within)

/-- A guard on lines of its own does not change what is found before and behind it. -/
theorem scan_append_written
    (before after : String) (written : WrittenGuard) :
    scan (before ++ "\n" ++ String.ofList written.chars ++ "\n" ++ after) =
      scan before ++ written.guard.site?.toList ++ scan after := by
  obtain ⟨gap, blanks, isIf⟩ := List.exists_cons_of_ne_nil written.afterIf_ne_nil
  have blank : isBlank gap = true := written.afterIf.all gap (isIf ▸ List.mem_cons_self)
  obtain ⟨line, startsLine⟩ : ∃ line,
      written.chars ++ '\n' :: after.toList = 'i' :: 'f' :: gap :: line := by
    rw [written.chars_append, isIf]
    exact ⟨_, rfl⟩
  have whole : (before ++ "\n" ++ String.ofList written.chars ++ "\n" ++ after).toList =
      before.toList ++ '\n' :: (written.chars ++ '\n' :: after.toList) := by
    simp
  have split := scanFrom_append_line blank line before.toList 0 none (Nat.zero_le _)
  rw [← startsLine, scanFrom_written, scanFrom_newline] at split
  rw [scan, whole, split, List.append_assoc]
  rfl

/-- A guard on lines of its own whose tag names a tracker is found once, whatever stands before and
behind it. What is found is the issue that the text between its quotes refers to. -/
theorem scan_written_guard
    (before after : String) (written : WrittenGuard) {tracker : Tracker}
    (names : written.call.tag.map Char.toUpper = tracker.tag.toList) :
    let issue : Reference := ⟨tracker, String.ofList written.call.id.chars⟩
    scan (before ++ "\n" ++ String.ofList written.chars ++ "\n" ++ after) =
        scan before ++ [⟨issue, written.afterNot.isSome⟩] ++ scan after ∧
      Reference.parse? (String.ofList written.call.quoted) = some issue := by
  refine ⟨?_, written.call.parse?_quoted names⟩
  rw [scan_append_written, written.site?_guard names]
  rfl

/-- A negated guard with blanks around its parts. -/
def negatedGuard : WrittenGuard where
  afterIf := ⟨[' '], List.all_eq_true.mp (by decide)⟩
  afterNot := some ⟨['\n', ' '], List.all_eq_true.mp (by decide)⟩
  call :=
    { beforeQuote := ⟨[' '], List.all_eq_true.mp (by decide)⟩
      opening := .single
      first := 'b'
      second := 'z'
      beforeColon := ⟨[' '], List.all_eq_true.mp (by decide)⟩
      afterColon := ⟨[], nofun⟩
      id := ⟨['7'], List.all_eq_true.mp (by decide +kernel)⟩
      closing := .double
      beforeEnd := ⟨[], nofun⟩
      noDigits := by decide
      id_ne_nil := by decide }
  afterIf_ne_nil := by decide
  afterNot_ne_nil := by simp

/-- An unfinished guard on the line before takes nothing away. -/
theorem scan_written_guard_negatedGuard :
    scan ("if is_open('BZ" ++ "\n" ++ "if not\n is_open( 'bz :7\")" ++ "\n" ++ ":") =
      [⟨⟨.bugzilla, "7"⟩, true⟩] := by
  have names : negatedGuard.call.tag.map Char.toUpper = Tracker.bugzilla.tag.toList := by decide
  have text : String.ofList negatedGuard.chars = "if not\n is_open( 'bz :7\")" := by decide +kernel
  have unfinished : scan "if is_open('BZ" = [] ∧ scan ":" = [] := by decide +kernel
  obtain ⟨found, _⟩ := scan_written_guard "if is_open('BZ" ":" negatedGuard names
  rw [text, unfinished.1, unfinished.2] at found
  exact found

end CallSite

end TestGate
