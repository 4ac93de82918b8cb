import TestGate.Docstring
import TestGate.Proofs.TextParts

/-!
Fields of docstrings are read line by line. Main statement: where two texts stand below each other,
the component and the importance are those of the upper text if it has them, and else those of the
lower one; a list is that of the lower text if a line of it holds the field, and else that of the
upper one; and what is read for a field stands behind its label, on one line.
-/

namespace TestGate

open Text

/-! ## Lines -/

namespace Text

/-- Whether this is a line of a text: it holds no line end, and stands between two of them when the
text starts behind one and ends before one. -/
def IsLine (line text : List Char) : Prop :=
  '\n' ∉ line ∧ '\n' :: (line ++ ['\n']) <:+: '\n' :: (text ++ ['\n'])

theorem mem_splitWhere_of_isLine
    {line text : List Char} (isLine : IsLine line text) :
    line ∈ splitWhere (· == '\n') text := by
  obtain ⟨noEnd, before, behind, same⟩ := isLine
  have ofText := splitWhere_append_cons '\n' [] (text ++ ['\n'])
  rw [List.nil_append, splitWhere_append_cons] at ofText
  have ofPieces := splitWhere_append_cons '\n' before (line ++ '\n' :: behind)
  rw [splitWhere_append_cons '\n' line, splitWhere_of_not_mem noEnd] at ofPieces
  have pieces : '\n' :: (text ++ ['\n']) = before ++ '\n' :: (line ++ '\n' :: behind) := by
    rw [← same]
    simp
  -- without the first and the last line, which were added, the lines are those of the text
  have whole := congrArg (fun lines => lines.tail.dropLast)
    (ofText.symm.trans (pieces ▸ ofPieces))
  simp only [splitWhere, List.singleton_append, List.tail_cons,
    List.tail_append_of_ne_nil (splitWhere_ne_nil _ before), List.dropLast_concat,
    List.dropLast_append_of_ne_nil (List.cons_ne_nil line _)] at whole
  rw [whole]
  refine List.mem_append_right _ ?_
  rw [List.dropLast_cons_of_ne_nil (splitWhere_ne_nil _ behind)]
  exact List.mem_cons_self

theorem isLine_of_mem_splitWhere
    {line text : List Char} (member : line ∈ splitWhere (· == '\n') text) :
    IsLine line text := by
  refine ⟨separator_notMem_of_mem_splitWhere member, ?_⟩
  have whole := cons_intercalate '\n' (splitWhere_ne_nil (· == '\n') text)
  rw [intercalate_splitWhere] at whole
  obtain ⟨before, behind, parts⟩ := List.append_of_mem member
  change _ <:+: ('\n' :: text) ++ ['\n']
  rw [whole, parts, List.flatMap_append, List.flatMap_cons]
  cases behind with
  | nil => exact ⟨before.flatMap ('\n' :: ·), [], by simp⟩
  | cons next others =>
    exact ⟨before.flatMap ('\n' :: ·), next ++ others.flatMap ('\n' :: ·) ++ ['\n'], by simp⟩

theorem isLine_iff
    {line text : List Char} :
    IsLine line text ↔ line ∈ splitWhere (· == '\n') text :=
  ⟨mem_splitWhere_of_isLine, isLine_of_mem_splitWhere⟩

end Text

namespace Docstring

/-! ## Labels -/

/-- The small letter of which a character is a form; the long s is a form of s. -/
def smallForm (c : Char) : Char :=
  if c = 'ſ' then 's' else c.toLower

/-- Whether this is the label of a field: its name between colons, with letters of any case. -/
def IsLabel (name : String) (label : List Char) : Prop :=
  label.map smallForm = (":" ++ name ++ ":").toList

instance (name : String) (label : List Char) : Decidable (IsLabel name label) :=
  inferInstanceAs (Decidable (_ = _))

theorem isFormOf_iff
    {letter c : Char} (isSmall : letter ≠ 'ſ') :
    isFormOf letter c = true ↔ smallForm c = letter := by
  rw [isFormOf, smallForm]
  by_cases isLong : c = 'ſ'
  · have notLong : (Char.toLower 'ſ' == letter) = false := beq_false_of_ne isSmall.symm
    rw [isLong, notLong, if_pos rfl, beq_self_eq_true, Bool.false_or, Bool.and_true, beq_iff_eq,
      eq_comm]
  · rw [if_neg isLong, beq_false_of_ne isLong, Bool.and_false, Bool.or_false, beq_iff_eq]

theorem passName_eq_some_iff
    {name chars rest : List Char} (isSmall : 'ſ' ∉ name) :
    passName name chars = some rest ↔
      ∃ label, label.map smallForm = name ∧ chars = label ++ rest := by
  induction name generalizing chars with
  | nil => simp [passName]
  | cons letter name inductionHypothesis =>
    rw [List.mem_cons, not_or] at isSmall
    have isForm := fun c => isFormOf_iff (c := c) (Ne.symm isSmall.1)
    cases chars with
    | nil =>
      refine iff_of_false nofun ?_
      rintro ⟨label, isLabel, none⟩
      rw [(List.append_eq_nil_iff.mp none.symm).1] at isLabel
      cases isLabel
    | cons c chars =>
      rw [passName]
      split
      · rename_i same
        rw [inductionHypothesis isSmall.2]
        constructor
        · rintro ⟨label, rfl, rfl⟩
          exact ⟨c :: label, by rw [List.map_cons, (isForm c).mp same], rfl⟩
        · rintro ⟨label, isLabel, whole⟩
          cases label with
          | nil => cases isLabel
          | cons first label =>
            exact ⟨label, (List.cons.inj isLabel).2, (List.cons.inj whole).2⟩
      · rename_i different
        refine iff_of_false nofun ?_
        rintro ⟨label, isLabel, whole⟩
        cases label with
        | nil => cases isLabel
        | cons first label =>
          obtain ⟨rfl, _⟩ := List.cons.inj whole
          exact different ((isForm c).mpr (List.cons.inj isLabel).1)

/-! ## Lines that hold a field -/

/-- A line that holds a field: the label between blanks, and a value that starts and ends with none,
between blanks as well. -/
structure FieldLine (name : String) where
  indent : Row isLineBlank
  label : List Char
  gap : Row isLineBlank
  value : List Char
  trail : Row isLineBlank
  isLabel : IsLabel name label
  starts : ∀ c ∈ value.head?, isLineBlank c = false
  ends : ∀ c ∈ value.getLast?, isLineBlank c = false

def FieldLine.chars {name : String} (line : FieldLine name) : List Char :=
  line.indent.chars ++ (line.label ++ (line.gap.chars ++ (line.value ++ line.trail.chars)))

/-- Whether this may be the name of a field: it stands on one line and has no long s. -/
structure IsFieldName (name : String) : Prop where
  noEnd : '\n' ∉ (":" ++ name ++ ":").toList
  noLong : 'ſ' ∉ (":" ++ name ++ ":").toList

/-- Whether a line starts, blanks apart, with the label of a field. -/
def StartsField (name : String) (line : List Char) : Prop :=
  ∃ (indent : Row isLineBlank) (label rest : List Char),
    IsLabel name label ∧ line = indent.chars ++ (label ++ rest)

/-- Whether some line of a text starts, blanks apart, with the label of a field. -/
def HoldsField (name text : String) : Prop :=
  ∃ line, IsLine line text.toList ∧ StartsField name line

/-- Whether a part of a text stands in the value of a field, on one of the lines that hold it. -/
def StandsInField (name text : String) (part : List Char) : Prop :=
  ∃ field : FieldLine name, IsLine field.chars text.toList ∧ part <:+: field.value

/-- What an item of the list that a field holds is like. -/
structure IsListItem (name text item : String) : Prop where
  nonempty : item ≠ ""
  trimmed : trim item = item
  noComma : ',' ∉ item.toList
  noLineEnd : '\n' ∉ item.toList
  stands : StandsInField name text item.toList

section Reading

variable {name : String}

theorem IsLabel.dropWhile_append
    {label : List Char} (isLabel : IsLabel name label) (rest : List Char) :
    (label ++ rest).dropWhile isLineBlank = label ++ rest := by
  have form : label.map smallForm = ':' :: (name ++ ":").toList := by
    rw [isLabel, String.append_assoc, String.toList_append]
    rfl
  cases label with
  | nil => cases form
  | cons c others =>
    have isColon : smallForm c = ':' := (List.cons.inj form).1
    have notBlank : ¬ isLineBlank c = true := by
      intro blank
      rcases Bool.or_eq_true_iff.mp blank with isSpace | isTab
      · rw [beq_iff_eq.mp isSpace] at isColon
        exact absurd isColon (by decide)
      · rw [beq_iff_eq.mp isTab] at isColon
        exact absurd isColon (by decide)
    rw [List.cons_append, List.dropWhile_cons_of_neg notBlank]

theorem IsLabel.newline_notMem
    {label : List Char} (isLabel : IsLabel name label) (isName : IsFieldName name) :
    '\n' ∉ label := by
  intro member
  have inForm : smallForm '\n' ∈ label.map smallForm := List.mem_map_of_mem member
  rw [isLabel] at inForm
  exact isName.noEnd inForm

theorem newline_notMem_blanks
    (blanks : Row isLineBlank) :
    '\n' ∉ blanks.chars := by
  intro member
  exact absurd (blanks.all _ member) (by decide)

theorem FieldLine.newline_notMem
    (field : FieldLine name) (isName : IsFieldName name) (noEnd : '\n' ∉ field.value) :
    '\n' ∉ field.chars := by
  simp only [chars, List.mem_append, newline_notMem_blanks, field.isLabel.newline_notMem isName,
    noEnd, or_self, not_false_eq_true]

/-- The value of a field is read exactly from the lines that hold the field. -/
theorem fieldValue?_eq_some_iff
    {line value : List Char} (isName : IsFieldName name) :
    fieldValue? name line = some value ↔
      ∃ field : FieldLine name, field.chars = line ∧ field.value = value := by
  rw [fieldValue?, Option.map_eq_some_iff]
  constructor
  · rintro ⟨rest, passed, rfl⟩
    obtain ⟨label, isLabel, afterIndent⟩ := (passName_eq_some_iff isName.noLong).mp passed
    obtain ⟨indent, _, whole⟩ := Row.exists_append_dropWhile isLineBlank line
    obtain ⟨starts, ends, gap, trail, isRest⟩ := Row.exists_append_rdropWhile isLineBlank rest
    refine ⟨⟨indent, label, gap, _, trail, isLabel, starts, ends⟩, ?_, rfl⟩
    rw [whole, afterIndent]
    exact congrArg (fun rest => indent.chars ++ (label ++ rest)) isRest.symm
  · rintro ⟨field, rfl, rfl⟩
    refine ⟨_, (passName_eq_some_iff isName.noLong).mpr ⟨field.label, field.isLabel, ?_⟩,
      field.gap.rdropWhile_dropWhile_append field.trail field.starts field.ends⟩
    rw [FieldLine.chars, List.dropWhile_append_of_pos field.indent.all,
      field.isLabel.dropWhile_append]

theorem startsField_iff
    {line : List Char} :
    StartsField name line ↔ ∃ field : FieldLine name, field.chars = line := by
  constructor
  · rintro ⟨indent, label, rest, isLabel, rfl⟩
    obtain ⟨starts, ends, gap, trail, isRest⟩ := Row.exists_append_rdropWhile isLineBlank rest
    refine ⟨⟨indent, label, gap, _, trail, isLabel, starts, ends⟩, ?_⟩
    exact congrArg (fun rest => indent.chars ++ (label ++ rest)) isRest.symm
  · rintro ⟨field, rfl⟩
    exact ⟨field.indent, field.label, _, field.isLabel, rfl⟩

/-! ## Texts -/

theorem mem_fieldValues_iff
    {text : String} {value : List Char} (isName : IsFieldName name) :
    value ∈ fieldValues name text ↔
      ∃ field : FieldLine name, IsLine field.chars text.toList ∧ field.value = value := by
  simp only [fieldValues, List.mem_filterMap, fieldValue?_eq_some_iff isName, isLine_iff]
  constructor
  · rintro ⟨_, inText, field, rfl, isValue⟩
    exact ⟨field, inText, isValue⟩
  · rintro ⟨field, inText, isValue⟩
    exact ⟨field.chars, inText, field, rfl, isValue⟩

theorem fieldValues_ne_nil_iff
    {text : String} (isName : IsFieldName name) :
    fieldValues name text ≠ [] ↔ HoldsField name text := by
  constructor
  · intro nonempty
    obtain ⟨value, member⟩ := List.exists_mem_of_ne_nil _ nonempty
    obtain ⟨field, inText, _⟩ := (mem_fieldValues_iff isName).mp member
    exact ⟨field.chars, inText, startsField_iff.mpr ⟨field, rfl⟩⟩
  · rintro ⟨_, inText, starts⟩
    obtain ⟨field, rfl⟩ := startsField_iff.mp starts
    exact List.ne_nil_of_mem ((mem_fieldValues_iff isName).mpr ⟨field, inText, rfl⟩)

/-- The values of two texts below each other are those of the one and then those of the other. -/
theorem fieldValues_append_line
    (name above below : String) :
    fieldValues name (above ++ "\n" ++ below) =
      fieldValues name above ++ fieldValues name below := by
  have chars : (above ++ "\n" ++ below).toList = above.toList ++ '\n' :: below.toList := by
    rw [String.toList_append, String.toList_append, List.append_assoc]
    rfl
  rw [fieldValues, chars, splitWhere_append_cons, List.filterMap_append]
  rfl

theorem firstWord?_append_line
    (name above below : String) :
    firstWord? name (above ++ "\n" ++ below) =
      (firstWord? name above).or (firstWord? name below) := by
  rw [firstWord?, fieldValues_append_line, List.findSome?_append]
  rfl

open Classical in
theorem lastList_append_line
    (isName : IsFieldName name) (above below : String) :
    lastList name (above ++ "\n" ++ below) =
      if HoldsField name below then lastList name below else lastList name above := by
  simp only [lastList, fieldValues_append_line, List.getLast?_append]
  split
  · rename_i holds
    obtain ⟨last, isLast⟩ := Option.ne_none_iff_exists'.mp
      (List.getLast?_eq_none_iff.not.mpr ((fieldValues_ne_nil_iff isName).mpr holds))
    rw [isLast, Option.some_or]
  · rename_i nothing
    rw [← fieldValues_ne_nil_iff isName, not_not] at nothing
    rw [nothing]
    rfl

theorem standsInField_of_firstWord?
    {text word : String} (isName : IsFieldName name) (found : firstWord? name text = some word) :
    StandsInField name text word.toList := by
  obtain ⟨value, member, isFirst⟩ := List.exists_of_findSome?_eq_some found
  obtain ⟨chars, isHead, rfl⟩ := Option.map_eq_some_iff.mp isFirst
  obtain ⟨field, inText, rfl⟩ := (mem_fieldValues_iff isName).mp member
  refine ⟨field, inText, ?_⟩
  rw [String.toList_ofList]
  exact infix_of_mem_words (List.mem_of_head? isHead)

theorem isListItem_of_mem_lastList
    {text item : String} (isName : IsFieldName name) (member : item ∈ lastList name text) :
    IsListItem name text item := by
  rw [lastList] at member
  cases last : (fieldValues name text).getLast? with
  | none =>
    rw [last] at member
    cases member
  | some value =>
    rw [last] at member
    obtain ⟨⟨nonempty, trimmed⟩, noComma, within⟩ := mem_listed member
    obtain ⟨field, inText, rfl⟩ :=
      (mem_fieldValues_iff isName).mp (List.mem_of_getLast? last)
    refine ⟨nonempty, trimmed, noComma, fun lineEnd => inText.1 ?_, field, inText, within⟩
    have inValue : '\n' ∈ field.value := within.subset lineEnd
    simp only [FieldLine.chars, List.mem_append, inValue, true_or, or_true]

/-- A line without a value stands for an empty list. -/
theorem lastList_append_emptyLine
    (isName : IsFieldName name) (above : String) (field : FieldLine name)
    (isEmpty : field.value = []) :
    lastList name (above ++ "\n" ++ String.ofList field.chars) = [] := by
  have noEnd : '\n' ∉ field.chars := field.newline_notMem isName (by simp [isEmpty])
  have values : fieldValues name (String.ofList field.chars) = [[]] := by
    rw [fieldValues, String.toList_ofList, splitWhere_of_not_mem noEnd, List.filterMap_cons_some,
      List.filterMap_nil]
    exact (fieldValue?_eq_some_iff isName).mpr ⟨field, rfl, isEmpty⟩
  rw [lastList, fieldValues_append_line, values, List.getLast?_concat]
  rfl

end Reading

open Classical in
/-- Fields are read line by line: below another text, a text is heard about its component and its
importance where that one has none, and about a list where a line of it holds the list; an empty
line stands for an empty list; and all that is read for a field stands on one line that holds it. -/
theorem fields_are_read_by_line
    (above below : String) :
    ((fields (above ++ "\n" ++ below)).component =
          (fields above).component.or (fields below).component ∧
        (fields (above ++ "\n" ++ below)).importance =
          (fields above).importance.or (fields below).importance) ∧
      ((fields (above ++ "\n" ++ below)).bugzillaIds =
          (if HoldsField "bz" below then fields below else fields above).bugzillaIds ∧
        (fields (above ++ "\n" ++ below)).jiraKeys =
          (if HoldsField "jr" below then fields below else fields above).jiraKeys) ∧
      ((∀ line : FieldLine "bz", line.value = [] →
          (fields (above ++ "\n" ++ String.ofList line.chars)).bugzillaIds = []) ∧
        ∀ line : FieldLine "jr", line.value = [] →
          (fields (above ++ "\n" ++ String.ofList line.chars)).jiraKeys = []) ∧
      ∀ text,
        ((∀ word ∈ (fields text).component, StandsInField "casecomponent" text word.toList) ∧
          ∀ word ∈ (fields text).importance, StandsInField "caseimportance" text word.toList) ∧
        (∀ id ∈ (fields text).bugzillaIds, IsListItem "bz" text id) ∧
          ∀ key ∈ (fields text).jiraKeys, IsListItem "jr" text key := by
  have component : IsFieldName "casecomponent" := ⟨by decide, by decide⟩
  have importance : IsFieldName "caseimportance" := ⟨by decide, by decide⟩
  have bugzilla : IsFieldName "bz" := ⟨by decide, by decide⟩
  have jira : IsFieldName "jr" := ⟨by decide, by decide⟩
  refine ⟨⟨?_, ?_⟩, ⟨?_, ?_⟩, ⟨?_, ?_⟩, fun text => ⟨⟨?_, ?_⟩, ?_, ?_⟩⟩
  · exact firstWord?_append_line "casecomponent" above below
  · exact firstWord?_append_line "caseimportance" above below
  · rw [apply_ite Fields.bugzillaIds]
    exact lastList_append_line bugzilla above below
  · rw [apply_ite Fields.jiraKeys]
    exact lastList_append_line jira above below
  · exact fun line isEmpty => lastList_append_emptyLine bugzilla above line isEmpty
  · exact fun line isEmpty => lastList_append_emptyLine jira above line isEmpty
  · exact fun word found => standsInField_of_firstWord? component found
  · exact fun word found => standsInField_of_firstWord? importance found
  · exact fun id member => isListItem_of_mem_lastList bugzilla member
  · exact fun key member => isListItem_of_mem_lastList jira member

/-- An empty line that ends a docstring, with a tab behind its label. -/
def emptyBugzillaLine : FieldLine "bz" where
  indent := ⟨[' '], List.all_eq_true.mp (by decide)⟩
  label := [':', 'B', 'z', ':']
  gap := ⟨['\t'], List.all_eq_true.mp (by decide)⟩
  value := []
  trail := ⟨[], List.forall_mem_nil _⟩
  isLabel := by decide
  starts := by simp
  ends := by simp

/-- The empty line takes the list of the line before it away, and nothing else. -/
theorem fields_are_read_by_line_emptyLine :
    let above := ":BZ: 7, 8\n:CaseComponent: Hosts, Rest\n:jr: SAT-1,, SAT-2\r"
    let whole := fields (above ++ "\n" ++ " :Bz:\t")
    whole.component = some "Hosts," ∧ whole.bugzillaIds = [] ∧ whole.jiraKeys = ["SAT-1", "SAT-2"] ∧
      (∀ key ∈ whole.jiraKeys, IsListItem "jr" (above ++ "\n" ++ " :Bz:\t") key) := by
  intro above whole
  have chars : String.ofList emptyBugzillaLine.chars = " :Bz:\t" := by decide
  obtain ⟨⟨component, _⟩, _, ⟨emptied, _⟩, items⟩ := fields_are_read_by_line above " :Bz:\t"
  have noIds := emptied emptyBugzillaLine rfl
  rw [chars] at noIds
  refine ⟨component.trans (by decide +kernel), noIds, by decide +kernel, (items _).2.2⟩

end Docstring

end TestGate
