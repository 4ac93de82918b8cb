import TestGate.Proofs.PrintedValues
import TestGate.Proofs.RereadTrees

/-!
Printed JSON texts as they are read. Main statement: wherever the text of a value with numbers of 64
bits stands, a reader passes over it and meets in it what it should; so the value is read from its
lines exactly if it does not lie too deep.
-/

namespace TestGate.Json

/-! ## Blanks -/

/-- Whether a row of characters is passed over between values. -/
def AreBlank (chars : List Char) : Prop :=
  ∀ c ∈ chars, isJsonBlank c = true

theorem areBlank_nil : AreBlank [] := by
  intro c member
  cases member

theorem AreBlank.skipBlanks_append
    {blanks : List Char}
    (areBlank : AreBlank blanks) (chars : List Char) :
    skipBlanks (blanks ++ chars) = skipBlanks chars := by
  induction blanks with
  | nil => rfl
  | cons c blanks inductionHypothesis =>
    have isBlank : isJsonBlank c = true := areBlank c List.mem_cons_self
    have onward := inductionHypothesis fun other member =>
      areBlank other (List.mem_cons_of_mem c member)
    rw [skipBlanks] at onward ⊢
    rw [List.cons_append, List.dropWhile_cons_of_pos isBlank, onward]

theorem skipBlanks_cons
    {c : Char} (chars : List Char)
    (notBlank : isJsonBlank c = false) :
    skipBlanks (c :: chars) = c :: chars := by
  rw [skipBlanks, List.dropWhile_cons_of_neg (by simp [notBlank])]

theorem AreBlank.readTree
    {blanks : List Char}
    (areBlank : AreBlank blanks) (fuel depth : Nat) (chars : List Char) :
    readTree fuel depth (blanks ++ chars) = Json.readTree fuel depth chars := by
  cases fuel with
  | zero => rw [Json.readTree, Json.readTree]
  | succ fuel => rw [Json.readTree, Json.readTree, areBlank.skipBlanks_append]

theorem cases_of_isJsonBlank
    {c : Char}
    (isBlank : isJsonBlank c = true) :
    c = ' ' ∨ c = '\n' ∨ c = '\t' ∨ c = '\r' := by
  simpa [isJsonBlank, or_assoc] using isBlank

theorem not_isJsonBlank_of_isDigit
    {c : Char}
    (isDigit : c.isDigit = true) :
    isJsonBlank c = false := by
  rw [Bool.eq_false_iff]
  intro isBlank
  rcases cases_of_isJsonBlank isBlank with rfl | rfl | rfl | rfl <;> revert isDigit <;> decide

/-- Nothing goes on with a number behind blanks before a bracket, or right before one. -/
theorem AreBlank.endsNumber
    {blanks : List Char} {c : Char}
    (areBlank : AreBlank blanks) (chars : List Char)
    (ends : c.isDigit = false ∧ c ≠ '.' ∧ c ≠ 'e' ∧ c ≠ 'E') :
    EndsNumber (blanks ++ c :: chars) := by
  intro first isFirst
  cases blanks with
  | nil =>
    have same : c = first := by simpa using isFirst
    exact same ▸ ends
  | cons blank blanks =>
    have same : blank = first := by simpa using isFirst
    have isBlank : isJsonBlank blank = true := areBlank blank List.mem_cons_self
    rw [← same]
    rcases cases_of_isJsonBlank isBlank with rfl | rfl | rfl | rfl <;> decide

/-- Whether a layout puts nothing but blanks between the parts of a value. -/
def Layout.IsBlank (layout : Layout) : Prop :=
  ∀ level, AreBlank (layout.breakChars level)

theorem Layout.isBlank_lines
    (width : Nat) :
    (Layout.lines width).IsBlank := by
  intro level c member
  simp only [breakChars, lines, String.toList_ofList, List.mem_cons, List.mem_flatten,
    List.mem_replicate] at member
  rcases member with rfl | ⟨_, ⟨_, rfl⟩, inIndent⟩
  · decide
  · rw [(List.mem_replicate.mp inIndent).2]
    decide

theorem Layout.exists_colon
    (layout : Layout) :
    ∃ blanks, layout.colon.toList = ':' :: blanks ∧ AreBlank blanks := by
  cases layout with
  | mk indent =>
    cases indent with
    | none => exact ⟨[], rfl, fun _ member => by cases member⟩
    | some indent =>
      refine ⟨[' '], by simp [colon], fun c member => ?_⟩
      rw [List.mem_singleton.mp member]
      decide

/-! ## First characters -/

theorem Number.IsLegible.head
    {number : Number}
    (legible : number.IsLegible) :
    ∃ c rest, number.toText.toList = c :: rest ∧ (c = '-' ∨ c.isDigit = true) := by
  obtain ⟨negative, chars, same, read⟩ := legible.split
  cases negative with
  | true => exact ⟨'-', chars, same, Or.inl rfl⟩
  | false =>
    obtain ⟨c, rest, starts, isDigit⟩ := head_of_readNumber read
    exact ⟨c, rest, same.trans starts, Or.inr isDigit⟩

/-- A value starts with a character that neither is blank nor ends or parts anything. -/
theorem Fits.head
    {depth : Nat} {json : Json}
    (fits : Fits depth json) (layout : Layout) (level : Nat) :
    ∃ c rest, charsAt layout level json = c :: rest ∧
      isJsonBlank c = false ∧ c ≠ ']' ∧ c ≠ '\x7d' ∧ c ≠ ',' := by
  cases fits with
  | null => exact ⟨'n', _, rfl, by decide⟩
  | bool value =>
    cases value with
    | true => exact ⟨'t', _, rfl, by decide⟩
    | false => exact ⟨'f', _, rfl, by decide⟩
  | text value => exact ⟨'"', _, rfl, by decide⟩
  | list inside =>
    rename_i depth items
    cases items with
    | nil => exact ⟨'[', _, rfl, by decide⟩
    | cons item items => exact ⟨'[', _, by rw [charsAt]; rfl, by decide⟩
  | object inside =>
    rename_i depth members
    cases members with
    | nil => exact ⟨'\x7b', _, rfl, by decide⟩
    | cons member members => exact ⟨'\x7b', _, by rw [charsAt]; rfl, by decide⟩
  | number sound =>
    obtain ⟨c, rest, same, isFirst⟩ := sound.isLegible.head
    refine ⟨c, rest, by rw [charsAt, same], ?_⟩
    rcases isFirst with rfl | isDigit
    · decide
    · refine ⟨?_, ?_, ?_, ?_⟩
      · exact not_isJsonBlank_of_isDigit isDigit
      all_goals
        rintro rfl
        revert isDigit
        decide

/-! ## Values -/

/-- Whether a reader passes over the text of a value wherever it stands. -/
def Reads (layout : Layout) (json : Json) : Prop :=
  ∀ depth level fuel rest, 4 * (charsAt layout level json).length ≤ fuel → EndsNumber rest →
    readTree fuel depth (charsAt layout level json ++ rest) = (treeWithin depth json, some rest)

theorem readTree_digit
    {c : Char} (fuel depth : Nat) (chars : List Char)
    (isDigit : c.isDigit = true) :
    readTree (fuel + 1) depth (c :: chars) = readNumber false (c :: chars) := by
  rw [readTree, skipBlanks_cons chars (not_isJsonBlank_of_isDigit isDigit)]
  split
  all_goals simp_all

theorem reads_number
    {layout : Layout} {number : Number}
    (sound : number.IsSound) :
    Reads layout (.number number) := by
  intro depth level fuel rest enough ends
  obtain ⟨negative, chars, same, read⟩ := sound.isLegible.split
  have onward := ends.readNumber read
  rw [charsAt, same] at enough ⊢
  cases negative with
  | true =>
    simp only [if_true, List.length_cons] at enough ⊢
    obtain ⟨fuel, rfl⟩ : ∃ more, fuel = more + 1 := ⟨fuel - 1, by omega⟩
    rw [List.cons_append, readTree, skipBlanks_cons _ (by decide)]
    exact onward
  | false =>
    obtain ⟨c, others, starts, isFirst⟩ := head_of_readNumber read
    simp only [Bool.false_eq_true, if_false] at enough ⊢
    subst starts
    rw [List.length_cons] at enough
    obtain ⟨fuel, rfl⟩ : ∃ more, fuel = more + 1 := ⟨fuel - 1, by omega⟩
    rw [List.cons_append, readTree_digit fuel depth _ isFirst]
    exact onward

theorem reads_null
    {layout : Layout} :
    Reads layout .null := by
  intro depth level fuel rest enough _
  have word : charsAt layout level .null = ['n', 'u', 'l', 'l'] := by simp [charsAt]
  rw [word] at enough ⊢
  obtain ⟨fuel, rfl⟩ : ∃ more, fuel = more + 1 :=
    ⟨fuel - 1, by simp only [List.length_cons] at enough; omega⟩
  rw [List.cons_append, readTree, skipBlanks_cons _ (by decide)]
  rfl

theorem reads_bool
    {layout : Layout} (value : Bool) :
    Reads layout (.bool value) := by
  intro depth level fuel rest enough _
  cases value with
  | true =>
    have word : charsAt layout level (.bool true) = ['t', 'r', 'u', 'e'] := by simp [charsAt]
    rw [word] at enough ⊢
    obtain ⟨fuel, rfl⟩ : ∃ more, fuel = more + 1 :=
      ⟨fuel - 1, by simp only [List.length_cons] at enough; omega⟩
    rw [List.cons_append, readTree, skipBlanks_cons _ (by decide)]
    rfl
  | false =>
    have word : charsAt layout level (.bool false) = ['f', 'a', 'l', 's', 'e'] := by
      simp [charsAt]
    rw [word] at enough ⊢
    obtain ⟨fuel, rfl⟩ : ∃ more, fuel = more + 1 :=
      ⟨fuel - 1, by simp only [List.length_cons] at enough; omega⟩
    rw [List.cons_append, readTree, skipBlanks_cons _ (by decide)]
    rfl

theorem reads_text
    {layout : Layout} (value : String) :
    Reads layout (.text value) := by
  intro depth level fuel rest enough _
  rw [charsAt, quoteChars] at enough ⊢
  simp only [List.cons_append, List.length_cons] at enough
  obtain ⟨fuel, rfl⟩ : ∃ more, fuel = more + 1 := ⟨fuel - 1, by omega⟩
  simp only [List.cons_append, List.append_assoc, List.nil_append]
  rw [readTree, skipBlanks_cons _ (by decide)]
  simp only [readQuoted_escaped]
  rfl

/-! ## Lists -/

section Inside

variable {layout : Layout}

/-- What follows an item is no part of a number. -/
theorem endsNumber_itemChars
    (layout : Layout) {blanks : List Char} (behind : List Char) (level : Nat) (items : List Json)
    (areBlank : AreBlank blanks) :
    EndsNumber (itemChars layout level items ++ (blanks ++ ']' :: behind)) := by
  cases items with
  | nil => exact areBlank.endsNumber behind (by decide)
  | cons item items =>
    intro c isFirst
    rw [itemChars] at isFirst
    have same : ',' = c := by simpa using isFirst
    rw [← same]
    decide

/-- The items after the first, up to the end of the list. -/
theorem readItems_itemChars
    (isBlank : layout.IsBlank) {items : List Json}
    (each : ∀ item ∈ items, Reads layout item) (depth level fuel : Nat)
    (blanks behind : List Char) (areBlank : AreBlank blanks)
    (enough : 4 * (itemChars layout level items).length + 1 ≤ fuel) :
    readItems fuel depth false (itemChars layout level items ++ (blanks ++ ']' :: behind)) =
      (itemsWithin depth items, some behind) := by
  induction items generalizing fuel with
  | nil =>
    obtain ⟨fuel, rfl⟩ : ∃ more, fuel = more + 1 := ⟨fuel - 1, by omega⟩
    rw [itemChars, List.nil_append, readItems, areBlank.skipBlanks_append,
      skipBlanks_cons _ (by decide)]
    rfl
  | cons item items inductionHypothesis =>
    have ends := endsNumber_itemChars layout behind level items areBlank
    rw [itemChars] at enough ⊢
    simp only [List.cons_append, List.length_cons, List.length_append] at enough
    obtain ⟨fuel, rfl⟩ : ∃ more, fuel = more + 2 := ⟨fuel - 2, by omega⟩
    have first := each item List.mem_cons_self depth level fuel _ (by omega) ends
    have others := inductionHypothesis
      (fun other member => each other (List.mem_cons_of_mem item member)) fuel (by omega)
    simp only [List.cons_append, List.append_assoc]
    rw [readItems, skipBlanks_cons _ (by decide)]
    simp only [Bool.false_eq_true, if_false]
    rw [readItem, (isBlank level).readTree, first]
    simp only [others]
    rfl

/-- The first item is read as each item is. -/
theorem readItems_first
    {blanks chars : List Char} {c : Char} (fuel depth : Nat)
    (areBlank : AreBlank blanks) (notBlank : isJsonBlank c = false)
    (notClosed : c ≠ ']') (notComma : c ≠ ',') :
    readItems (fuel + 1) depth true (blanks ++ c :: chars) = readItem fuel depth (c :: chars) := by
  rw [readItems, areBlank.skipBlanks_append, skipBlanks_cons chars notBlank]
  split
  all_goals simp_all

theorem reads_list
    (isBlank : layout.IsBlank) {deeper : Nat} {items : List Json}
    (inside : ∀ item ∈ items, Fits deeper item) (each : ∀ item ∈ items, Reads layout item) :
    Reads layout (.list items) := by
  intro depth level fuel rest enough _
  cases items with
  | nil =>
    have twoChars : charsAt layout level (.list []) = ['[', ']'] := by rw [charsAt]
    rw [twoChars] at enough ⊢
    simp only [List.length_cons, List.length_nil] at enough
    obtain ⟨fuel, rfl⟩ : ∃ more, fuel = more + 2 := ⟨fuel - 2, by omega⟩
    simp only [List.cons_append, List.nil_append]
    rw [readTree, skipBlanks_cons _ (by decide)]
    simp only
    rw [readItems, skipBlanks_cons _ (by decide)]
    rfl
  | cons item items =>
    rw [charsAt] at enough ⊢
    simp only [List.cons_append, List.length_cons, List.length_append] at enough
    obtain ⟨fuel, rfl⟩ : ∃ more, fuel = more + 3 := ⟨fuel - 3, by omega⟩
    have areBlank := isBlank level
    have ends := endsNumber_itemChars layout rest (level + 1) items areBlank
    have first := each item List.mem_cons_self (depth - 1) (level + 1) fuel _ (by omega) ends
    have others := readItems_itemChars isBlank
      (fun other member => each other (List.mem_cons_of_mem item member)) (depth - 1) (level + 1)
      fuel _ rest areBlank (by omega)
    obtain ⟨c, more, starts, notBlank, notClosed, _, notComma⟩ :=
      (inside item List.mem_cons_self).head layout (level + 1)
    have front : ∀ behind, readItems (fuel + 2) (depth - 1) true (layout.breakChars (level + 1) ++
        (charsAt layout (level + 1) item ++ behind)) =
          readItem (fuel + 1) (depth - 1) (charsAt layout (level + 1) item ++ behind) := by
      intro behind
      rw [starts, List.cons_append]
      exact readItems_first (fuel + 1) _ (isBlank (level + 1)) notBlank notClosed notComma
    simp only [List.cons_append, List.append_assoc, List.nil_append]
    rw [readTree, skipBlanks_cons _ (by decide)]
    simp only [front]
    rw [readItem, first]
    simp only [others]
    rw [← itemsWithin, skipFault?_itemsWithin, ← treeWithin]

/-! ## Objects -/

/-- What follows a member is no part of a number. -/
theorem endsNumber_memberChars
    (layout : Layout) {blanks : List Char} (behind : List Char) (level : Nat)
    (members : List (String × Json)) (areBlank : AreBlank blanks) :
    EndsNumber (memberChars layout level members ++ (blanks ++ '\x7d' :: behind)) := by
  cases members with
  | nil => exact areBlank.endsNumber behind (by decide)
  | cons member members =>
    intro c isFirst
    rw [memberChars] at isFirst
    have same : ',' = c := by simpa using isFirst
    rw [← same]
    decide

/-- A member, and what is read behind it. -/
theorem readMember_chars
    (key : String) {value : Json} {blanks behind : List Char}
    (reads : Reads layout value) (areBlank : AreBlank blanks) (depth level fuel : Nat)
    (enough : 4 * (charsAt layout level value).length ≤ fuel) (ends : EndsNumber behind) :
    readMember (fuel + 2) depth (blanks ++ (quoteChars key ++ (layout.colon.toList ++
      (charsAt layout level value ++ behind)))) =
      (.cons (.sound key) (treeWithin depth value) (readMembers fuel depth false behind).1,
        (readMembers fuel depth false behind).2) := by
  obtain ⟨spaces, isColon, areSpaces⟩ := layout.exists_colon
  have passed : ∀ chars, passColon (layout.colon.toList ++ chars) = .ok (spaces ++ chars) := by
    intro chars
    rw [isColon, passColon, List.cons_append, skipBlanks_cons _ (by decide)]
    rfl
  rw [readMember, areBlank.skipBlanks_append, quoteChars]
  simp only [List.cons_append, List.append_assoc, List.nil_append]
  rw [skipBlanks_cons _ (by decide)]
  simp only [readQuoted_escaped]
  rw [readMemberValue, passed]
  simp only [areSpaces.readTree, reads depth level fuel behind enough ends]

/-- The members after the first, up to the end of the object. -/
theorem readMembers_memberChars
    (isBlank : layout.IsBlank) {members : List (String × Json)}
    (each : ∀ member ∈ members, Reads layout member.2) (depth level fuel : Nat)
    (blanks behind : List Char) (areBlank : AreBlank blanks)
    (enough : 4 * (memberChars layout level members).length + 1 ≤ fuel) :
    readMembers fuel depth false
        (memberChars layout level members ++ (blanks ++ '\x7d' :: behind)) =
      (membersWithin depth members, some behind) := by
  induction members generalizing fuel with
  | nil =>
    obtain ⟨fuel, rfl⟩ : ∃ more, fuel = more + 1 := ⟨fuel - 1, by omega⟩
    rw [memberChars, List.nil_append, readMembers, areBlank.skipBlanks_append,
      skipBlanks_cons _ (by decide)]
    rfl
  | cons member members inductionHypothesis =>
    obtain ⟨key, value⟩ := member
    have ends := endsNumber_memberChars layout behind level members areBlank
    rw [memberChars] at enough ⊢
    simp only [quoteChars, List.cons_append, List.length_cons, List.length_append] at enough
    obtain ⟨fuel, rfl⟩ : ∃ more, fuel = more + 3 := ⟨fuel - 3, by omega⟩
    have valueReads : Reads layout value := each (key, value) List.mem_cons_self
    have first := readMember_chars key valueReads (isBlank level) depth level fuel (by omega) ends
    have others := inductionHypothesis
      (fun other member => each other (List.mem_cons_of_mem _ member)) fuel (by omega)
    simp only [List.cons_append, List.append_assoc]
    rw [readMembers, skipBlanks_cons _ (by decide)]
    simp only [Bool.false_eq_true, if_false]
    rw [first, others]
    rfl

theorem reads_object
    (isBlank : layout.IsBlank) {members : List (String × Json)}
    (each : ∀ member ∈ members, Reads layout member.2) :
    Reads layout (.object members) := by
  intro depth level fuel rest enough _
  cases members with
  | nil =>
    have twoChars : charsAt layout level (.object []) = ['\x7b', '\x7d'] := by rw [charsAt]
    rw [twoChars] at enough ⊢
    simp only [List.length_cons, List.length_nil] at enough
    obtain ⟨fuel, rfl⟩ : ∃ more, fuel = more + 2 := ⟨fuel - 2, by omega⟩
    simp only [List.cons_append, List.nil_append]
    rw [readTree, skipBlanks_cons _ (by decide)]
    simp only
    rw [readMembers, skipBlanks_cons _ (by decide)]
    rfl
  | cons member members =>
    obtain ⟨key, value⟩ := member
    rw [charsAt] at enough ⊢
    simp only [quoteChars, List.cons_append, List.length_cons, List.length_append] at enough
    obtain ⟨fuel, rfl⟩ : ∃ more, fuel = more + 4 := ⟨fuel - 4, by omega⟩
    have areBlank := isBlank level
    have ends := endsNumber_memberChars layout rest (level + 1) members areBlank
    have valueReads : Reads layout value := each (key, value) List.mem_cons_self
    have first :=
      readMember_chars key valueReads areBlank_nil (depth - 1) (level + 1) fuel (by omega) ends
    have others := readMembers_memberChars isBlank
      (fun other member => each other (List.mem_cons_of_mem _ member)) (depth - 1) (level + 1)
      fuel _ rest areBlank (by omega)
    have front : ∀ behind, readMembers (fuel + 3) (depth - 1) true
        (layout.breakChars (level + 1) ++ (quoteChars key ++ behind)) =
          readMember (fuel + 2) (depth - 1) (quoteChars key ++ behind) := by
      intro behind
      rw [readMembers, (isBlank (level + 1)).skipBlanks_append, quoteChars, List.cons_append,
        List.cons_append, skipBlanks_cons _ (by decide)]
      rfl
    simp only [List.cons_append, List.append_assoc, List.nil_append] at first ⊢
    rw [readTree, skipBlanks_cons _ (by decide)]
    simp only [front, first, others]
    rw [← membersWithin, skipFault?_membersWithin, ← treeWithin]

end Inside

/-! ## Texts -/

/-- A reader passes over the text of a value with numbers of 64 bits. -/
theorem IsSound.reads
    {layout : Layout} {json : Json}
    (isBlank : layout.IsBlank) (sound : json.IsSound) :
    Reads layout json := by
  obtain ⟨_, fits⟩ := sound
  induction fits with
  | null => exact reads_null
  | bool value => exact reads_bool value
  | number sound => exact reads_number sound
  | text value => exact reads_text value
  | list inside each => exact reads_list isBlank inside each
  | object _ each => exact reads_object isBlank each

/-- What is read from the lines of a value with numbers of 64 bits. -/
theorem IsSound.parse_eq
    {json : Json}
    (sound : json.IsSound) (width : Nat) :
    parse (json.render (.lines width) ++ "\n") = (treeWithin deepest json).toJson := by
  have characters : (json.render (.lines width) ++ "\n").toList =
      charsAt (.lines width) 0 json ++ ['\n'] := by
    rw [render, String.toList_append, toList_renderAt]
    rfl
  have ends : EndsNumber ['\n'] := by
    intro c isFirst
    have same : '\n' = c := by simpa using isFirst
    rw [← same]
    decide
  have read := sound.reads (Layout.isBlank_lines width) deepest 0
    (4 * (charsAt (.lines width) 0 json ++ ['\n']).length + 4) ['\n']
    (by rw [List.length_append]; omega) ends
  rw [parse_eq_parseChars, characters, parseChars, read]
  simp only
  cases (treeWithin deepest json).toJson with
  | error error => rfl
  | ok value => rfl

/-- A value in canonical order that fits is read from its lines, with its numbers as they are read.
-/
theorem Fits.parse_render
    {json : Json} {width : Nat}
    (fits : Fits deepest json) (isCanonical : json.IsCanonical) :
    parse (json.render (.lines width) ++ "\n") = .ok json.reread := by
  have sound : json.IsSound := ⟨deepest, fits⟩
  rw [sound.parse_eq, fits.treeWithin_eq, Tree.toJson_ofJson, isCanonical.reread]

/-- No value that lies too deep is read from its lines. -/
theorem Fits.of_parse
    {width : Nat} {json value : Json}
    (sound : json.IsSound)
    (parsed : parse (json.render (.lines width) ++ "\n") = .ok value) :
    Fits deepest json := by
  rw [sound.parse_eq] at parsed
  exact Fits.of_read sound parsed

end TestGate.Json
