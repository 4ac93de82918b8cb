import TestGate.Json.Decode
import TestGate.Json.Printer

/-!
The characters of printed values, put together without a text in between. Main statement: they are
the characters of the text that is printed, so that it can be computed from them what the text is
read as.
-/

namespace TestGate.Json

open Text

/-! ## Printing characters -/

/-- The characters before an item or a bracket on a line of its own. -/
def Layout.breakChars (layout : Layout) (level : Nat) : List Char :=
  match layout.indent with
  | some indent => '\n' :: (List.replicate level indent.toList).flatten
  | none => []

/-- The characters of a text between quotes. -/
def quoteChars (text : String) : List Char :=
  '"' :: text.toList.flatMap escapeChar ++ ['"']

mutual

/-- The characters of a value that stands `level` levels deep. -/
def charsAt (layout : Layout) (level : Nat) : Json → List Char
  | .null => "null".toList
  | .bool value => if value then "true".toList else "false".toList
  | .number value => value.toText.toList
  | .text value => quoteChars value
  | .list [] => ['[', ']']
  | .list (item :: items) =>
    '[' :: layout.breakChars (level + 1) ++ charsAt layout (level + 1) item
      ++ itemChars layout (level + 1) items ++ layout.breakChars level ++ [']']
  | .object [] => ['\x7b', '\x7d']
  | .object ((key, value) :: members) =>
    '\x7b' :: layout.breakChars (level + 1) ++ quoteChars key ++ layout.colon.toList
      ++ charsAt layout (level + 1) value ++ memberChars layout (level + 1) members
      ++ layout.breakChars level ++ ['\x7d']

/-- The characters of the items after the first. -/
def itemChars (layout : Layout) (level : Nat) : List Json → List Char
  | [] => []
  | item :: items =>
    ',' :: layout.breakChars level ++ charsAt layout level item ++ itemChars layout level items

/-- The characters of the members after the first. -/
def memberChars (layout : Layout) (level : Nat) : List (String × Json) → List Char
  | [] => []
  | (key, value) :: members =>
    ',' :: layout.breakChars level ++ quoteChars key ++ layout.colon.toList
      ++ charsAt layout level value ++ memberChars layout level members

end

theorem toList_lineBreak
    (layout : Layout) (level : Nat) :
    (layout.lineBreak level).toList = layout.breakChars level := by
  rw [Layout.lineBreak, Layout.breakChars]
  cases layout.indent with
  | none => rfl
  | some indent =>
    have repeated : (String.join (List.replicate level indent)).toList =
        (List.replicate level indent.toList).flatten := by
      rw [String.toList_join, List.flatMap_replicate]
    simp only [String.toList_append, repeated]
    rfl

theorem toList_quoteText
    (text : String) :
    (quoteText text).toList = quoteChars text := by
  rw [quoteText, quoteChars, String.toList_ofList]

mutual

theorem toList_renderAt
    (layout : Layout) (level : Nat) (json : Json) :
    (renderAt layout level json).toList = charsAt layout level json := by
  match json with
  | .null => rfl
  | .bool value => cases value <;> rfl
  | .number value => rfl
  | .text value => exact toList_quoteText value
  | .list [] =>
    rw [renderAt, charsAt]
    rfl
  | .list (item :: items) =>
    rw [renderAt, charsAt]
    simp only [String.toList_append, toList_lineBreak, toList_renderAt layout (level + 1) item,
      toList_renderItems layout (level + 1) items]
    rfl
  | .object [] =>
    rw [renderAt, charsAt]
    rfl
  | .object ((key, value) :: members) =>
    rw [renderAt, charsAt]
    simp only [String.toList_append, toList_lineBreak, toList_quoteText,
      toList_renderAt layout (level + 1) value, toList_renderMembers layout (level + 1) members]
    rfl

theorem toList_renderItems
    (layout : Layout) (level : Nat) (items : List Json) :
    (renderItems layout level items).toList = itemChars layout level items := by
  match items with
  | [] => rfl
  | item :: items =>
    rw [renderItems, itemChars]
    simp only [String.toList_append, toList_lineBreak, toList_renderAt layout level item,
      toList_renderItems layout level items]
    rfl

theorem toList_renderMembers
    (layout : Layout) (level : Nat) (members : List (String × Json)) :
    (renderMembers layout level members).toList = memberChars layout level members := by
  match members with
  | [] => rfl
  | (key, value) :: members =>
    rw [renderMembers, memberChars]
    simp only [String.toList_append, toList_lineBreak, toList_quoteText,
      toList_renderAt layout level value, toList_renderMembers layout level members]
    rfl

end

/-! ## Reading characters -/

/-- Reads the characters of a JSON text. -/
def parseChars (chars : List Char) : Except Error Json := do
  let (tree, behind) := readTree (4 * chars.length + 4) deepest chars
  let value ← tree.toJson
  if behind.any fun rest => !(skipBlanks rest).isEmpty then .error (.broken .malformed)
  else .ok value

theorem parse_eq_parseChars
    (text : String) :
    parse text = parseChars text.toList := rfl

end TestGate.Json
