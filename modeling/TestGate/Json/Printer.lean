import TestGate.Json.Basic
import TestGate.Double.Shortest
import TestGate.Text.Number

/-!
Writing JSON: in one line, or with a line for each item and member. Members are written in the order
in which the object lists them.
-/

namespace TestGate.Json

open Text

/-- One character as it stands between quotes: quotes, backslashes and control characters are
escaped. -/
def escapeChar (c : Char) : List Char :=
  match c with
  | '"' => ['\\', '"']
  | '\\' => ['\\', '\\']
  | '\x08' => ['\\', 'b']
  | '\x0c' => ['\\', 'f']
  | '\n' => ['\\', 'n']
  | '\r' => ['\\', 'r']
  | '\t' => ['\\', 't']
  | c =>
    if c.toNat < 0x20 then
      ['\\', 'u', '0', '0', Nat.digitChar (c.toNat / 16), Nat.digitChar (c.toNat % 16)]
    else
      [c]

def quoteText (text : String) : String :=
  String.ofList ('"' :: text.toList.flatMap escapeChar ++ ['"'])

def Number.toText : Number → String
  | .integer value => intText value
  | .double value => value.toText

/-- How a value is laid out: line by line with this indentation, or in one line. -/
structure Layout where
  indent : Option String

/-- All in one line, without blanks. -/
def Layout.compact : Layout := ⟨none⟩

/-- A line for each item and member, indented by some blanks a level. -/
def Layout.lines (width : Nat) : Layout := ⟨some (String.ofList (List.replicate width ' '))⟩

/-- What stands before an item or a bracket on a line of its own. -/
def Layout.lineBreak (layout : Layout) (level : Nat) : String :=
  match layout.indent with
  | some indent => "\n" ++ String.join (List.replicate level indent)
  | none => ""

def Layout.colon (layout : Layout) : String :=
  match layout.indent with
  | some _ => ": "
  | none => ":"

mutual

/-- The text of a value that stands `level` levels deep. -/
def renderAt (layout : Layout) (level : Nat) : Json → String
  | .null => "null"
  | .bool value => if value then "true" else "false"
  | .number value => value.toText
  | .text value => quoteText value
  | .list [] => "[]"
  | .list (item :: items) =>
    "[" ++ layout.lineBreak (level + 1) ++ renderAt layout (level + 1) item
      ++ renderItems layout (level + 1) items ++ layout.lineBreak level ++ "]"
  | .object [] => "\x7b\x7d"
  | .object ((key, value) :: members) =>
    "\x7b" ++ layout.lineBreak (level + 1) ++ quoteText key ++ layout.colon
      ++ renderAt layout (level + 1) value ++ renderMembers layout (level + 1) members
      ++ layout.lineBreak level ++ "\x7d"

/-- The text of the items after the first. -/
def renderItems (layout : Layout) (level : Nat) : List Json → String
  | [] => ""
  | item :: items =>
    "," ++ layout.lineBreak level ++ renderAt layout level item ++ renderItems layout level items

/-- The text of the members after the first. -/
def renderMembers (layout : Layout) (level : Nat) : List (String × Json) → String
  | [] => ""
  | (key, value) :: members =>
    "," ++ layout.lineBreak level ++ quoteText key ++ layout.colon
      ++ renderAt layout level value ++ renderMembers layout level members

end

def render (layout : Layout) (json : Json) : String :=
  renderAt layout 0 json

def compact (json : Json) : String :=
  json.render .compact

end TestGate.Json
