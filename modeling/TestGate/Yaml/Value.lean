import TestGate.Format
import TestGate.Yaml.Node

/-!
YAML as a format. A text is any scalar, whatever it looks like; whether a scalar is no value or a
number depends on how it is written. An empty scalar also stands for an empty list or structure.
What is not read is not looked into, so that aliases in it may name anything.
-/

namespace TestGate.Yaml

open Text

/-- A node with the anchored nodes of its document, by number. -/
structure Value where
  anchored : List (Nat × Node)
  node : Node
deriving Inhabited

/-- A node under its number, if it is anchored. -/
def numbered (anchor : Option Nat) (node : Node) : List (Nat × Node) :=
  (anchor.map fun number => (number, node)).toList

mutual

/-- The anchored nodes inside a node and the node itself, in the order of the text. -/
def Node.anchored : Node → List (Nat × Node)
  | .scalar anchor tag style text => numbered anchor (.scalar anchor tag style text)
  | .sequence anchor items => numbered anchor (.sequence anchor items) ++ Node.anchoredItems items
  | .mapping anchor entries =>
    numbered anchor (.mapping anchor entries) ++ Node.anchoredEntries entries
  | .alias _ => []

/-- The anchored nodes inside items. -/
def Node.anchoredItems : List Node → List (Nat × Node)
  | [] => []
  | item :: items => item.anchored ++ Node.anchoredItems items

/-- The anchored nodes inside entries. -/
def Node.anchoredEntries : List (Node × Node) → List (Nat × Node)
  | [] => []
  | (key, value) :: entries => key.anchored ++ value.anchored ++ Node.anchoredEntries entries

end

namespace Value

/-- The value in a text. Of several nodes with one number the last counts. -/
def ofText (text : String) : Except Error Value := do
  let root ← Node.ofText text
  return ⟨root.anchored.reverse, root⟩

/-- The node itself, or the one that it is an alias for. -/
def target (value : Value) : Except Error Node :=
  match value.node with
  | .alias number =>
    match value.anchored.lookup number with
    | some node => .ok node
    | none => .error .malformed
  | node => .ok node

def withNode (value : Value) (node : Node) : Value :=
  { value with node := node }

def text (value : Value) : Except Error String := do
  match ← value.target with
  | .scalar _ _ _ text => return text
  | _ => throw .unfit

/-- The words for no value. -/
def isNullWord (text : String) : Bool :=
  ["null", "Null", "NULL", "~"].contains text

def nullTag : String := "tag:yaml.org,2002:null"

def intTag : String := "tag:yaml.org,2002:int"

/-- Reads a text or the absence of one: an untagged plain scalar that is empty or a word for no
value. A scalar with the tag of no value must be such a word. -/
def optionalText (value : Value) : Except Error (Option String) := do
  match ← value.target with
  | .scalar _ tag style text =>
    if style ≠ .plain then
      return some text
    match tag with
    | some tag =>
      if tag = nullTag then
        if isNullWord text then return none else throw .unfit
      else
        return some text
    | none => return if text = "" ∨ isNullWord text then none else some text
  | _ => throw .unfit

/-- The value of a digit up to base sixteen. -/
def digitsIn (base : Nat) (digits : List Char) : Option Nat :=
  if digits.isEmpty then
    none
  else
    digits.foldlM
      (fun value c =>
        (hexDigit? c).bind fun digit => if digit < base then some (value * base + digit) else none)
      0

/-- Whether a row of digits has a leading zero. -/
def hasLeadingZero (digits : List Char) : Bool :=
  1 < digits.length && digits.head? == some '0' && digits.all Char.isDigit

/-- The natural number that a scalar denotes: in decimal, or in base sixteen, eight or two behind a
mark; a plus sign may come first. -/
def readNatural? (chars : List Char) : Option Nat :=
  let unsigned := if chars.head? == some '+' then chars.drop 1 else chars
  match unsigned with
  | '0' :: 'x' :: digits => digitsIn 16 digits
  | '0' :: 'o' :: digits => digitsIn 8 digits
  | '0' :: 'b' :: digits => digitsIn 2 digits
  | digits => if hasLeadingZero digits then none else digitsIn 10 digits

/-- Whether a scalar may be a number: it is plain, or literal with the tag of whole numbers. -/
def mayBeNumber (tag : Option String) (style : Style) : Bool :=
  style == .plain || (style == .literal && tag == some intTag)

/-- Reads a natural number up to `largest`. -/
def natural (largest : Nat) (value : Value) : Except Error Nat := do
  match ← value.target with
  | .scalar _ tag style text =>
    match if mayBeNumber tag style then readNatural? text.toList else none with
    | some number => if number ≤ largest then return number else throw .unfit
    | none => throw .unfit
  | _ => throw .unfit

def items (value : Value) : Except Error (List Value) := do
  match ← value.target with
  | .sequence _ items => return items.map value.withNode
  | .scalar _ _ _ "" => return []
  | _ => throw .unfit

def entries (value : Value) : Except Error (List (Value × Value)) := do
  match ← value.target with
  | .mapping _ entries =>
    return entries.map fun (key, node) => (value.withNode key, value.withNode node)
  | .scalar _ _ _ "" => return []
  | _ => throw .unfit

def pairs (value : Value) : Except Error (List (String × Value)) := do
  (← value.entries).mapM fun (key, value) => return (← key.text, value)

/-- Reads the fields of a structure that are among `names`, each at most once. -/
def fields (names : List String) (value : Value) : Except Error (List (String × Value)) := do
  let known := (← value.pairs).filter fun pair => names.contains pair.1
  if (known.map (·.1)).eraseDups.length = known.length then return known else throw .unfit

instance : Format Value Error where
  text := text
  optionalText := optionalText
  natural := natural
  items := items
  pairs := pairs
  fields := fields
  missing _ := .unfit

end Value

end TestGate.Yaml
