import TestGate.Double
import TestGate.SortedMap

/-!
JSON values. An object is a list of members in the order in which they are written; `ofMembers`
gives the canonical order, by key, with one member a key.
-/

namespace TestGate

/-- A JSON number: a whole number that fits in 64 bits, with or without a sign, or a double. -/
inductive Json.Number where
  | integer (value : Int)
  | double (value : Double)
deriving DecidableEq, Repr

/-- A JSON value. -/
inductive Json where
  | null
  | bool (value : Bool)
  | number (value : Json.Number)
  | text (value : String)
  | list (items : List Json)
  | object (members : List (String × Json))
deriving BEq, Repr, Inhabited

namespace Json

def ofInt (n : Int) : Json :=
  .number (.integer n)

def ofNat (n : Nat) : Json :=
  ofInt n

def ofTexts (texts : List String) : Json :=
  .list (texts.map .text)

/-- A value that may be missing, with `null` for none. -/
def ofOption {α : Type} (encode : α → Json) (value : Option α) : Json :=
  (value.map encode).getD .null

/-- The object with these members in canonical order; of two members with one key the later
counts. -/
def ofMembers (members : List (String × Json)) : Json :=
  .object (SortedMap.ofList members).entries

/-- The member of an object with this key; the last one if there are several. -/
def member? (json : Json) (key : String) : Option Json :=
  match json with
  | .object members => (members.reverse.find? fun member => member.1 == key).map (·.2)
  | _ => none

mutual

/-- The value with the members of each object in canonical order. -/
def sorted : Json → Json
  | .list items => .list (sortedItems items)
  | .object members => ofMembers (sortedMembers members)
  | .null => .null
  | .bool value => .bool value
  | .number value => .number value
  | .text value => .text value

/-- The items, each in canonical order. -/
def sortedItems : List Json → List Json
  | [] => []
  | item :: items => item.sorted :: sortedItems items

/-- The members in the order given, the value of each in canonical order. -/
def sortedMembers : List (String × Json) → List (String × Json)
  | [] => []
  | (key, value) :: members => (key, value.sorted) :: sortedMembers members

end

end Json

end TestGate
