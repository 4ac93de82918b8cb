import TestGate.Json.Basic

/-!
What a JSON text holds, in the order of the text and up to its first fault. A reader that walks the
tree from the front meets its own objections and the faults of the text in the order in which they
stand. Two ways of walking meet different faults: reading strictly, which needs every value, and
skipping, which only needs the text to go on.
-/

namespace TestGate.Json

/-- What is wrong with a JSON text. -/
inductive Fault where
  /-- The text is not JSON, or its numbers or its depth are beyond what is read. -/
  | malformed
  /-- The text ends before the value does. -/
  | truncated
deriving DecidableEq, Repr

/-- Why a value could not be read from JSON. -/
inductive Error where
  /-- The text is no JSON. -/
  | broken (fault : Fault)
  /-- The JSON has another shape than the value. -/
  | unfit (message : String)
deriving DecidableEq, Repr

def Error.message : Error → String
  | .broken .malformed => "malformed JSON"
  | .broken .truncated => "JSON text ends early"
  | .unfit message => message

/-- The error of a value that has another shape. -/
def Error.shape : Error :=
  .unfit "unexpected JSON shape"

/-- The key of a member: as read, or unsound because it stands for no text. -/
inductive Key where
  | sound (text : String)
  | unsound
deriving DecidableEq, Repr

mutual

/-- A JSON value as it stands in a text. -/
inductive Tree where
  | null
  | bool (value : Bool)
  | number (value : Number)
  | text (value : String)
  | list (items : Items)
  | object (members : Members)
  /-- A leaf that may be skipped but stands for no value. -/
  | unsound
  /-- The text stops here, with the fault for a strict reader and the one for a skipping reader. -/
  | broken (strict skipping : Fault)

/-- The items of a list and how the list ends. -/
inductive Items where
  | closed
  | cons (item : Tree) (rest : Items)
  | fault (fault : Fault)
  /-- The list lies too deep to be read; it may be skipped unless the text stops inside. -/
  | barred (skipping : Option Fault)

/-- The members of an object and how the object ends. -/
inductive Members where
  | closed
  | cons (key : Key) (value : Tree) (rest : Members)
  | fault (fault : Fault)
  /-- The text stops inside a key, with the fault for a strict and for a skipping reader. -/
  | brokenKey (strict skipping : Fault)
  /-- The object lies too deep to be read; it may be skipped unless the text stops inside. -/
  | barred (skipping : Option Fault)

end

instance : Inhabited Tree := ⟨.null⟩

/-! ## Skipping -/

mutual

/-- The fault that a reader meets who passes over the value. -/
def Tree.skipFault? : Tree → Option Fault
  | .list items => items.skipFault?
  | .object members => members.skipFault?
  | .broken _ skipping => some skipping
  | .null | .bool _ | .number _ | .text _ | .unsound => none

/-- The fault that a reader meets who passes over the items. -/
def Items.skipFault? : Items → Option Fault
  | .closed => none
  | .cons item rest => item.skipFault?.or rest.skipFault?
  | .fault fault => some fault
  | .barred skipping => skipping

/-- The fault that a reader meets who passes over the members. -/
def Members.skipFault? : Members → Option Fault
  | .closed => none
  | .cons _ value rest => value.skipFault?.or rest.skipFault?
  | .fault fault => some fault
  | .brokenKey _ skipping => some skipping
  | .barred skipping => skipping

end

/-! ## Trees of values -/

mutual

def Tree.ofJson : Json → Tree
  | .null => .null
  | .bool value => .bool value
  | .number value => .number value
  | .text value => .text value
  | .list items => .list (Items.ofList items)
  | .object members => .object (Members.ofList members)

def Items.ofList : List Json → Items
  | [] => .closed
  | item :: items => .cons (Tree.ofJson item) (Items.ofList items)

def Members.ofList : List (String × Json) → Members
  | [] => .closed
  | (key, value) :: members => .cons (.sound key) (Tree.ofJson value) (Members.ofList members)

end

mutual

def Tree.height : Tree → Nat
  | .list items => items.height + 1
  | .object members => members.height + 1
  | .null | .bool _ | .number _ | .text _ | .unsound | .broken _ _ => 0

def Items.height : Items → Nat
  | .cons item rest => max item.height rest.height
  | .closed | .fault _ | .barred _ => 0

def Members.height : Members → Nat
  | .cons _ value rest => max value.height rest.height
  | .closed | .fault _ | .brokenKey _ _ | .barred _ => 0

end

end TestGate.Json
