import TestGate.Json.Reader

/-!
Reading values of other types from JSON. A decoder walks a tree from the front and stops at the
first objection, its own or the text's. The fields of a structure stand in an object, each at most
once, or in a list in their order.
-/

namespace TestGate.Json

/-- A way to read a value of type `α`. -/
abbrev Decoder (α : Type) := Tree → Except Error α

/-- The fault of a tree that stands for no value; for a value of a wrong kind, its shape. -/
def Tree.objection : Tree → Error
  | .unsound => .broken .malformed
  | .broken strict _ => .broken strict
  | _ => .shape

/-! ## Leaves -/

def Tree.toText : Decoder String
  | .text value => .ok value
  | tree => .error tree.objection

def Tree.toBool : Decoder Bool
  | .bool value => .ok value
  | tree => .error tree.objection

/-- Reads a natural number up to `largest`. -/
def Tree.toNat (largest : Nat) : Decoder Nat
  | .number (.integer value) =>
    if 0 ≤ value ∧ value ≤ largest then .ok value.toNat else .error .shape
  | tree => .error tree.objection

/-- Reads `null` as none, and all else as a value. -/
def Tree.optional {α : Type} (decode : Decoder α) : Decoder (Option α)
  | .null => .ok none
  | tree => (decode tree).map some

def Tree.skip (tree : Tree) : Except Error Unit :=
  match tree.skipFault? with
  | none => .ok ()
  | some fault => .error (.broken fault)

/-! ## Values -/

def Key.toText : Key → Except Error String
  | .sound key => .ok key
  | .unsound => .error (.broken .malformed)

mutual

/-- Reads any value; objects come out in canonical order. -/
def Tree.toJson : Decoder Json
  | .null => .ok .null
  | .bool value => .ok (.bool value)
  | .number value => .ok (.number value)
  | .text value => .ok (.text value)
  | .list items => items.toJsons.map .list
  | .object members => members.toJsons.map ofMembers
  | .unsound => .error (.broken .malformed)
  | .broken strict _ => .error (.broken strict)

def Items.toJsons : Items → Except Error (List Json)
  | .closed => .ok []
  | .cons item rest => do
    let item ← item.toJson
    let rest ← rest.toJsons
    .ok (item :: rest)
  | .fault problem => .error (.broken problem)
  | .barred _ => .error (.broken .malformed)

def Members.toJsons : Members → Except Error (List (String × Json))
  | .closed => .ok []
  | .cons key value rest => do
    let key ← key.toText
    let value ← value.toJson
    let rest ← rest.toJsons
    .ok ((key, value) :: rest)
  | .fault problem => .error (.broken problem)
  | .brokenKey strict _ => .error (.broken strict)
  | .barred _ => .error (.broken .malformed)

end

/-! ## Lists and maps -/

def Items.each {α : Type} (decode : Decoder α) : Items → Except Error (List α)
  | .closed => .ok []
  | .cons item rest => do
    let item ← decode item
    let rest ← rest.each decode
    .ok (item :: rest)
  | .fault problem => .error (.broken problem)
  | .barred _ => .error (.broken .malformed)

def Tree.toList {α : Type} (decode : Decoder α) : Decoder (List α)
  | .list items => items.each decode
  | tree => .error tree.objection

/-- Reads members one after another, keys included. -/
def Members.each {α : Type}
    (decode : String → Tree → Except Error α) : Members → Except Error (List α)
  | .closed => .ok []
  | .cons key value rest => do
    let key ← key.toText
    let value ← decode key value
    let rest ← rest.each decode
    .ok (value :: rest)
  | .fault problem => .error (.broken problem)
  | .brokenKey strict _ => .error (.broken strict)
  | .barred _ => .error (.broken .malformed)

def Tree.toPairs {α : Type} (decode : String → Tree → Except Error α) : Decoder (List α)
  | .object members => members.each decode
  | tree => .error tree.objection

/-! ## Structures -/

/-- What has been read of a structure: the fields by name, the last one first. -/
abbrev Fields (ν : Type) := List (String × ν)

/-- The value of a field that may be missing. -/
def Fields.get? {ν : Type} (fields : Fields ν) (name : String) : Option ν :=
  (fields.find? fun field => field.1 == name).map (·.2)

/-- The value of a field that must be there. -/
def Fields.require {ν : Type} (fields : Fields ν) (name : String) : Except Error ν :=
  match fields.get? name with
  | some value => .ok value
  | none => .error .shape

/-- Reads the members of a structure. A field in `names` may come once; `read` may drop others. -/
def Members.fields {ν : Type}
    (names : List String) (read : String → Tree → Except Error (Option ν)) (seen : Fields ν) :
    Members → Except Error (Fields ν)
  | .closed => .ok seen
  | .cons key value rest => do
    let key ← key.toText
    if names.contains key && (seen.get? key).isSome then
      .error .shape
    match ← read key value with
    | some value => rest.fields names read ((key, value) :: seen)
    | none => rest.fields names read seen
  | .fault problem => .error (.broken problem)
  | .brokenKey strict _ => .error (.broken strict)
  | .barred _ => .error (.broken .malformed)

/-- Reads the fields of a structure from a list. More items than fields are refused, in the words of
a text when the list stands in a text. -/
def Items.fields {ν : Type} (read : String → Tree → Except Error (Option ν)) (seen : Fields ν) :
    List String → Items → Except Error (Fields ν)
  | _, .fault problem => .error (.broken problem)
  | _, .barred _ => .error (.broken .malformed)
  | _, .closed => .ok seen
  | [], .cons _ _ => .error (.broken .malformed)
  | name :: names, .cons item rest => do
    match ← read name item with
    | some value => rest.fields read ((name, value) :: seen) names
    | none => rest.fields read seen names

/-- Reads the fields of a structure from an object, or from a list that holds at least the fields
in `listed`. -/
def Tree.fields {ν : Type}
    (names listed : List String) (read : String → Tree → Except Error (Option ν)) :
    Decoder (Fields ν)
  | .object members => members.fields names read []
  | .list items => do
    let fields ← items.fields read [] names
    if listed.all fun name => (fields.get? name).isSome then .ok fields else .error .shape
  | tree => .error tree.objection

/-- Keeps the tree of each field in `names` for later and passes over all others. -/
def keepNamed (names : List String) (name : String) (tree : Tree) : Except Error (Option Tree) :=
  if names.contains name then .ok (some tree) else tree.skip.map fun _ => none

/-- The fields of a structure, each as a tree. -/
def Tree.structure (names listed : List String) : Decoder (Fields Tree) :=
  Tree.fields names listed (keepNamed names)

/-- Reads a field that must be there. -/
def Fields.read {α : Type}
    (fields : Fields Tree) (name : String) (decode : Decoder α) : Except Error α := do
  decode (← fields.require name)

/-- Reads a field that has a default. -/
def Fields.readOr {α : Type}
    (fields : Fields Tree) (name : String) (default : α) (decode : Decoder α) : Except Error α :=
  match fields.get? name with
  | some tree => decode tree
  | none => .ok default

/-! ## Texts and values -/

def decodeText {α : Type} (decode : Decoder α) (text : String) : Except Error α := do
  let document := Document.ofText text
  let value ← decode document.tree
  if document.trailing then .error (.broken .malformed) else .ok value

/-- Reads a JSON value. There is no text, so any objection is to its shape. -/
def decodeValue {α : Type} (decode : Decoder α) (json : Json) : Except Error α :=
  match decode (Tree.ofJson json) with
  | .ok value => .ok value
  | .error (.broken _) => .error .shape
  | .error (.unfit message) => .error (.unfit message)

def parse (text : String) : Except Error Json :=
  decodeText Tree.toJson text

end TestGate.Json
