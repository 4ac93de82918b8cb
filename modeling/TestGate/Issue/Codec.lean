import TestGate.Issue.Index
import TestGate.Json.Decode

/-!
The JSON form of references, records, uses and the index. A record keeps the fields that it does not
know; ids and links may be written as texts or as whole numbers.
-/

namespace TestGate.Issue

open Json Text

/-! ## References -/

/-- What is said of a text that is no reference. -/
def Reference.refusal (text : String) : String :=
  "invalid issue reference `" ++ text ++ "`: expected BZ:<number> or JR:<key>"

def Reference.ofText (text : String) : Except Json.Error Reference :=
  match Reference.parse? text with
  | some reference => .ok reference
  | none => .error (.unfit (refusal text))

/-! ## Records -/

def Flag.toJson (flag : Flag) : Json :=
  .object [("name", .text flag.name), ("status", .text flag.status)]

def Flag.readField (name : String) (tree : Tree) : Except Json.Error (Option String) :=
  if name = "name" ∨ name = "status" then tree.toText.map some else tree.skip.map fun _ => none

def Flag.decode (tree : Tree) : Except Json.Error Flag := do
  let fields ← tree.fields ["name", "status"] [] readField
  let name ← fields.require "name"
  .ok { name := name, status := (fields.get? "status").getD "" }

/-- The least whole number that an id may be written as. -/
def leastId : Int := -(Nat.pow 2 63)

/-- The largest whole number that an id may be written as. -/
def largestId : Int := Nat.pow 2 63 - 1

/-- Reads a text, or a whole number as its decimal text. -/
def decodeId (tree : Tree) : Except Json.Error String := do
  match ← tree.toJson with
  | .text value => .ok value
  | .number (.integer value) =>
    if leastId ≤ value ∧ value ≤ largestId then .ok (intText value) else .error .shape
  | _ => .error .shape

/-- The value of a field of a record. -/
inductive RecordField where
  | text (value : String)
  | maybe (value : Option String)
  | texts (values : List String)
  | flags (values : List Flag)
  | records (values : List Record)
  | verdict (value : Option Bool)
  | extra (value : Json)

namespace RecordField

def names : List String :=
  ["id", "status", "resolution", "fixVersions", "target_milestone", "flags", "dupe_of", "clone_ids",
    "cf_clone_of", "clones", "is_open", "is_deselected", "error"]

/-- Reads a field of a record, given how to read the records inside it. -/
def read (decodeRecord : Decoder Record) (name : String) (tree : Tree) :
    Except Json.Error (Option RecordField) :=
  some <$>
    match name with
    | "id" => text <$> decodeId tree
    | "status" => text <$> tree.toText
    | "resolution" => (fun value => text (value.getD "")) <$> tree.optional decodeId
    | "fixVersions" => texts <$> tree.toList Tree.toText
    | "target_milestone" => maybe <$> tree.optional Tree.toText
    | "flags" => flags <$> tree.toList Flag.decode
    | "dupe_of" => (fun value => maybe (value.filter (· != ""))) <$> tree.optional decodeId
    | "clone_ids" => (fun values => texts (values.getD [])) <$> tree.optional (Tree.toList decodeId)
    | "cf_clone_of" => (fun value => text (value.getD "")) <$> tree.optional decodeId
    | "clones" => records <$> tree.toList decodeRecord
    | "is_open" => verdict <$> tree.optional Tree.toBool
    | "is_deselected" => verdict <$> tree.optional Tree.toBool
    | "error" => maybe <$> tree.optional Tree.toText
    | _ => extra <$> tree.toJson

/-- The text of a field; blank if it is missing. -/
def textOf : Option RecordField → String
  | some (text value) => value
  | _ => ""

/-- The text of a field that may be missing. -/
def maybeOf : Option RecordField → Option String
  | some (maybe value) => value
  | _ => none

/-- The texts of a field; none if it is missing. -/
def textsOf : Option RecordField → List String
  | some (texts values) => values
  | _ => []

/-- The flags of a field; none if it is missing. -/
def flagsOf : Option RecordField → List Flag
  | some (flags values) => values
  | _ => []

/-- The records of a field; none if it is missing. -/
def recordsOf : Option RecordField → List Record
  | some (records values) => values
  | _ => []

/-- The verdict of a field that may be missing. -/
def verdictOf : Option RecordField → Option Bool
  | some (verdict value) => value
  | _ => none

/-- A member that the record does not know. -/
def extraOf : String × RecordField → Option (String × Json)
  | (name, extra value) => some (name, value)
  | _ => none

end RecordField

def Record.ofFields (fields : Fields RecordField) : Record where
  id := RecordField.textOf (fields.get? "id")
  status := RecordField.textOf (fields.get? "status")
  resolution := RecordField.textOf (fields.get? "resolution")
  fixVersions := RecordField.textsOf (fields.get? "fixVersions")
  targetMilestone := RecordField.maybeOf (fields.get? "target_milestone")
  flags := RecordField.flagsOf (fields.get? "flags")
  duplicateOf := RecordField.maybeOf (fields.get? "dupe_of")
  cloneIds := RecordField.textsOf (fields.get? "clone_ids")
  cloneOf := RecordField.textOf (fields.get? "cf_clone_of")
  clones := RecordField.recordsOf (fields.get? "clones")
  isOpen := RecordField.verdictOf (fields.get? "is_open")
  isDeselected := RecordField.verdictOf (fields.get? "is_deselected")
  error := RecordField.maybeOf (fields.get? "error")
  extra := SortedMap.ofList (fields.reverse.filterMap RecordField.extraOf)

/-- Reads a record whose records inside it lie at most `fuel` deep. A list is refused. -/
def Record.decodeWithin : (fuel : Nat) → Decoder Record
  | 0, _ => .error .shape
  | fuel + 1, .object members => do
    let fields ← members.fields RecordField.names (RecordField.read (decodeWithin fuel)) []
    .ok (ofFields fields)
  | _ + 1, tree => .error tree.objection

def Record.decode (tree : Tree) : Except Json.Error Record :=
  Record.decodeWithin (tree.height + 1) tree

/-- A member that is left out when the list is empty. -/
def listMember (name : String) (items : List Json) : List (String × Json) :=
  if items.isEmpty then [] else [(name, .list items)]

/-- A member that is left out when there is no value. -/
def optionMember {α : Type} (name : String) (encode : α → Json) (value : Option α) :
    List (String × Json) :=
  match value with
  | some value => [(name, encode value)]
  | none => []

mutual

/-- The form of a record: its fields in order, and behind them the fields that it does not know. -/
def Record.toJson : Record → Json
  | { id, status, resolution, fixVersions, targetMilestone, flags, duplicateOf, cloneIds, cloneOf,
      clones, isOpen, isDeselected, error, extra } =>
    .object <|
      [("id", .text id), ("status", .text status), ("resolution", .text resolution)]
      ++ listMember "fixVersions" (fixVersions.map .text)
      ++ optionMember "target_milestone" .text targetMilestone
      ++ listMember "flags" (flags.map Flag.toJson)
      ++ optionMember "dupe_of" .text duplicateOf
      ++ [("clone_ids", Json.ofTexts cloneIds), ("cf_clone_of", .text cloneOf)]
      ++ listMember "clones" (Record.listToJson clones)
      ++ optionMember "is_open" .bool isOpen
      ++ optionMember "is_deselected" .bool isDeselected
      ++ optionMember "error" .text error
      ++ extra.entries

def Record.listToJson : List Record → List Json
  | [] => []
  | record :: records => record.toJson :: Record.listToJson records

end

/-! ## Uses and entries -/

def Usage.toJson (usage : Usage) : Json :=
  .object <|
    [("filepath", .text usage.location.path), ("lineno", Json.ofNat usage.location.line),
      ("testcase", .text usage.location.name),
      ("component", Json.ofOption .text usage.component)]
    ++ optionMember "importance" .text usage.importance
    ++ optionMember "component_mark" .text usage.componentMark
    ++ [("usage", .text usage.kind)]

def Usage.decode (tree : Tree) : Except Json.Error Usage := do
  let fields ← tree.structure
    ["filepath", "lineno", "testcase", "component", "importance", "component_mark", "usage"] []
  let path ← fields.read "filepath" Tree.toText
  let line ← fields.read "lineno" (Tree.toNat Location.largestLine)
  let name ← fields.read "testcase" Tree.toText
  let component ← fields.readOr "component" none (Tree.optional Tree.toText)
  let importance ← fields.readOr "importance" none (Tree.optional Tree.toText)
  let componentMark ← fields.readOr "component_mark" none (Tree.optional Tree.toText)
  let kind ← fields.read "usage" Tree.toText
  .ok { location := ⟨path, line, name⟩, component, importance, componentMark, kind }

def Entry.toJson (entry : Entry) : Json :=
  .object <|
    optionMember "data" Record.toJson entry.data
    ++ [("used_in", .list (entry.usedIn.map Usage.toJson))]
    ++ (if entry.isDuplicateTarget then [("is_dupe", .bool true)] else [])

def Entry.decode (tree : Tree) : Except Json.Error Entry := do
  let fields ← tree.structure ["data", "used_in", "is_dupe"] []
  let data ← fields.readOr "data" none (Tree.optional Record.decode)
  let usedIn ← fields.readOr "used_in" [] (Tree.toList Usage.decode)
  let isDuplicateTarget ← fields.readOr "is_dupe" false Tree.toBool
  .ok { data, usedIn, isDuplicateTarget }

/-! ## The index -/

/-- The form of an index: entries by reference, all objects in canonical order. -/
def Index.toJson (index : Index) : Json :=
  Json.ofMembers (index.entries.map fun (issue, entry) => (issue.toText, entry.toJson.sorted))

/-- Reads an index. Of two keys that name one issue the later counts. -/
def Index.decode (tree : Tree) : Except Json.Error Index := do
  let pairs ← tree.toPairs fun key tree => do
    let issue ← Reference.ofText key
    let entry ← Entry.decode tree
    .ok (issue, entry)
  .ok (SortedMap.ofList pairs)

end TestGate.Issue
