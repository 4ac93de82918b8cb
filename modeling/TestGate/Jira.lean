import TestGate.Issue.Codec

/-!
Issues as Jira describes them. Names stand inside objects, duplicates and clones are links of
certain kinds, and what nobody asks about is kept.
-/

namespace TestGate.Jira

open Issue Json

/-- A link from an issue to others. -/
structure Link where
  kind : String
  inward : Option String := none
  outward : Option String := none
deriving DecidableEq, Repr, Inhabited

/-- An issue with its links. -/
structure FoundIssue where
  key : String
  status : Option String := none
  resolution : Option String := none
  fixVersions : List String := []
  links : List Link := []
  rest : SortedMap String Json := SortedMap.empty

/-! ## Reading -/

/-- Reads the only field of a structure. -/
def decodeOnly (name : String) (tree : Tree) : Except Json.Error String := do
  (← tree.structure [name] [name]).read name Tree.toText

def Link.decode (tree : Tree) : Except Json.Error Link := do
  let names := ["type", "inwardIssue", "outwardIssue"]
  let fields ← tree.structure names names
  let kind ← fields.read "type" (decodeOnly "name")
  let inward ← fields.readOr "inwardIssue" none (Tree.optional (decodeOnly "key"))
  let outward ← fields.readOr "outwardIssue" none (Tree.optional (decodeOnly "key"))
  .ok { kind, inward, outward }

/-- A field of an issue: one that is looked into later, or one that is kept. -/
inductive Field where
  | known (tree : Tree)
  | other (value : Json)

def knownFields : List String :=
  ["status", "resolution", "fixVersions", "issuelinks"]

def readField (name : String) (tree : Tree) : Except Json.Error (Option Field) :=
  if knownFields.contains name then
    .ok (some (.known tree))
  else
    tree.toJson.map fun value => some (.other value)

def knownOf (fields : Fields Field) : Fields Tree :=
  fields.filterMap fun (name, field) =>
    match field with
    | .known tree => some (name, tree)
    | .other _ => none

def othersOf (fields : Fields Field) : List (String × Json) :=
  fields.reverse.filterMap fun (name, field) =>
    match field with
    | .known _ => none
    | .other value => some (name, value)

/-- Reads the fields of the issue with this key; a list is refused. -/
def FoundIssue.decodeFields (key : String) : Decoder FoundIssue
  | .object members => do
    let fields ← members.fields knownFields readField []
    let known := knownOf fields
    let status ← known.readOr "status" none (Tree.optional (decodeOnly "name"))
    let resolution ← known.readOr "resolution" none (Tree.optional (decodeOnly "name"))
    let fixVersions ← known.readOr "fixVersions" [] (Tree.toList (decodeOnly "name"))
    let links ← known.readOr "issuelinks" [] (Tree.toList Link.decode)
    let rest := SortedMap.ofList (othersOf fields)
    .ok { key, status, resolution, fixVersions, links, rest }
  | tree => .error tree.objection

def FoundIssue.decode (tree : Tree) : Except Json.Error FoundIssue := do
  let fields ← tree.structure ["key", "fields"] ["key", "fields"]
  let key ← fields.read "key" Tree.toText
  fields.read "fields" (decodeFields key)

/-! ## Records -/

namespace FoundIssue

def linksOf (issue : FoundIssue) (kind : String) : List Link :=
  issue.links.filter fun link => link.kind == kind

/-- The record of an issue. The first outward link of a duplicate names the issue behind it, inward
links of cloners name the clones. -/
def toRecord (issue : FoundIssue) : Record where
  id := issue.key
  status := issue.status.getD ""
  resolution := issue.resolution.getD ""
  fixVersions := issue.fixVersions
  duplicateOf := (issue.linksOf "Duplicate").findSome? Link.outward
  cloneIds := (issue.linksOf "Cloners").filterMap Link.inward
  extra := issue.rest

end FoundIssue

end TestGate.Jira
