import TestGate.CallSite
import TestGate.Docstring
import TestGate.Failure
import TestGate.Manifest
import TestGate.Notice

/-!
Collecting: which issues the tests of a manifest refer to, and how. Markers and guards in the source
of a test are uses of issues; docstrings only add ids to the marks of a test. Guards in the source
of a module count for issues that no test uses.

A collection fails when a marker that must name an issue does not. The guarding marker of a test
must name one even when the test is excluded.
-/

namespace TestGate

open Issue

def issueMarkers : List String :=
  ["skip_if_open", "skip", "deselect"]

def guardMarker : String := "skip_if_open"

/-! ## Markers -/

/-- What an issue marker says. -/
inductive MarkerReading where
  | names (issue : Reference)
  | freeText
  | malformed
deriving DecidableEq, Repr

/-- Reads an issue marker. It needs an argument; the argument of a guarding marker must be an
issue. -/
def Marker.reading (marker : Marker) : MarkerReading :=
  match marker.issueArgument? with
  | none => .malformed
  | some argument =>
    match Reference.parse? argument with
    | some issue => .names issue
    | none => if marker.name = guardMarker then .malformed else .freeText

def Marker.issue? (marker : Marker) : Option Reference :=
  match marker.reading with
  | .names issue => some issue
  | _ => none

/-- The markers of a test that carry an issue, in order. -/
def TestItem.issueMarkers (item : TestItem) : List Marker :=
  item.markers.filter fun marker => TestGate.issueMarkers.contains marker.name

/-- Whether a test is left out because its id starts with one of the prefixes. -/
def TestItem.isExcluded (item : TestItem) (prefixes : List String) : Bool :=
  prefixes.any fun start => item.nodeId.startsWith start

/-- The markers of a test that must be well formed: the guarding one, and all issue markers unless
the test is excluded. -/
def TestItem.requiredMarkers (item : TestItem) (prefixes : List String) : List Marker :=
  (item.closestMarker? guardMarker).toList
    ++ (if item.isExcluded prefixes then [] else item.issueMarkers)

/-- The failure of the first malformed marker that a test must not have. -/
def TestItem.failure? (item : TestItem) (prefixes : List String) : Option Failure :=
  ((item.requiredMarkers prefixes).find? fun marker => marker.reading == .malformed).map
    fun marker => .malformedMarker item.nodeId marker.name

/-! ## Marks and uses -/

/-- The fields of the docstrings above a test: module, class and function. -/
def Manifest.docstrings (manifest : Manifest) (item : TestItem) : List Docstring.Fields :=
  [(manifest.module? item.moduleName).bind TestModule.docstring, item.classDocstring,
    item.functionDocstring].reduceOption.map Docstring.fields

/-- The first argument of the closest marker with this name. -/
def TestItem.markerArgument? (item : TestItem) (name : String) : Option String :=
  (item.closestMarker? name).bind fun marker => marker.args.head?

/-- The component of a test: from its marker, else from the closest docstring. -/
def Manifest.component? (manifest : Manifest) (item : TestItem) : Option String :=
  (item.markerArgument? "component").or
    ((manifest.docstrings item).reverse.findSome? Docstring.Fields.component)

/-- The importance of a test: from its marker, else from the closest docstring. -/
def Manifest.importance? (manifest : Manifest) (item : TestItem) : Option String :=
  (item.markerArgument? "importance").or
    ((manifest.docstrings item).reverse.findSome? Docstring.Fields.importance)

def Usage.make (location : Location) (component importance : Option String) (kind : String) :
    Usage where
  location := location
  component := component
  importance := importance
  componentMark := component.map Docstring.componentSlug
  kind := kind

/-- The issues that a test uses, each with its use: by markers in order, then by guards. -/
def Manifest.itemUsages (manifest : Manifest) (item : TestItem) : List (Reference × Usage) :=
  let usage (kind : String) : Usage :=
    Usage.make item.location (manifest.component? item) (manifest.importance? item) kind
  (item.issueMarkers.filterMap fun marker =>
      marker.issue?.map fun issue => (issue, usage marker.name))
    ++ (CallSite.scan item.source).map fun site => (site.issue, usage site.usage)

/-- The issues that guards in the source of a module name, each with its use. -/
def TestModule.usages (testModule : TestModule) : List (Reference × Usage) :=
  (CallSite.scan testModule.source).map fun site =>
    (site.issue,
      Usage.make ⟨testModule.path, 1, testModule.name⟩ (Docstring.component? testModule.source) none
        site.usage)

/-- A test with the issues it refers to. -/
structure CollectedItem where
  nodeId : String
  location : Location
  bugzillaMarks : List String := []
  jiraMarks : List String := []
  guard : Option Reference := none
  primary : Option Reference := none
  excluded : Bool := false
deriving DecidableEq, Repr, Inhabited

/-- The ids of a tracker that a test refers to. -/
def CollectedItem.marks (item : CollectedItem) : Tracker → List String
  | .bugzilla => item.bugzillaMarks
  | .jira => item.jiraMarks

def Manifest.itemMarks (manifest : Manifest) (item : TestItem) (tracker : Tracker) : List String :=
  let listed (fields : Docstring.Fields) : List String :=
    match tracker with
    | .bugzilla => fields.bugzillaIds
    | .jira => fields.jiraKeys
  let named := item.issueMarkers.filterMap Marker.issue?
  SortedMap.distinct <|
    (manifest.docstrings item).flatMap listed
      ++ (named.filter fun issue => issue.tracker = tracker).map Reference.id

/-- A test with the issues it refers to; an excluded test keeps only its guard. -/
def Manifest.collectItem (manifest : Manifest) (prefixes : List String) (item : TestItem) :
    Except Failure CollectedItem :=
  match item.failure? prefixes with
  | some failure => .error failure
  | none =>
    let guard := (item.closestMarker? guardMarker).bind Marker.issue?
    if item.isExcluded prefixes then
      .ok { nodeId := item.nodeId, location := item.location, guard := guard, excluded := true }
    else
      .ok
        { nodeId := item.nodeId
          location := item.location
          bugzillaMarks := manifest.itemMarks item .bugzilla
          jiraMarks := manifest.itemMarks item .jira
          guard := guard
          primary := item.issueMarkers.findSome? Marker.issue? }

/-! ## Collections -/

/-- The index of the issues that a manifest refers to, and its tests in order. -/
structure Collection where
  index : Index
  items : List CollectedItem

def Manifest.includedItems (manifest : Manifest) (prefixes : List String) : List TestItem :=
  manifest.items.filter fun item => !item.isExcluded prefixes

/-- The modules of the tests that are not excluded, in the order of their first use. -/
def Manifest.usedModules (manifest : Manifest) (prefixes : List String) : List TestModule :=
  ((manifest.includedItems prefixes).map TestItem.moduleName).eraseDups.filterMap manifest.module?

def addUsage (index : Index) (usage : Reference × Usage) : Index :=
  index.addUsage usage.1 usage.2

/-- Adds a use to an issue that the index does not hold. -/
def addNewUsage (index : Index) (usage : Reference × Usage) : Index :=
  if index.contains usage.1 then index else addUsage index usage

def Manifest.index (manifest : Manifest) (prefixes : List String) : Index :=
  let ofItems :=
    ((manifest.includedItems prefixes).flatMap manifest.itemUsages).foldl addUsage SortedMap.empty
  ((manifest.usedModules prefixes).flatMap TestModule.usages).foldl addNewUsage ofItems

/-- Collects the tests of a manifest; tests whose id starts with a prefix are excluded. -/
def Manifest.collect (manifest : Manifest) (prefixes : List String) :
    Except Failure Collection := do
  let items ← manifest.items.mapM (manifest.collectItem prefixes)
  return { index := manifest.index prefixes, items }

/-! ## Notices -/

/-- The notices on a test: one for each free text before its first malformed marker. -/
def TestItem.notices (item : TestItem) (prefixes : List String) : List Notice :=
  if item.isExcluded prefixes
      ∨ (item.closestMarker? guardMarker).any fun marker => marker.reading == .malformed then
    []
  else
    ((item.issueMarkers.takeWhile fun marker => marker.reading != .malformed).filter
        fun marker => marker.reading == .freeText).map
      fun marker => .freeTextReason item.nodeId marker.name

/-- The notices of a collection, up to the test at which it fails. -/
def Manifest.notices (manifest : Manifest) (prefixes : List String) : List Notice :=
  go manifest.items
where
  /-- The notices on these tests. -/
  go : List TestItem → List Notice
    | [] => []
    | item :: items =>
      item.notices prefixes ++ (if (item.failure? prefixes).isSome then [] else go items)

/-! ## Forms -/

def CollectedItem.toJson (item : CollectedItem) : Json :=
  .object [("node_id", .text item.nodeId), ("location", item.location.toJson),
    ("bz", Json.ofTexts item.bugzillaMarks), ("jr", Json.ofTexts item.jiraMarks),
    ("skip_if_open", Json.ofOption (fun issue => .text issue.toText) item.guard),
    ("primary", Json.ofOption (fun issue => .text issue.toText) item.primary),
    ("excluded", .bool item.excluded)]

end TestGate
