import Mathlib.Data.List.ReduceOption
import TestGate.Proofs.CollectedUses
import TestGate.Proofs.TextParts

/-!
What a collected test is marked with. Main statement: it is marked with the ids that the docstrings
above it list and with those that its markers name, and with no others. Its primary issue and the
one that guards it are used by the test itself, and a filter for one of them admits the test.
-/

namespace TestGate

open Issue Text

/-! ## Listed ids -/

theorem Docstring.isTrimmed_of_mem_lastList
    {name text part : String}
    (member : part ∈ lastList name text) :
    trim part = part ∧ part ≠ "" := by
  rw [lastList] at member
  cases values : (fieldValues name text).getLast? with
  | none => simp [values] at member
  | some value =>
    rw [values] at member
    obtain ⟨⟨nonempty, trimmed⟩, _⟩ := mem_listed member
    exact ⟨trimmed, nonempty⟩

/-- The name of the docstring field that lists the ids of a tracker. -/
def Docstring.listField : Tracker → String
  | .bugzilla => "bz"
  | .jira => "jr"

/-- Whether a test stands below a docstring: that of its module, of its class or of its function. -/
def Manifest.StandsBelow (manifest : Manifest) (test : TestItem) (text : String) : Prop :=
  (manifest.module? test.moduleName).bind TestModule.docstring = some text ∨
    test.classDocstring = some text ∨ test.functionDocstring = some text

/-- Whether a docstring above a test lists an id of a tracker. -/
def Manifest.Lists (manifest : Manifest) (test : TestItem) (issue : Reference) : Prop :=
  ∃ text, manifest.StandsBelow test text ∧
    issue.id ∈ Docstring.lastList (Docstring.listField issue.tracker) text

/-! ## Named issues -/

/-- Whether a marker that carries an issue names this one. -/
def Marker.Names (marker : Marker) (issue : Reference) : Prop :=
  marker.name ∈ issueMarkers ∧ marker.issueArgument?.bind Reference.parse? = some issue

/-- The issue that a marker names, if it is one that carries issues. -/
def Marker.named? (marker : Marker) : Option Reference :=
  if issueMarkers.contains marker.name then marker.issue? else none

theorem Marker.names_iff
    {marker : Marker} {issue : Reference} :
    marker.Names issue ↔ marker.named? = some issue := by
  rw [Names, named?, Marker.issue?_eq, ← List.contains_iff_mem]
  cases issueMarkers.contains marker.name <;> simp

theorem Marker.isProper_of_names
    {marker : Marker} {issue : Reference}
    (names : marker.Names issue) :
    issue.IsProper := by
  obtain ⟨argument, _, parsed⟩ := Option.bind_eq_some_iff.mp names.2
  exact Reference.isProper_of_parse? parsed

namespace TestItem

variable {test : TestItem} {issue : Reference}

/-- Whether one of the markers of a test names an issue. -/
def Names (test : TestItem) (issue : Reference) : Prop :=
  ∃ marker ∈ test.markers, marker.Names issue

theorem mem_named_iff :
    issue ∈ test.issueMarkers.filterMap Marker.issue? ↔ test.Names issue := by
  simp only [Names, issueMarkers, List.mem_filterMap, List.mem_filter, Marker.issue?_eq,
    Marker.Names, List.contains_iff_mem, and_assoc]

theorem findSome?_issueMarkers
    (test : TestItem) :
    test.issueMarkers.findSome? Marker.issue? = test.markers.findSome? Marker.named? := by
  rw [issueMarkers]
  induction test.markers with
  | nil => rfl
  | cons marker rest inductionHypothesis =>
    rw [List.filter_cons, List.findSome?_cons, Marker.named?]
    by_cases carries : TestGate.issueMarkers.contains marker.name = true
    · rw [if_pos carries, if_pos carries, List.findSome?_cons, inductionHypothesis]
    · rw [if_neg carries, if_neg carries, inductionHypothesis]

/-- The first marker that names an issue decides about the primary one. -/
theorem primary_iff :
    test.issueMarkers.findSome? Marker.issue? = some issue ↔
      ∃ closer marker farther, test.markers = closer ++ marker :: farther ∧ marker.Names issue ∧
        ∀ other ∈ closer, ∀ named, ¬ other.Names named := by
  simp only [findSome?_issueMarkers, List.findSome?_eq_some_iff, Marker.names_iff,
    Option.eq_none_iff_forall_ne_some, ne_eq]

theorem names_of_guard
    (guards : (test.closestMarker? guardMarker).bind Marker.issue? = some issue) :
    test.Names issue := by
  obtain ⟨marker, closest, named⟩ := Option.bind_eq_some_iff.mp guards
  have isGuard : marker.name = guardMarker := by
    simpa using List.find?_some closest
  have carries : guardMarker ∈ TestGate.issueMarkers := by decide
  exact ⟨marker, List.mem_of_find?_eq_some closest, isGuard ▸ carries, marker.issue?_eq ▸ named⟩

end TestItem

/-! ## Marks -/

namespace Manifest

variable {manifest : Manifest} {prefixes : List String} {test : TestItem} {issue : Reference}

theorem mem_docstrings_iff
    {fields : Docstring.Fields} :
    fields ∈ manifest.docstrings test ↔
      ∃ text, manifest.StandsBelow test text ∧ Docstring.fields text = fields := by
  have isText : ∀ text,
      text ∈ [(manifest.module? test.moduleName).bind TestModule.docstring, test.classDocstring,
          test.functionDocstring].reduceOption ↔
        manifest.StandsBelow test text := by
    intro text
    simp only [List.reduceOption_mem_iff, List.mem_cons, List.not_mem_nil, or_false, StandsBelow,
      @eq_comm _ (some text)]
  simp only [docstrings, List.mem_map, isText]

theorem mem_itemMarks_iff :
    issue.id ∈ manifest.itemMarks test issue.tracker ↔
      manifest.Lists test issue ∨ test.Names issue := by
  obtain ⟨tracker, id⟩ := issue
  rw [itemMarks, SortedMap.mem_distinct, List.mem_append]
  apply or_congr
  · rw [List.mem_flatMap, Lists]
    constructor
    · rintro ⟨fields, isAbove, member⟩
      obtain ⟨text, below, rfl⟩ := mem_docstrings_iff.mp isAbove
      refine ⟨text, below, ?_⟩
      cases tracker <;> exact member
    · rintro ⟨text, below, member⟩
      refine ⟨Docstring.fields text, mem_docstrings_iff.mpr ⟨text, below, rfl⟩, ?_⟩
      cases tracker <;> exact member
  · rw [← TestItem.mem_named_iff, List.mem_map]
    constructor
    · rintro ⟨⟨otherTracker, _⟩, member, rfl⟩
      obtain ⟨isNamed, sameTracker⟩ := List.mem_filter.mp member
      obtain rfl : otherTracker = tracker := of_decide_eq_true sameTracker
      exact isNamed
    · exact fun isNamed => ⟨⟨tracker, id⟩, List.mem_filter.mpr ⟨isNamed, by simp⟩, rfl⟩

theorem isProper_of_lists
    (lists : manifest.Lists test issue) :
    issue.IsProper := by
  obtain ⟨text, _, member⟩ := lists
  exact Docstring.isTrimmed_of_mem_lastList member

theorem isProper_of_mem_itemMarks
    (member : issue.id ∈ manifest.itemMarks test issue.tracker) :
    issue.IsProper := by
  rcases mem_itemMarks_iff.mp member with lists | ⟨marker, _, names⟩
  · exact isProper_of_lists lists
  · exact marker.isProper_of_names names

/-! ## Uses -/

/-- The use that a marker of a test makes of the issue that it names. -/
def markerUse (manifest : Manifest) (test : TestItem) (marker : Marker) : Usage :=
  Usage.make test.location (manifest.component? test) (manifest.importance? test) marker.name

theorem mem_uses
    {marker : Marker}
    (included : test ∈ manifest.includedItems prefixes) (member : marker ∈ test.markers)
    (names : marker.Names issue) :
    manifest.markerUse test marker ∈ manifest.uses prefixes issue := by
  refine List.mem_flatMap.mpr ⟨test, included, List.mem_append_left _ ?_⟩
  refine List.mem_map.mpr ⟨marker, List.mem_filter.mpr ⟨?_, by simpa using names.2⟩, rfl⟩
  exact List.mem_filter.mpr ⟨member, List.contains_iff_mem.mpr names.1⟩

/-- An issue that a marker names is in the index, with the use by the marker. -/
theorem used_of_names
    {marker : Marker}
    (included : test ∈ manifest.includedItems prefixes) (member : marker ∈ test.markers)
    (names : marker.Names issue) :
    ∃ entry, (manifest.index prefixes).find? issue = some entry ∧
      manifest.markerUse test marker ∈ entry.usedIn := by
  have use := manifest.mem_uses included member names
  refine ⟨{ usedIn := manifest.uses prefixes issue }, ?_, use⟩
  rw [find?_index, if_neg (List.ne_nil_of_mem use)]

end Manifest

/-! ## Filters -/

/-- The filters that ask for one issue and leave the other tracker alone. -/
def Filters.only (issue : Reference) : Filters :=
  match issue.tracker with
  | .bugzilla => .make (some [issue.id]) none
  | .jira => .make none (some [issue.id])

theorem Filters.clean_singleton
    {id : String}
    (trimmed : trim id = id) (nonempty : id ≠ "") :
    clean [id] = some [id] := by
  have kept : ([id].map trim).filter (· != "") = [id] := by simp [trimmed, nonempty]
  rw [clean, kept]
  rfl

theorem Filters.admits_only
    {issue : Reference} {item : CollectedItem}
    (proper : issue.IsProper) (marked : issue.id ∈ item.marks issue.tracker) :
    (only issue).admits item = true := by
  obtain ⟨trimmed, nonempty⟩ := proper
  have cleaned := clean_singleton trimmed nonempty
  rw [only]
  cases tracker : issue.tracker <;>
    simpa [admits, Tracker.all, make, ids?, cleaned, tracker] using marked

/-! ## Collected tests -/

theorem Manifest.fields_of_collectItem
    {manifest : Manifest} {prefixes : List String} {test : TestItem} {item : CollectedItem}
    (collected : manifest.collectItem prefixes test = .ok item)
    (included : test.isExcluded prefixes = false) :
    (∀ tracker, item.marks tracker = manifest.itemMarks test tracker) ∧
      item.primary = test.issueMarkers.findSome? Marker.issue? ∧
        item.guard = (test.closestMarker? guardMarker).bind Marker.issue? := by
  rw [collectItem] at collected
  split at collected
  · cases collected
  · rw [included] at collected
    cases collected
    exact ⟨fun tracker => by cases tracker <;> rfl, rfl, rfl⟩

/-- What a collected test is marked with, and what it depends on. -/
structure Manifest.IsMarked
    (manifest : Manifest) (index : Index) (test : TestItem) (item : CollectedItem) : Prop where
  marks : ∀ tracker id, id ∈ item.marks tracker ↔
    manifest.Lists test ⟨tracker, id⟩ ∨ test.Names ⟨tracker, id⟩
  trimmed : ∀ tracker, ∀ id ∈ item.marks tracker, trim id = id ∧ id ≠ ""
  /-- The primary issue is the one that the first marker names. -/
  primary : ∀ issue, item.primary = some issue ↔
    ∃ closer marker farther, test.markers = closer ++ marker :: farther ∧ marker.Names issue ∧
      ∀ other ∈ closer, ∀ named, ¬ other.Names named
  used : ∀ issue, item.primary = some issue ∨ item.guard = some issue →
    ∃ marker ∈ test.markers, marker.Names issue ∧
      ∃ entry, index.find? issue = some entry ∧ manifest.markerUse test marker ∈ entry.usedIn
  admitted : ∀ issue, item.primary = some issue ∨ item.guard = some issue →
    (Filters.only issue).admits item = true

theorem Manifest.isMarked_of_collectItem
    {manifest : Manifest} {prefixes : List String} {test : TestItem} {item : CollectedItem}
    (collected : manifest.collectItem prefixes test = .ok item)
    (included : test ∈ manifest.includedItems prefixes) :
    manifest.IsMarked (manifest.index prefixes) test item := by
  have notExcluded : test.isExcluded prefixes = false := by
    simpa using (List.mem_filter.mp included).2
  obtain ⟨sameMarks, samePrimary, sameGuard⟩ := fields_of_collectItem collected notExcluded
  have named : ∀ issue, item.primary = some issue ∨ item.guard = some issue → test.Names issue := by
    rintro issue (isPrimary | isGuard)
    · rw [samePrimary, TestItem.primary_iff] at isPrimary
      obtain ⟨closer, marker, farther, markers, names, _⟩ := isPrimary
      exact ⟨marker, by simp [markers], names⟩
    · rw [sameGuard] at isGuard
      exact TestItem.names_of_guard isGuard
  have marked : ∀ issue : Reference, issue.id ∈ item.marks issue.tracker ↔
      manifest.Lists test issue ∨ test.Names issue := by
    intro issue
    rw [sameMarks, mem_itemMarks_iff]
  have proper : ∀ issue : Reference, issue.id ∈ item.marks issue.tracker → issue.IsProper := by
    intro issue member
    rw [sameMarks] at member
    exact isProper_of_mem_itemMarks member
  constructor
  · exact fun tracker id => marked ⟨tracker, id⟩
  · exact fun tracker id => proper ⟨tracker, id⟩
  · intro issue
    rw [samePrimary, TestItem.primary_iff]
  · intro issue depends
    obtain ⟨marker, member, names⟩ := named issue depends
    exact ⟨marker, member, names, used_of_names included member names⟩
  · intro issue depends
    have isMark := (marked issue).mpr (Or.inr (named issue depends))
    exact Filters.admits_only (proper issue isMark) isMark

/-- Where a manifest is collected, each test that is not excluded is marked with what the docstrings
above it list and what its markers name; guards in its source add nothing. -/
theorem collected_marks_exact
    {manifest : Manifest} {prefixes : List String} {collection : Collection}
    (collected : manifest.collect prefixes = .ok collection) :
    List.Forall₂
      (fun test item =>
        test.isExcluded prefixes = false → manifest.IsMarked collection.index test item)
      manifest.items collection.items := by
  obtain ⟨items, itemsCollected, made⟩ := Results.bind_eq_ok_iff.mp collected
  cases made
  -- the index holds the uses by the tests of the manifest, so each test must be known as one of them
  have inManifest := (List.forall₂_and_left _ _).mpr
    ⟨fun test (member : test ∈ manifest.items) => member, Results.mapM_eq_ok_iff.mp itemsCollected⟩
  refine inManifest.imp fun test item ⟨member, itemCollected⟩ notExcluded => ?_
  refine Manifest.isMarked_of_collectItem itemCollected (List.mem_filter.mpr ⟨member, ?_⟩)
  simp [notExcluded]

/-- A test that is marked by two docstrings and by two of its three markers. The guard in its source
does not count. -/
def markedTest : TestItem where
  nodeId := "a"
  moduleName := "m"
  location := ⟨"m.py", 9, "a"⟩
  classDocstring := some ":BZ: 9,"
  markers :=
    [{ name := "deselect", args := ["flaky"] }, { name := "skip", args := ["JR:B-2"] },
     { name := "skip_if_open", args := [" bz : 7 "] }]
  source := "if is_open('BZ:8'):"

def markedModule : Manifest where
  modules := [{ name := "m", path := "m.py", docstring := some "  :BZ: 5, ,6\n:JR: A-1" }]
  items := [markedTest]

theorem collected_marks_exact_markedModule :
    let item : CollectedItem :=
      { nodeId := "a", location := ⟨"m.py", 9, "a"⟩, bugzillaMarks := ["5", "6", "7", "9"]
        jiraMarks := ["A-1", "B-2"], guard := some ⟨.bugzilla, "7"⟩, primary := some ⟨.jira, "B-2"⟩ }
    ∃ collection, markedModule.collect [] = .ok collection ∧ collection.items = [item] ∧
      markedModule.IsMarked collection.index markedTest item := by
  intro item
  have items : (markedModule.collect []).toOption.map Collection.items = some [item] := by
    decide +kernel
  obtain ⟨collection, isCollected, items⟩ := Option.map_eq_some_iff.mp items
  have collected := Results.toOption_eq_some_iff.mp isCollected
  have marked := collected_marks_exact collected
  rw [items] at marked
  refine ⟨collection, collected, items, ?_⟩
  cases marked with
  | cons first _ => exact first rfl

end TestGate
