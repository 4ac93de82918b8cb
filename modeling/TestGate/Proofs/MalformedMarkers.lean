import TestGate.Proofs.ExcludedTests

/-!
Why a collection fails. Main statement: it fails exactly if some test has a malformed marker that it
must not have, and then with the failure of the first such test. Reasons in words, which may be
given for skipping or deselecting a test, change nothing.
-/

namespace TestGate

open Issue Text

/-! ## What markers say -/

namespace Marker

/-- The text in which a marker may name an issue: the keyword `reason`, else the first argument. -/
def reason? (marker : Marker) : Option String :=
  (marker.kwargs.find? "reason").or marker.args.head?

/-- Whether a marker has no such text, or a blank one. -/
def LacksReason (marker : Marker) : Prop :=
  ∀ text, marker.reason? = some text → trim text = ""

/-- Whether a marker has such a text that is not blank and names no issue. -/
def IsFreeText (marker : Marker) : Prop :=
  ∃ text, marker.reason? = some text ∧ trim text ≠ "" ∧ Reference.parse? (trim text) = none

/-- Whether a marker that carries an issue does not name one as it must: it says nothing, or it
guards the test and gives a reason in words. -/
def IsMalformed (marker : Marker) : Prop :=
  marker.name ∈ issueMarkers ∧
    (marker.LacksReason ∨ marker.name = guardMarker ∧ marker.IsFreeText)

variable {marker : Marker}

theorem issueArgument?_eq
    (marker : Marker) :
    marker.issueArgument? = marker.reason?.bind fun text =>
      if trim text = "" then none else some (trim text) := by
  rw [issueArgument?, reason?]
  cases (marker.kwargs.find? "reason").or marker.args.head? with
  | none => rfl
  | some text =>
    by_cases blank : trim text = ""
    · simp [blank]
    · simp [blank]

theorem issueArgument?_eq_none_iff :
    marker.issueArgument? = none ↔ marker.LacksReason := by
  rw [issueArgument?_eq, LacksReason]
  cases marker.reason? with
  | none => simp
  | some text => simp

theorem isFreeText_iff :
    marker.IsFreeText ↔
      ∃ argument, marker.issueArgument? = some argument ∧ Reference.parse? argument = none := by
  rw [issueArgument?_eq, IsFreeText]
  cases marker.reason? with
  | none => simp
  | some text => simp [and_assoc]

theorem reading_eq_malformed_iff :
    marker.reading = .malformed ↔
      marker.LacksReason ∨ marker.name = guardMarker ∧ marker.IsFreeText := by
  rw [← issueArgument?_eq_none_iff, isFreeText_iff, reading]
  cases marker.issueArgument? with
  | none => simp
  | some argument =>
    cases named : Reference.parse? argument with
    | some issue => simp [named]
    | none =>
      by_cases guards : marker.name = guardMarker
      · simp [named, guards]
      · simp [named, guards]

theorem isMalformed_iff :
    marker.IsMalformed ↔ marker.name ∈ issueMarkers ∧ marker.reading = .malformed := by
  rw [IsMalformed, reading_eq_malformed_iff]

instance : Decidable marker.IsMalformed :=
  decidable_of_iff _ isMalformed_iff.symm

end Marker

/-! ## What tests are rejected for -/

namespace TestItem

/-- Whether a test must not be collected as it is. -/
inductive IsFaulty (prefixes : List String) (test : TestItem) : Prop where
  /-- Its guarding marker names no issue; this counts for excluded tests, too. -/
  | guard {marker : Marker} (closest : test.closestMarker? guardMarker = some marker)
      (unnamed : marker.LacksReason ∨ marker.IsFreeText)
  /-- It is not excluded, and a marker that carries an issue says nothing. -/
  | silent {marker : Marker} (included : test.isExcluded prefixes = false)
      (member : marker ∈ test.markers) (carries : marker.name ∈ TestGate.issueMarkers)
      (lacks : marker.LacksReason)
  /-- It is not excluded, and a guarding marker gives a reason in words. -/
  | freeText {marker : Marker} (included : test.isExcluded prefixes = false)
      (member : marker ∈ test.markers) (guards : marker.name = guardMarker)
      (words : marker.IsFreeText)

/-- Whether this is the marker that a faulty test is rejected for: its guarding marker if that is
malformed, else the closest malformed one. -/
def Blames (test : TestItem) (marker : Marker) : Prop :=
  marker.IsMalformed ∧
    (test.closestMarker? guardMarker = some marker ∨
      (∀ guard, test.closestMarker? guardMarker = some guard → ¬ guard.IsMalformed) ∧
        ∃ closer farther, test.markers = closer ++ marker :: farther ∧
          ∀ other ∈ closer, ¬ other.IsMalformed)

variable {test : TestItem} {prefixes : List String} {marker : Marker} {failure : Failure}

theorem name_of_closest
    (closest : test.closestMarker? guardMarker = some marker) :
    marker.name = guardMarker := by
  simpa using List.find?_some closest

theorem carries_guard : guardMarker ∈ TestGate.issueMarkers := by
  decide

theorem isFaulty_iff :
    test.IsFaulty prefixes ↔
      (∃ guard, test.closestMarker? guardMarker = some guard ∧ guard.IsMalformed) ∨
        test.isExcluded prefixes = false ∧ ∃ marker ∈ test.markers, marker.IsMalformed := by
  constructor
  · intro faulty
    cases faulty with
    | @guard marker closest unnamed =>
      have guards := name_of_closest closest
      exact Or.inl ⟨marker, closest, guards ▸ carries_guard, unnamed.imp_right fun words =>
        ⟨guards, words⟩⟩
    | @silent marker included member carries lacks =>
      exact Or.inr ⟨included, marker, member, carries, Or.inl lacks⟩
    | @freeText marker included member guards words =>
      exact Or.inr ⟨included, marker, member, guards ▸ carries_guard, Or.inr ⟨guards, words⟩⟩
  · rintro (⟨guard, closest, _, unnamed⟩ | ⟨included, marker, member, carries, unnamed⟩)
    · exact .guard closest (unnamed.imp_right And.right)
    · rcases unnamed with lacks | ⟨guards, words⟩
      · exact .silent included member carries lacks
      · exact .freeText included member guards words

/-! ## The failure of a test -/

theorem failure?_of_guard
    (closest : test.closestMarker? guardMarker = some marker) (malformed : marker.IsMalformed) :
    test.failure? prefixes = some (.malformedMarker test.nodeId marker.name) := by
  have isRead := (Marker.isMalformed_iff.mp malformed).2
  rw [failure?, requiredMarkers, closest]
  simp [isRead]

/-- If the guarding marker names an issue, the closest malformed one is blamed, except for excluded
tests. -/
theorem failure?_of_sound_guard
    (sound : ∀ guard, test.closestMarker? guardMarker = some guard → ¬ guard.IsMalformed) :
    test.failure? prefixes =
      if test.isExcluded prefixes then
        none
      else
        (test.markers.find? fun marker => decide marker.IsMalformed).map fun marker =>
          .malformedMarker test.nodeId marker.name := by
  have passesGuard :
      ((test.closestMarker? guardMarker).toList.find? fun marker =>
        marker.reading == .malformed) = none := by
    cases closest : test.closestMarker? guardMarker with
    | none => rfl
    | some guard =>
      have isRead := mt (fun read => Marker.isMalformed_iff.mpr
        ⟨name_of_closest closest ▸ carries_guard, read⟩) (sound guard closest)
      simpa using isRead
  have ofIssueMarkers :
      (test.issueMarkers.find? fun marker => marker.reading == .malformed) =
        test.markers.find? fun marker => decide marker.IsMalformed := by
    rw [issueMarkers, List.find?_filter]
    congr 1
    funext marker
    rw [decide_eq_decide, Marker.isMalformed_iff, List.contains_iff_mem, beq_iff_eq]
  rw [failure?, requiredMarkers, List.find?_append, passesGuard, Option.none_or]
  by_cases excluded : test.isExcluded prefixes = true
  · rw [if_pos excluded, if_pos excluded]
    rfl
  · rw [if_neg excluded, if_neg excluded, ofIssueMarkers]

/-- If the guarding marker names an issue, the closest malformed one is blamed. -/
theorem blames_iff_of_sound_guard
    (sound : ∀ guard, test.closestMarker? guardMarker = some guard → ¬ guard.IsMalformed) :
    test.Blames marker ↔
      (test.markers.find? fun marker => decide marker.IsMalformed) = some marker := by
  simp only [Blames, List.find?_eq_some_iff_append, decide_eq_true_iff, Bool.not_eq_true',
    decide_eq_false_iff_not]
  refine and_congr_right fun malformed => ?_
  rw [or_iff_right fun isGuard => sound marker isGuard malformed, and_iff_right sound]

theorem exists_blamed
    (faulty : test.IsFaulty prefixes) :
    ∃ marker, test.Blames marker := by
  by_cases broken : ∃ guard, test.closestMarker? guardMarker = some guard ∧ guard.IsMalformed
  · obtain ⟨guard, closest, malformed⟩ := broken
    exact ⟨guard, malformed, Or.inl closest⟩
  · obtain ⟨_, marker, member, malformed⟩ := (isFaulty_iff.mp faulty).resolve_left broken
    have present :
        (test.markers.find? fun marker => decide marker.IsMalformed).isSome = true :=
      List.find?_isSome.mpr ⟨marker, member, decide_eq_true malformed⟩
    obtain ⟨first, isFirst⟩ := Option.isSome_iff_exists.mp present
    have sound : ∀ guard, test.closestMarker? guardMarker = some guard → ¬ guard.IsMalformed :=
      fun guard closest malformed => broken ⟨guard, closest, malformed⟩
    exact ⟨first, (blames_iff_of_sound_guard sound).mpr isFirst⟩

/-- A test fails exactly if it is faulty, with the marker that is to blame. -/
theorem failure?_eq_some_iff :
    test.failure? prefixes = some failure ↔
      test.IsFaulty prefixes ∧
        ∃ marker, test.Blames marker ∧ failure = .malformedMarker test.nodeId marker.name := by
  by_cases broken : ∃ guard, test.closestMarker? guardMarker = some guard ∧ guard.IsMalformed
  · obtain ⟨guard, closest, malformed⟩ := broken
    rw [failure?_of_guard closest malformed, isFaulty_iff]
    constructor
    · rintro ⟨⟩
      exact ⟨Or.inl ⟨guard, closest, malformed⟩, guard, ⟨malformed, Or.inl closest⟩, rfl⟩
    · rintro ⟨_, marker, ⟨_, isGuard | ⟨sound, _⟩⟩, rfl⟩
      · cases closest.symm.trans isGuard
        rfl
      · exact absurd malformed (sound guard closest)
  · have sound : ∀ guard, test.closestMarker? guardMarker = some guard → ¬ guard.IsMalformed :=
      fun guard closest malformed => broken ⟨guard, closest, malformed⟩
    rw [failure?_of_sound_guard sound, isFaulty_iff, or_iff_right broken]
    simp only [blames_iff_of_sound_guard sound]
    cases excluded : test.isExcluded prefixes with
    | true => simp
    | false =>
      simp only [Bool.false_eq_true, if_false, true_and, Option.map_eq_some_iff]
      constructor
      · rintro ⟨marker, first, rfl⟩
        have malformed := List.find?_some first
        simp only [decide_eq_true_eq] at malformed
        exact ⟨⟨marker, List.mem_of_find?_eq_some first, malformed⟩, marker, first, rfl⟩
      · rintro ⟨_, marker, first, rfl⟩
        exact ⟨marker, first, rfl⟩

theorem failure?_eq_none_iff :
    test.failure? prefixes = none ↔ ¬ test.IsFaulty prefixes := by
  rw [Option.eq_none_iff_forall_ne_some]
  constructor
  · intro passes faulty
    obtain ⟨marker, blamed⟩ := exists_blamed faulty
    exact passes _ (failure?_eq_some_iff.mpr ⟨faulty, marker, blamed, rfl⟩)
  · exact fun sound failure failed => sound (failure?_eq_some_iff.mp failed).1

end TestItem

namespace Manifest

variable {manifest : Manifest} {prefixes : List String} {test : TestItem} {failure : Failure}

theorem collectItem_eq_error_iff :
    manifest.collectItem prefixes test = .error failure ↔
      test.failure? prefixes = some failure := by
  rw [collectItem]
  cases test.failure? prefixes with
  | some other => simp
  | none =>
    simp only [reduceCtorEq, iff_false]
    split <;> simp

theorem exists_collectItem_eq_ok_iff :
    (∃ item, manifest.collectItem prefixes test = .ok item) ↔ ¬ test.IsFaulty prefixes := by
  rw [← TestItem.failure?_eq_none_iff, Option.eq_none_iff_forall_ne_some]
  simp only [ne_eq, ← @collectItem_eq_error_iff manifest]
  cases manifest.collectItem prefixes test with
  | error failure => simp
  | ok item => simp

/-- A collection fails for its first faulty test. -/
theorem collect_eq_error_iff :
    manifest.collect prefixes = .error failure ↔
      ∃ before test after, manifest.items = before ++ test :: after ∧
        (∀ earlier ∈ before, ¬ earlier.IsFaulty prefixes) ∧ test.IsFaulty prefixes ∧
        ∃ marker, test.Blames marker ∧ failure = .malformedMarker test.nodeId marker.name := by
  have ofItems : manifest.collect prefixes = .error failure ↔
      manifest.items.mapM (manifest.collectItem prefixes) = .error failure :=
    Results.map_eq_error_iff
  simp only [ofItems, Results.mapM_eq_error_iff, exists_collectItem_eq_ok_iff,
    collectItem_eq_error_iff, TestItem.failure?_eq_some_iff]

theorem exists_collect_eq_error_iff :
    (∃ failure, manifest.collect prefixes = .error failure) ↔
      ∃ test ∈ manifest.items, test.IsFaulty prefixes := by
  constructor
  · rintro ⟨failure, failed⟩
    obtain ⟨before, test, after, items, _, faulty, _⟩ := collect_eq_error_iff.mp failed
    exact ⟨test, by simp [items], faulty⟩
  · rintro ⟨test, member, faulty⟩
    cases collected : manifest.collect prefixes with
    | error failure => exact ⟨failure, rfl⟩
    | ok collection =>
      obtain ⟨items, itemsCollected, _⟩ := Results.bind_eq_ok_iff.mp collected
      obtain ⟨item, _, itemCollected⟩ := Results.ok_of_mapM_eq_ok itemsCollected member
      exact absurd faulty (exists_collectItem_eq_ok_iff.mp ⟨item, itemCollected⟩)

end Manifest

/-! ## Reasons in words -/

/-- Whether a marker only gives a reason in words for skipping or deselecting a test. -/
def Marker.IsReason (marker : Marker) : Prop :=
  (marker.name = "skip" ∨ marker.name = "deselect") ∧ marker.IsFreeText

namespace Marker

/-- Whether one list of markers is another with reasons in words added anywhere. -/
inductive ReasonsAdded : List Marker → List Marker → Prop where
  | nil : ReasonsAdded [] []
  | keep (marker : Marker) {markers others : List Marker} :
      ReasonsAdded markers others → ReasonsAdded (marker :: markers) (marker :: others)
  | add {reason : Marker} {markers others : List Marker} :
      reason.IsReason → ReasonsAdded markers others → ReasonsAdded markers (reason :: others)

variable {markers others : List Marker}

/-- What reasons contribute nothing to is not changed by them. -/
theorem ReasonsAdded.filterMap_eq
    {α : Type} {select : Marker → Option α}
    (added : ReasonsAdded markers others)
    (silent : ∀ reason : Marker, reason.IsReason → select reason = none) :
    others.filterMap select = markers.filterMap select := by
  induction added with
  | nil => rfl
  | keep marker _ inductionHypothesis =>
    rw [List.filterMap_cons, List.filterMap_cons, inductionHypothesis]
  | add isReason _ inductionHypothesis =>
    rw [List.filterMap_cons_none (silent _ isReason), inductionHypothesis]

theorem ReasonsAdded.findSome?_eq
    {α : Type} {select : Marker → Option α}
    (added : ReasonsAdded markers others)
    (silent : ∀ reason : Marker, reason.IsReason → select reason = none) :
    others.findSome? select = markers.findSome? select := by
  rw [← List.head?_filterMap, ← List.head?_filterMap, added.filterMap_eq silent]

theorem ReasonsAdded.find?_eq
    {holds : Marker → Bool}
    (added : ReasonsAdded markers others)
    (silent : ∀ reason : Marker, reason.IsReason → holds reason = false) :
    others.find? holds = markers.find? holds := by
  rw [← List.findSome?_guard, ← List.findSome?_guard]
  exact added.findSome?_eq fun reason isReason => by simp [Option.guard, silent reason isReason]

theorem issue?_of_isReason
    {reason : Marker}
    (isReason : reason.IsReason) :
    reason.issue? = none := by
  obtain ⟨argument, isArgument, unnamed⟩ := isFreeText_iff.mp isReason.2
  rw [issue?_eq, isArgument, Option.bind_some, unnamed]

theorem reading_ne_malformed_of_isReason
    {reason : Marker}
    (isReason : reason.IsReason) :
    reason.reading ≠ .malformed := by
  intro malformed
  obtain ⟨kind, text, isText, notBlank, _⟩ := isReason
  rcases reading_eq_malformed_iff.mp malformed with lacks | ⟨guards, _⟩
  · exact notBlank (lacks text isText)
  · rw [guards] at kind
    revert kind
    decide

theorem name_ne_of_isReason
    {reason : Marker} {name : String}
    (isReason : reason.IsReason) (notSkip : name ≠ "skip") (notDeselect : name ≠ "deselect") :
    reason.name ≠ name := by
  rintro rfl
  rcases isReason.1 with isSkip | isDeselect
  · exact notSkip isSkip
  · exact notDeselect isDeselect

end Marker

/-- Whether a test is another with reasons in words added to its markers. -/
structure TestItem.ReasonsAdded (test other : TestItem) : Prop where
  fields : other = { test with markers := other.markers }
  markers : Marker.ReasonsAdded test.markers other.markers

namespace TestItem.ReasonsAdded

variable {test other : TestItem}

theorem closestMarker?_eq
    {name : String}
    (added : test.ReasonsAdded other) (notSkip : name ≠ "skip") (notDeselect : name ≠ "deselect") :
    other.closestMarker? name = test.closestMarker? name :=
  added.markers.find?_eq fun _ isReason =>
    beq_eq_false_iff_ne.mpr (Marker.name_ne_of_isReason isReason notSkip notDeselect)

theorem filterMap_issueMarkers_eq
    {α : Type} {select : Marker → Option α}
    (added : test.ReasonsAdded other)
    (silent : ∀ reason : Marker, reason.IsReason → select reason = none) :
    other.issueMarkers.filterMap select = test.issueMarkers.filterMap select := by
  rw [issueMarkers, issueMarkers, List.filterMap_filter, List.filterMap_filter]
  exact added.markers.filterMap_eq fun reason isReason => by simp [silent reason isReason]

theorem isExcluded_eq
    (added : test.ReasonsAdded other) (prefixes : List String) :
    other.isExcluded prefixes = test.isExcluded prefixes := by
  rw [added.fields]
  rfl

theorem failure?_eq
    (added : test.ReasonsAdded other) (prefixes : List String) :
    other.failure? prefixes = test.failure? prefixes := by
  have sameRequired :
      ((other.requiredMarkers prefixes).find? fun marker => marker.reading == .malformed) =
        (test.requiredMarkers prefixes).find? fun marker => marker.reading == .malformed := by
    rw [requiredMarkers, requiredMarkers, added.isExcluded_eq,
      added.closestMarker?_eq (by decide) (by decide), List.find?_append, List.find?_append]
    congr 1
    cases test.isExcluded prefixes with
    | true => rfl
    | false =>
      simp only [issueMarkers, Bool.false_eq_true, if_false, List.find?_filter]
      refine added.markers.find?_eq fun reason isReason => ?_
      simp [Marker.reading_ne_malformed_of_isReason isReason]
  rw [failure?, failure?, sameRequired, added.fields]

end TestItem.ReasonsAdded

/-- Whether a manifest is another with reasons in words added to the markers of its tests. -/
structure Manifest.ReasonsAdded (manifest other : Manifest) : Prop where
  modules : other.modules = manifest.modules
  items : List.Forall₂ TestItem.ReasonsAdded manifest.items other.items

namespace Manifest.ReasonsAdded

variable {manifest other : Manifest} {test changed : TestItem}

theorem module?_eq
    (added : manifest.ReasonsAdded other) :
    other.module? = manifest.module? := by
  funext name
  rw [module?, module?, added.modules]

theorem docstrings_eq
    (added : manifest.ReasonsAdded other) (addedHere : test.ReasonsAdded changed) :
    other.docstrings changed = manifest.docstrings test := by
  rw [docstrings, docstrings, added.module?_eq, addedHere.fields]

theorem itemMarks_eq
    (added : manifest.ReasonsAdded other) (addedHere : test.ReasonsAdded changed)
    (tracker : Tracker) :
    other.itemMarks changed tracker = manifest.itemMarks test tracker := by
  rw [itemMarks, itemMarks, added.docstrings_eq addedHere,
    addedHere.filterMap_issueMarkers_eq fun _ => Marker.issue?_of_isReason]

theorem itemUsages_eq
    (added : manifest.ReasonsAdded other) (addedHere : test.ReasonsAdded changed) :
    other.itemUsages changed = manifest.itemUsages test := by
  have sameArgument : ∀ name, name ≠ "skip" → name ≠ "deselect" →
      changed.markerArgument? name = test.markerArgument? name := by
    intro name notSkip notDeselect
    rw [TestItem.markerArgument?, addedHere.closestMarker?_eq notSkip notDeselect,
      TestItem.markerArgument?]
  have sameComponent : other.component? changed = manifest.component? test := by
    rw [component?, component?, sameArgument "component" (by decide) (by decide),
      added.docstrings_eq addedHere]
  have sameImportance : other.importance? changed = manifest.importance? test := by
    rw [importance?, importance?, sameArgument "importance" (by decide) (by decide),
      added.docstrings_eq addedHere]
  rw [itemUsages, itemUsages, sameComponent, sameImportance,
    addedHere.filterMap_issueMarkers_eq fun reason isReason => by
      rw [Marker.issue?_of_isReason isReason, Option.map_none], addedHere.fields]

theorem collectItem_eq
    (added : manifest.ReasonsAdded other) (addedHere : test.ReasonsAdded changed)
    (prefixes : List String) :
    other.collectItem prefixes changed = manifest.collectItem prefixes test := by
  have samePrimary :
      changed.issueMarkers.findSome? Marker.issue? = test.issueMarkers.findSome? Marker.issue? := by
    rw [← List.head?_filterMap, ← List.head?_filterMap,
      addedHere.filterMap_issueMarkers_eq fun _ => Marker.issue?_of_isReason]
  rw [collectItem, collectItem, addedHere.failure?_eq, addedHere.isExcluded_eq, samePrimary,
    addedHere.closestMarker?_eq (by decide) (by decide), added.itemMarks_eq addedHere,
    added.itemMarks_eq addedHere, addedHere.fields]

/-- What is made of each test alike makes the same list. -/
theorem map_eq
    {α : Type} {tests others : List TestItem} {make remake : TestItem → α}
    (added : List.Forall₂ TestItem.ReasonsAdded tests others)
    (alike : ∀ test changed, TestItem.ReasonsAdded test changed → make test = remake changed) :
    others.map remake = tests.map make := by
  have same := List.rel_map (P := Eq) (fun {test changed} => alike test changed) added
  rw [List.forall₂_eq_eq_eq] at same
  exact same.symm

theorem index_eq
    (added : manifest.ReasonsAdded other) (prefixes : List String) :
    other.index prefixes = manifest.index prefixes := by
  have included : List.Forall₂ TestItem.ReasonsAdded (manifest.includedItems prefixes)
      (other.includedItems prefixes) := by
    refine List.rel_filter (fun test changed addedHere => ?_) added.items
    simp only [addedHere.isExcluded_eq]
  have sameUsages : (other.includedItems prefixes).map other.itemUsages =
      (manifest.includedItems prefixes).map manifest.itemUsages :=
    map_eq included fun _ _ addedHere => (added.itemUsages_eq addedHere).symm
  have sameModules : (other.includedItems prefixes).map TestItem.moduleName =
      (manifest.includedItems prefixes).map TestItem.moduleName :=
    map_eq included fun _ _ addedHere => by rw [addedHere.fields]
  rw [index, index, usedModules, usedModules, List.flatMap_def (f := other.itemUsages),
    List.flatMap_def (f := manifest.itemUsages), sameUsages, sameModules, added.module?_eq]

theorem collect_eq
    (added : manifest.ReasonsAdded other) (prefixes : List String) :
    other.collect prefixes = manifest.collect prefixes := by
  have sameItems : other.items.map (other.collectItem prefixes) =
      manifest.items.map (manifest.collectItem prefixes) :=
    map_eq added.items fun _ _ addedHere => (added.collectItem_eq addedHere prefixes).symm
  have asMap : ∀ each : Manifest, each.items.mapM (each.collectItem prefixes) =
      (each.items.map (each.collectItem prefixes)).mapM id := by
    intro each
    rw [List.mapM_map]
    rfl
  rw [collect, collect, asMap, asMap, sameItems, added.index_eq]

end Manifest.ReasonsAdded

/-- A collection fails exactly if some test is faulty, and then its failure names the first faulty
test and the marker that is to blame. Reasons in words that are added for skipping or deselecting
tests change neither a failure nor what is collected. -/
theorem collect_fails_iff_malformed
    (manifest : Manifest) (prefixes : List String) :
    ((∃ failure, manifest.collect prefixes = .error failure) ↔
      ∃ test ∈ manifest.items, test.IsFaulty prefixes) ∧
    (∀ failure, manifest.collect prefixes = .error failure ↔
      ∃ before test after, manifest.items = before ++ test :: after ∧
        (∀ earlier ∈ before, ¬ earlier.IsFaulty prefixes) ∧ test.IsFaulty prefixes ∧
        ∃ marker, test.Blames marker ∧ failure = .malformedMarker test.nodeId marker.name) ∧
    ∀ other, manifest.ReasonsAdded other → other.collect prefixes = manifest.collect prefixes :=
  ⟨Manifest.exists_collect_eq_error_iff, fun _ => Manifest.collect_eq_error_iff,
    fun _ added => added.collect_eq prefixes⟩

/-- A guarding marker that gives a reason in words. -/
def wordyGuard : Marker where
  name := "skip_if_open"
  args := ["flaky"]

/-- A test, which is excluded below, with a malformed guard. -/
def unguardedTest : TestItem where
  nodeId := "unit/b"
  moduleName := "m"
  location := ⟨"m.py", 9, "b"⟩
  markers := [wordyGuard, { name := "skip_if_open", args := ["BZ:7"] }]

/-- That test behind one that is deselected, with or without a reason in words. -/
def unguardedModule (reasons : List Marker) : Manifest where
  items :=
    [{ nodeId := "a", moduleName := "m", location := ⟨"m.py", 1, "a"⟩
       markers := reasons ++ [{ name := "deselect", args := ["JR:A-1"] }] }, unguardedTest]

theorem collect_fails_iff_malformed_unguardedModule :
    (unguardedModule [{ name := "skip", args := ["slow"] }]).collect ["unit/"] =
      .error (.malformedMarker "unit/b" "skip_if_open") := by
  have added : (unguardedModule []).ReasonsAdded
      (unguardedModule [{ name := "skip", args := ["slow"] }]) := by
    have isReason : Marker.IsReason { name := "skip", args := ["slow"] } :=
      ⟨Or.inl rfl, "slow", rfl, by decide +kernel, by decide +kernel⟩
    exact ⟨rfl, .cons ⟨rfl, .add isReason (.keep _ .nil)⟩
      (.cons ⟨rfl, .keep _ (.keep _ .nil)⟩ .nil)⟩
  have closest : unguardedTest.closestMarker? guardMarker = some wordyGuard := rfl
  have malformed : wordyGuard.IsMalformed := by decide +kernel
  have sound : ¬ TestItem.IsFaulty ["unit/"] (unguardedModule []).items.head! := by
    rw [← TestItem.failure?_eq_none_iff]
    decide +kernel
  rw [(collect_fails_iff_malformed (unguardedModule []) ["unit/"]).2.2 _ added]
  refine ((collect_fails_iff_malformed (unguardedModule []) ["unit/"]).2.1 _).mpr
    ⟨[_], unguardedTest, [], rfl, List.forall_mem_singleton.mpr sound, ?_, wordyGuard, ?_, rfl⟩
  · exact .guard closest (malformed.2.imp_right And.right)
  · exact ⟨malformed, Or.inl closest⟩

end TestGate
