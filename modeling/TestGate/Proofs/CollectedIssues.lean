import TestGate.ManifestFile
import TestGate.Proofs.Fates
import TestGate.Proofs.Results
import TestGate.Proofs.ScannedGuards

/-!
What collecting gives to resolving. Main statement: all issues of a collection are proper, nothing
is known about them yet, and no line number is too large to be written.
-/

namespace TestGate

open Issue

/-! ## Line numbers -/

section Reading

variable {τ ε : Type} [Format τ ε]

/-- Whether a format reads no natural number beyond the largest that is admitted. -/
def Format.IsBounded (τ : Type) {ε : Type} [Format τ ε] : Prop :=
  ∀ (largest : Nat) (value : τ) (number : Nat),
    Format.natural largest value = .ok number → number ≤ largest

theorem Format.of_field
    {α : Type} {fields : List (String × τ)} {name : String} {read : τ → Except ε α} {result : α}
    (ok : Format.field fields name read = .ok result) :
    ∃ value, read value = .ok result := by
  rw [Format.field] at ok
  split at ok
  · exact ⟨_, ok⟩
  · cases ok

theorem Format.of_mem_list
    {α : Type} {read : τ → Except ε α} {value : τ} {results : List α} {result : α}
    (ok : Format.list read value = .ok results) (member : result ∈ results) :
    ∃ item, read item = .ok result := by
  obtain ⟨items, _, itemsRead⟩ := Results.bind_eq_ok_iff.mp ok
  obtain ⟨item, _, itemRead⟩ := Results.mem_of_mapM_eq_ok itemsRead member
  exact ⟨item, itemRead⟩

theorem Location.line_of_read
    (bounded : Format.IsBounded τ) {value : τ} {location : Location}
    (ok : Location.read value = .ok location) :
    location.line ≤ largestLine := by
  obtain ⟨fields, _, ok⟩ := Results.bind_eq_ok_iff.mp ok
  obtain ⟨path, _, ok⟩ := Results.bind_eq_ok_iff.mp ok
  obtain ⟨line, lineRead, ok⟩ := Results.bind_eq_ok_iff.mp ok
  obtain ⟨name, _, ok⟩ := Results.bind_eq_ok_iff.mp ok
  cases ok
  obtain ⟨number, numberRead⟩ := Format.of_field lineRead
  exact bounded largestLine number line numberRead

theorem TestItem.line_of_read
    (bounded : Format.IsBounded τ) {value : τ} {item : TestItem}
    (ok : TestItem.read value = .ok item) :
    item.location.line ≤ Location.largestLine := by
  obtain ⟨fields, _, ok⟩ := Results.bind_eq_ok_iff.mp ok
  obtain ⟨nodeId, _, ok⟩ := Results.bind_eq_ok_iff.mp ok
  obtain ⟨moduleName, _, ok⟩ := Results.bind_eq_ok_iff.mp ok
  obtain ⟨location, locationRead, ok⟩ := Results.bind_eq_ok_iff.mp ok
  obtain ⟨classDocstring, _, ok⟩ := Results.bind_eq_ok_iff.mp ok
  obtain ⟨functionDocstring, _, ok⟩ := Results.bind_eq_ok_iff.mp ok
  obtain ⟨markers, _, ok⟩ := Results.bind_eq_ok_iff.mp ok
  obtain ⟨source, _, ok⟩ := Results.bind_eq_ok_iff.mp ok
  cases ok
  obtain ⟨place, placeRead⟩ := Format.of_field locationRead
  exact Location.line_of_read bounded placeRead

/-- Whether no line of a manifest is too large. -/
def Manifest.IsBounded (manifest : Manifest) : Prop :=
  ∀ item ∈ manifest.items, item.location.line ≤ Location.largestLine

theorem Manifest.isBounded_of_read
    (bounded : Format.IsBounded τ) {value : τ} {manifest : Manifest}
    (ok : Manifest.read value = .ok manifest) :
    manifest.IsBounded := by
  obtain ⟨fields, _, ok⟩ := Results.bind_eq_ok_iff.mp ok
  obtain ⟨modules, _, ok⟩ := Results.bind_eq_ok_iff.mp ok
  obtain ⟨items, itemsRead, ok⟩ := Results.bind_eq_ok_iff.mp ok
  cases ok
  intro item member
  rw [Format.fieldOr] at itemsRead
  split at itemsRead
  · obtain ⟨place, itemRead⟩ := Format.of_mem_list itemsRead member
    exact TestItem.line_of_read bounded itemRead
  · cases itemsRead
    cases member

end Reading

theorem Json.isBounded : Format.IsBounded Json.Tree := by
  intro largest value number ok
  change Json.Tree.toNat largest value = .ok number at ok
  unfold Json.Tree.toNat at ok
  split at ok
  · split at ok
    · rename_i inRange
      cases ok
      omega
    · cases ok
  · cases ok

theorem Yaml.isBounded : Format.IsBounded Yaml.Value := by
  intro largest value number ok
  obtain ⟨target, _, ok⟩ := Results.bind_eq_ok_iff.mp
    (show Yaml.Value.natural largest value = .ok number from ok)
  split at ok
  · split at ok
    · split at ok
      · rename_i inRange
        cases ok
        exact inRange
      · cases ok
    · cases ok
  · cases ok

theorem Manifest.isBounded_of_load
    {φ : Type} [Storage φ] {files : φ} {path : Path} {manifest : Manifest}
    (ok : Manifest.load files path = .ok manifest) :
    manifest.IsBounded := by
  have loaded : (Storage.read files path >>= Manifest.ofText path) = .ok manifest := by
    rw [Manifest.load] at ok
    revert ok
    cases Storage.read files path >>= Manifest.ofText path with
    | error message => nofun
    | ok other =>
      intro ok
      cases ok
      rfl
  obtain ⟨text, _, textRead⟩ := Results.bind_eq_ok_iff.mp loaded
  rw [Manifest.ofText] at textRead
  split at textRead
  · cases decoded : Json.decodeText (Manifest.read (τ := Json.Tree)) text with
    | error failure =>
      rw [decoded] at textRead
      cases textRead
    | ok other =>
      rw [decoded] at textRead
      cases textRead
      obtain ⟨value, valueRead, checked⟩ := Results.bind_eq_ok_iff.mp decoded
      split at checked
      · cases checked
      · cases checked
        exact Manifest.isBounded_of_read Json.isBounded valueRead
  · cases decoded : (Yaml.Value.ofText text >>= Manifest.read) with
    | error failure =>
      rw [decoded] at textRead
      cases textRead
    | ok other =>
      rw [decoded] at textRead
      cases textRead
      obtain ⟨value, _, valueRead⟩ := Results.bind_eq_ok_iff.mp decoded
      exact Manifest.isBounded_of_read Yaml.isBounded valueRead

/-! ## References of tests -/

theorem Marker.isProper_of_issue?
    {marker : Marker} {issue : Reference}
    (named : marker.issue? = some issue) :
    issue.IsProper := by
  rw [Marker.issue?] at named
  split at named
  · rename_i other reading
    cases named
    rw [Marker.reading] at reading
    split at reading
    · cases reading
    · split at reading
      · rename_i parsed
        cases reading
        exact Reference.isProper_of_parse? parsed
      · split at reading <;> cases reading
  · cases named

theorem Manifest.isProper_of_itemUsages
    {manifest : Manifest} {item : TestItem} {usage : Reference × Usage}
    (member : usage ∈ manifest.itemUsages item) :
    usage.1.IsProper ∧ usage.2.location = item.location := by
  rcases List.mem_append.mp member with inMarkers | inSource
  · obtain ⟨marker, _, named⟩ := List.mem_filterMap.mp inMarkers
    obtain ⟨issue, isIssue, rfl⟩ := Option.map_eq_some_iff.mp named
    exact ⟨Marker.isProper_of_issue? isIssue, rfl⟩
  · obtain ⟨site, isSite, rfl⟩ := List.mem_map.mp inSource
    exact ⟨CallSite.isProper_of_mem_scan isSite, rfl⟩

theorem TestModule.isProper_of_usages
    {testModule : TestModule} {usage : Reference × Usage}
    (member : usage ∈ testModule.usages) :
    usage.1.IsProper ∧ usage.2.location.line = 1 := by
  obtain ⟨site, isSite, rfl⟩ := List.mem_map.mp member
  exact ⟨CallSite.isProper_of_mem_scan isSite, rfl⟩

/-- The issues that the outcomes of collected tests depend on are proper. -/
theorem Manifest.isProper_of_asks
    {manifest : Manifest} {prefixes : List String} {item : TestItem} {collected : CollectedItem}
    {issue : Reference}
    (ok : manifest.collectItem prefixes item = .ok collected) (asks : collected.Asks issue) :
    issue.IsProper := by
  rw [Manifest.collectItem] at ok
  split at ok
  · cases ok
  · split at ok
    · cases ok
      rcases asks with impossible | isGuard
      · cases impossible
      · obtain ⟨marker, _, named⟩ := Option.bind_eq_some_iff.mp isGuard
        exact Marker.isProper_of_issue? named
    · cases ok
      rcases asks with isPrimary | isGuard
      · obtain ⟨marker, _, named⟩ := List.exists_of_findSome?_eq_some isPrimary
        exact Marker.isProper_of_issue? named
      · obtain ⟨marker, _, named⟩ := Option.bind_eq_some_iff.mp isGuard
        exact Marker.isProper_of_issue? named

/-! ## The collected index -/

/-- Whether all issues of an index are proper, nothing is known about them, and no line of a use is
too large. -/
structure Issue.Index.IsCollected (index : Index) : Prop where
  proper : ∀ issue, index.contains issue = true → issue.IsProper
  blank : ∀ issue, index.record? issue = none
  bounded : ∀ issue, ∀ usage ∈ index.usages issue, usage.location.line ≤ Location.largestLine

namespace Issue.Index.IsCollected

variable {index : Index}

theorem addUsage
    {usage : Reference × Usage}
    (collected : index.IsCollected) (proper : usage.1.IsProper)
    (bounded : usage.2.location.line ≤ Location.largestLine) :
    (TestGate.addUsage index usage).IsCollected where
  proper issue present := by
    rw [TestGate.addUsage, Index.addUsage, SortedMap.contains, find?_update] at present
    split at present
    · rename_i same
      rwa [same]
    · exact collected.proper issue present
  blank issue := by
    rw [TestGate.addUsage, Index.addUsage, record?_update]
    split
    · exact (data_getD index usage.1).trans (collected.blank usage.1)
    · exact collected.blank issue
  bounded issue other member := by
    rw [TestGate.addUsage, Index.addUsage, usages, find?_update] at member
    split at member
    · rcases List.mem_append.mp member with earlier | last
      · exact collected.bounded usage.1 other earlier
      · rwa [List.mem_singleton.mp last]
    · exact collected.bounded issue other member

theorem addNewUsage
    {usage : Reference × Usage}
    (collected : index.IsCollected) (proper : usage.1.IsProper)
    (bounded : usage.2.location.line ≤ Location.largestLine) :
    (TestGate.addNewUsage index usage).IsCollected := by
  rw [TestGate.addNewUsage]
  split
  · exact collected
  · exact collected.addUsage proper bounded

theorem foldl
    (add : Index → Reference × Usage → Index) (usages : List (Reference × Usage))
    (collected : index.IsCollected)
    (keeps : ∀ index usage, usage ∈ usages → index.IsCollected → (add index usage).IsCollected) :
    (usages.foldl add index).IsCollected := by
  induction usages generalizing index with
  | nil => exact collected
  | cons usage rest inductionHypothesis =>
    exact inductionHypothesis (keeps index usage List.mem_cons_self collected)
      fun other next member => keeps other next (List.mem_cons_of_mem usage member)

end Issue.Index.IsCollected

/-- The index of a manifest with moderate line numbers is collected. -/
theorem Manifest.IsBounded.index
    {manifest : Manifest}
    (bounded : manifest.IsBounded) (prefixes : List String) :
    (manifest.index prefixes).IsCollected := by
  have empty : Index.IsCollected SortedMap.empty :=
    ⟨nofun, fun _ => rfl, nofun⟩
  have ofItems : (((manifest.includedItems prefixes).flatMap manifest.itemUsages).foldl
      addUsage SortedMap.empty).IsCollected := by
    refine empty.foldl addUsage _ ?_
    intro index usage member collected
    obtain ⟨item, included, isUsage⟩ := List.mem_flatMap.mp member
    obtain ⟨proper, place⟩ := Manifest.isProper_of_itemUsages isUsage
    refine collected.addUsage proper ?_
    rw [place]
    exact bounded item (List.mem_filter.mp included).1
  refine ofItems.foldl addNewUsage _ ?_
  intro index usage member collected
  obtain ⟨testModule, _, isUsage⟩ := List.mem_flatMap.mp member
  obtain ⟨proper, line⟩ := TestModule.isProper_of_usages isUsage
  refine collected.addNewUsage proper ?_
  rw [line]
  decide

/-- What a successful collection gives to resolving. -/
theorem Manifest.isProper_of_collect
    {manifest : Manifest} {prefixes : List String} {collection : Collection}
    (ok : manifest.collect prefixes = .ok collection) :
    collection.index = manifest.index prefixes ∧
      ∀ item ∈ collection.items, ∀ issue, item.Asks issue → issue.IsProper := by
  obtain ⟨items, itemsRead, made⟩ := Results.bind_eq_ok_iff.mp ok
  cases made
  refine ⟨rfl, fun item member issue asks => ?_⟩
  obtain ⟨source, _, isRead⟩ := Results.mem_of_mapM_eq_ok itemsRead member
  exact Manifest.isProper_of_asks isRead asks

end TestGate
