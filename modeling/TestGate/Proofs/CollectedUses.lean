import TestGate.Proofs.CollectedIssues

/-!
What a collected index holds about each issue. Main statement: it lists exactly the uses of the
issue by tests, in their order; if no test uses the issue, it holds the first guard about it in the
modules of the tests.
-/

namespace TestGate

open Issue

/-! ## Adding uses -/

/-- The uses that a list pairs with an issue, in order. -/
def usesOf (issue : Reference) (usages : List (Reference × Usage)) : List Usage :=
  (usages.filter fun usage => usage.1 = issue).map Prod.snd

theorem usesOf_append
    (issue : Reference) (front back : List (Reference × Usage)) :
    usesOf issue (front ++ back) = usesOf issue front ++ usesOf issue back := by
  simp [usesOf]

theorem usesOf_flatMap
    {α : Type} (issue : Reference) (items : List α) (usages : α → List (Reference × Usage)) :
    usesOf issue (items.flatMap usages) = items.flatMap fun item => usesOf issue (usages item) := by
  induction items with
  | nil => rfl
  | cons item rest inductionHypothesis =>
    rw [List.flatMap_cons, usesOf_append, inductionHypothesis, List.flatMap_cons]

/-- Adding uses one after another appends those of an issue to what its entry lists. -/
theorem find?_foldl_addUsage
    (usages : List (Reference × Usage)) (index : Index) (issue : Reference) :
    (usages.foldl addUsage index).find? issue =
      if usesOf issue usages = [] then
        index.find? issue
      else
        let entry := (index.find? issue).getD {}
        some { entry with usedIn := entry.usedIn ++ usesOf issue usages } := by
  induction usages generalizing index with
  | nil => rfl
  | cons usage rest inductionHypothesis =>
    rw [List.foldl_cons, inductionHypothesis, addUsage, Index.addUsage, Index.find?_update]
    by_cases same : usage.1 = issue
    · subst same
      have isFirst : usesOf usage.1 (usage :: rest) = usage.2 :: usesOf usage.1 rest := by
        simp [usesOf]
      by_cases last : usesOf usage.1 rest = []
      · simp [isFirst, last]
      · simp [isFirst, last]
    · have isOther : usesOf issue (usage :: rest) = usesOf issue rest := by
        simp [usesOf, same]
      rw [isOther, if_neg (Ne.symm same)]

/-- Of the uses of an issue that has no entry only the first is added, and none if it has one. -/
theorem find?_foldl_addNewUsage
    (usages : List (Reference × Usage)) (index : Index) (issue : Reference) :
    (usages.foldl addNewUsage index).find? issue =
      (index.find? issue).or
        ((usages.find? fun usage => usage.1 = issue).map fun usage =>
          { usedIn := [usage.2] }) := by
  induction usages generalizing index with
  | nil => simp
  | cons usage rest inductionHypothesis =>
    rw [List.foldl_cons, inductionHypothesis, addNewUsage, List.find?_cons]
    by_cases present : index.contains usage.1 = true
    · rw [if_pos present]
      by_cases same : usage.1 = issue
      · -- the entry that was there stays as it is
        obtain ⟨entry, found⟩ := (SortedMap.contains_iff _ _).mp present
        rw [same] at found
        simp [found]
      · simp [same]
    · rw [if_neg present, addUsage, Index.addUsage, Index.find?_update]
      by_cases same : usage.1 = issue
      · have absent : index.find? usage.1 = none := by
          simpa [SortedMap.contains] using present
        rw [← same, if_pos rfl, absent]
        simp
      · rw [if_neg (Ne.symm same)]
        simp [same]

/-! ## The uses by a test -/

theorem Marker.issue?_eq
    (marker : Marker) :
    marker.issue? = marker.issueArgument?.bind Reference.parse? := by
  rw [issue?, reading]
  cases marker.issueArgument? with
  | none => rfl
  | some argument =>
    simp only [Option.bind_some]
    cases Reference.parse? argument with
    | some issue => rfl
    | none =>
      by_cases guards : marker.name = guardMarker
      · simp only [if_pos guards]
      · simp only [if_neg guards]

/-- The uses of an issue by a test: one for each issue marker whose argument names it, then one for
each guard about it in the source. -/
def Manifest.usesIn (manifest : Manifest) (issue : Reference) (item : TestItem) : List Usage :=
  let usage (kind : String) : Usage :=
    Usage.make item.location (manifest.component? item) (manifest.importance? item) kind
  ((item.issueMarkers.filter fun marker =>
      marker.issueArgument?.bind Reference.parse? = some issue).map fun marker =>
        usage marker.name)
    ++ ((CallSite.scan item.source).filter fun site => site.issue = issue).map fun site =>
      usage site.usage

theorem Manifest.usesOf_itemUsages
    (manifest : Manifest) (issue : Reference) (item : TestItem) :
    TestGate.usesOf issue (manifest.itemUsages item) = manifest.usesIn issue item := by
  have ofMarkers :
      ∀ (usage : String → Usage) (markers : List Marker),
        TestGate.usesOf issue (markers.filterMap fun marker =>
            marker.issue?.map fun named => (named, usage marker.name)) =
          (markers.filter fun marker =>
            marker.issueArgument?.bind Reference.parse? = some issue).map fun marker =>
              usage marker.name := by
    intro usage markers
    induction markers with
    | nil => rfl
    | cons marker rest inductionHypothesis =>
      rw [List.filterMap_cons, List.filter_cons, ← Marker.issue?_eq]
      cases named : marker.issue? with
      | none => simpa using inductionHypothesis
      | some other =>
        by_cases same : other = issue
        · simpa [TestGate.usesOf, same] using inductionHypothesis
        · simpa [TestGate.usesOf, same] using inductionHypothesis
  rw [itemUsages, usesOf_append, ofMarkers, usesIn]
  congr 1
  rw [TestGate.usesOf, List.filter_map, List.map_map]
  rfl

/-- The uses of an issue by the tests that are not excluded, in their order. -/
def Manifest.uses (manifest : Manifest) (prefixes : List String) (issue : Reference) :
    List Usage :=
  (manifest.includedItems prefixes).flatMap (manifest.usesIn issue)

/-! ## The guards in modules -/

/-- The guards about an issue in the module of each test that is not excluded, test by test. -/
def Manifest.moduleGuards
    (manifest : Manifest) (prefixes : List String) (issue : Reference) :
    List (TestModule × CallSite) :=
  ((manifest.includedItems prefixes).filterMap fun item =>
      manifest.module? item.moduleName).flatMap fun testModule =>
    ((CallSite.scan testModule.source).filter fun site => site.issue = issue).map fun site =>
      (testModule, site)

/-- The use that a guard in a module makes. -/
def TestModule.use (testModule : TestModule) (site : CallSite) : Usage :=
  Usage.make ⟨testModule.path, 1, testModule.name⟩ (Docstring.component? testModule.source) none
    site.usage

theorem findSome?_filterMap
    {α β γ : Type} (select : α → Option β) (result : β → Option γ) (items : List α) :
    (items.filterMap select).findSome? result = items.findSome? fun item =>
      (select item).bind result := by
  rw [← List.head?_filterMap, List.filterMap_filterMap, List.head?_filterMap]

theorem findSome?_filter_ne
    {α β : Type} [BEq α] [LawfulBEq α] {result : α → Option β} {item : α}
    (nothing : result item = none) (items : List α) :
    (items.filter fun other => !other == item).findSome? result = items.findSome? result := by
  induction items with
  | nil => rfl
  | cons other rest inductionHypothesis =>
    by_cases same : other = item
    · simp [same, nothing, inductionHypothesis]
    · simp [same, List.findSome?_cons, inductionHypothesis]

/-- Repetitions do not count for the first item that gives a result. -/
theorem findSome?_eraseDups
    {α β : Type} [BEq α] [LawfulBEq α] (result : α → Option β) (items : List α) :
    items.eraseDups.findSome? result = items.findSome? result := by
  -- what is left behind an item is a filtered list, and only its length is known to be smaller
  induction length : items.length using Nat.strong_induction_on generalizing items with
  | h size inductionHypothesis =>
    cases items with
    | nil => rfl
    | cons item rest =>
      have shorter : (rest.filter fun other => !other == item).length < size := by
        have bound := List.length_filter_le (fun other => !other == item) rest
        rw [List.length_cons] at length
        omega
      rw [List.eraseDups_cons, List.findSome?_cons, List.findSome?_cons,
        inductionHypothesis _ shorter _ rfl]
      cases nothing : result item with
      | some value => rfl
      | none => exact findSome?_filter_ne nothing rest

/-- The first use of an issue in the modules, each of which is scanned once, is its first use in the
modules of all tests. -/
theorem Manifest.find?_usedModules
    (manifest : Manifest) (prefixes : List String) (issue : Reference) :
    (((manifest.usedModules prefixes).flatMap TestModule.usages).find? fun usage =>
        usage.1 = issue) =
      (manifest.moduleGuards prefixes issue).head?.map fun guard =>
        (issue, guard.1.use guard.2) := by
  have inModule : ∀ testModule : TestModule,
      (testModule.usages.find? fun usage => usage.1 = issue) =
        (((CallSite.scan testModule.source).filter fun site => site.issue = issue).map fun site =>
          (testModule, site)).head?.map fun guard => (issue, guard.1.use guard.2) := by
    intro testModule
    rw [TestModule.usages, List.find?_map, List.head?_map, List.head?_filter, Option.map_map]
    cases found : (CallSite.scan testModule.source).find? fun site => site.issue = issue with
    | none => simp [Function.comp_def, found]
    | some site =>
      have same : site.issue = issue := by simpa using List.find?_some found
      simp [Function.comp_def, found, TestModule.use, same]
  rw [moduleGuards, List.head?_flatMap, List.find?_flatMap, usedModules, findSome?_filterMap,
    findSome?_eraseDups, List.findSome?_map, findSome?_filterMap, List.map_findSome?]
  congr 1
  funext item
  simp only [Function.comp_apply]
  cases manifest.module? item.moduleName with
  | none => rfl
  | some testModule => exact inModule testModule

/-! ## The collected index -/

theorem Manifest.find?_index
    (manifest : Manifest) (prefixes : List String) (issue : Reference) :
    (manifest.index prefixes).find? issue =
      if manifest.uses prefixes issue = [] then
        (manifest.moduleGuards prefixes issue).head?.map fun guard =>
          { usedIn := [guard.1.use guard.2] }
      else
        some { usedIn := manifest.uses prefixes issue } := by
  have sameUses :
      TestGate.usesOf issue ((manifest.includedItems prefixes).flatMap manifest.itemUsages) =
        manifest.uses prefixes issue := by
    rw [usesOf_flatMap, uses]
    exact List.flatMap_congr fun item _ => manifest.usesOf_itemUsages issue item
  rw [index, find?_foldl_addNewUsage, find?_foldl_addUsage, find?_usedModules, sameUses]
  by_cases unused : manifest.uses prefixes issue = []
  · simp [unused, Function.comp_def]
  · simp [unused]

/-- A collected index lists the uses of each issue by tests. An issue that no test uses is listed
if some guard in a module of a test names it, with the first such guard. -/
theorem collect_index_exact
    {manifest : Manifest} {prefixes : List String} {collection : Collection}
    (collected : manifest.collect prefixes = .ok collection) (issue : Reference) :
    let uses := manifest.uses prefixes issue
    let guards := manifest.moduleGuards prefixes issue
    (collection.index.contains issue = true ↔ uses ≠ [] ∨ guards ≠ []) ∧
      (uses ≠ [] →
        collection.index.find? issue =
          some { data := none, usedIn := uses, isDuplicateTarget := false }) ∧
      ∀ testModule site later, uses = [] → guards = (testModule, site) :: later →
        collection.index.find? issue =
          some { data := none, usedIn := [testModule.use site], isDuplicateTarget := false } := by
  intro uses guards
  have found := manifest.find?_index prefixes issue
  rw [← (Manifest.isProper_of_collect collected).1] at found
  refine ⟨?_, ?_, ?_⟩
  · rw [SortedMap.contains, found]
    by_cases unused : uses = []
    · rw [if_pos unused, Option.isSome_map, List.isSome_head?]
      simp [guards, unused]
    · rw [if_neg unused]
      simp [unused]
  · intro used
    rw [found, if_neg used]
  · intro testModule site later unused first
    rw [found, if_pos unused, show manifest.moduleGuards prefixes issue = _ from first]
    rfl

/-- A module with three guards. -/
def guardingModule : TestModule where
  name := "m"
  path := "m.py"
  source := "if is_open('BZ:7'):\nif is_open('JR:A-1'):\nif not is_open('JR:A-1'):\n"

/-- A test of that module that names an issue in a marker and in a guard, next to a test that is
excluded. -/
def guardedModule : Manifest where
  modules := [guardingModule]
  items :=
    [{ nodeId := "unit/b", moduleName := "m", location := ⟨"m.py", 1, "b"⟩
       markers := [{ name := "skip", args := ["BZ:5"] }] },
     { nodeId := "a", moduleName := "m", location := ⟨"m.py", 9, "a"⟩
       markers := [{ name := "skip_if_open", args := ["BZ:7"] }]
       source := "if not is_open('BZ:7'):" }]

theorem collect_index_exact_guardedModule :
    ∃ collection, guardedModule.collect ["unit/"] = .ok collection ∧
      collection.index.find? ⟨.bugzilla, "7"⟩ =
        some
          { usedIn :=
              [{ location := ⟨"m.py", 9, "a"⟩, kind := "skip_if_open" },
               { location := ⟨"m.py", 9, "a"⟩, kind := "not is_open" }] } ∧
      collection.index.find? ⟨.jira, "A-1"⟩ =
        some { usedIn := [{ location := ⟨"m.py", 1, "m"⟩, kind := "is_open" }] } ∧
      collection.index.contains ⟨.bugzilla, "5"⟩ = false := by
  have succeeds : (guardedModule.collect ["unit/"]).isOk = true := by decide +kernel
  have ofTest : guardedModule.uses ["unit/"] ⟨.bugzilla, "7"⟩ =
      [{ location := ⟨"m.py", 9, "a"⟩, kind := "skip_if_open" },
       { location := ⟨"m.py", 9, "a"⟩, kind := "not is_open" }] := by decide +kernel
  have unused : guardedModule.uses ["unit/"] ⟨.jira, "A-1"⟩ = [] := by decide +kernel
  have guards : guardedModule.moduleGuards ["unit/"] ⟨.jira, "A-1"⟩ =
      [(guardingModule, ⟨⟨.jira, "A-1"⟩, false⟩), (guardingModule, ⟨⟨.jira, "A-1"⟩, true⟩)] := by
    decide +kernel
  cases collected : guardedModule.collect ["unit/"] with
  | error failure =>
    rw [collected] at succeeds
    cases succeeds
  | ok collection =>
    refine ⟨collection, rfl, ?_, ?_, ?_⟩
    · rw [(collect_index_exact collected ⟨.bugzilla, "7"⟩).2.1 (by rw [ofTest]; nofun), ofTest]
    · exact (collect_index_exact collected ⟨.jira, "A-1"⟩).2.2 _ _ _ unused guards
    · rw [Bool.eq_false_iff]
      intro present
      rcases (collect_index_exact collected ⟨.bugzilla, "5"⟩).1.mp present with used | guarded
      · exact used (by decide +kernel)
      · exact guarded (by decide +kernel)

end TestGate
