import TestGate.CommandLine
import TestGate.Cache.Plan
import TestGate.Proofs.SortedMap

/-!
Which cache files a plan reads and writes. Main statements: where no requested file exists nothing
is read, and all of them are to be written; where all of them exist and hold the same, this is read,
and nothing is written. Writing files in memory changes these files and no others.
-/

namespace TestGate

open Issue

variable {φ : Type} [Storage φ]

/-- Whether no cache file that is asked for exists. -/
def CacheChoice.IsAbsent (cache : CacheChoice) (files : φ) : Prop :=
  ∀ tracker ∈ cache.requested,
    Storage.contains files (Cache.filePath cache.directory tracker) = false

namespace Cache.Plan

variable {files : φ} {cache : CacheChoice}

theorem existing_of_absent
    (absent : cache.IsAbsent files) :
    (make files cache.directory cache.requested).existing = [] := by
  rw [make, List.filter_eq_nil_iff]
  intro tracker member
  rw [absent tracker member]
  exact Bool.false_ne_true

/-- Without files nothing is read. -/
theorem load_of_absent
    (absent : cache.IsAbsent files) (version : Version) :
    (make files cache.directory cache.requested).load files version = .ok SortedMap.empty := by
  have nothing : ∀ (trackers : List Tracker) (loaded : Index),
      trackers.foldlM
          ((make files cache.directory cache.requested).loadOne files version) loaded =
        .ok loaded := by
    intro trackers
    induction trackers with
    | nil => exact fun _ => rfl
    | cons tracker rest inductionHypothesis =>
      intro loaded
      have skipped : (make files cache.directory cache.requested).loadOne files version loaded
          tracker = .ok loaded := by
        rw [loadOne, existing_of_absent absent]
        rfl
      rw [List.foldlM_cons, skipped]
      exact inductionHypothesis loaded
  exact nothing _ _

/-- Without files all that are asked for are to be written. -/
theorem pending_of_absent
    (absent : cache.IsAbsent files) :
    (make files cache.directory cache.requested).pending =
      cache.requested.map (filePath cache.directory) := by
  rw [pending, existing_of_absent absent]
  simp [make]

end Cache.Plan

/-! ## Files that all hold the same -/

/-- Whether all cache files that are asked for hold this. -/
def CacheChoice.Holds (cache : CacheChoice) (files : φ) (file : Cache.File) : Prop :=
  ∀ tracker ∈ cache.requested,
    Storage.contains files (Cache.filePath cache.directory tracker) = true ∧
      Cache.load files (Cache.filePath cache.directory tracker) = .ok file

namespace Cache.Plan

variable {files : φ} {cache : CacheChoice} {file : File}

theorem existing_of_holds
    (holds : cache.Holds files file) :
    (make files cache.directory cache.requested).existing = cache.requested := by
  rw [make, List.filter_eq_self]
  exact fun tracker member => (holds tracker member).1

/-- Files that exist are not written. -/
theorem pending_of_holds
    (holds : cache.Holds files file) :
    (make files cache.directory cache.requested).pending = [] := by
  rw [pending, existing_of_holds holds, List.map_eq_nil_iff, List.filter_eq_nil_iff]
  intro tracker member
  simpa using show tracker ∈ cache.requested from member

/-- What all files hold is what is read. -/
theorem load_of_holds
    (holds : cache.Holds files file) (asked : cache.requested ≠ []) (version : Version) :
    (make files cache.directory cache.requested).load files version =
      .ok (file.usableIndex version) := by
  have reads : ∀ tracker ∈ cache.requested, ∀ loaded,
      (make files cache.directory cache.requested).loadOne files version loaded tracker =
        .ok (loaded.insertAll (file.usableIndex version)) := by
    intro tracker member loaded
    rw [loadOne, existing_of_holds holds, if_pos (List.contains_iff_mem.mpr member)]
    change (Cache.load files (filePath cache.directory tracker) >>= _) = _
    rw [(holds tracker member).2]
    rfl
  have repeats : ∀ trackers : List Tracker, (∀ tracker ∈ trackers, tracker ∈ cache.requested) →
      trackers.foldlM ((make files cache.directory cache.requested).loadOne files version)
          (file.usableIndex version) = .ok (file.usableIndex version) := by
    intro trackers requested
    induction trackers with
    | nil => rfl
    | cons tracker rest inductionHypothesis =>
      rw [List.foldlM_cons, reads tracker (requested tracker List.mem_cons_self),
        SortedMap.insertAll_self]
      exact inductionHypothesis fun other member =>
        requested other (List.mem_cons_of_mem tracker member)
  obtain ⟨tracker, rest, trackers⟩ := List.exists_cons_of_ne_nil asked
  change cache.requested.foldlM
    ((make files cache.directory cache.requested).loadOne files version) SortedMap.empty = _
  have first : tracker ∈ cache.requested := by
    rw [trackers]
    exact List.mem_cons_self
  have others : ∀ other ∈ rest, other ∈ cache.requested := by
    intro other member
    rw [trackers]
    exact List.mem_cons_of_mem tracker member
  rw [congrArg (List.foldlM _ _) trackers, List.foldlM_cons, reads tracker first SortedMap.empty,
    SortedMap.empty_insertAll]
  exact repeats rest others

end Cache.Plan

/-! ## Files in memory -/

theorem FileStore.text?_write
    {store written : FileStore} {path : Path} {text : String}
    (success : Storage.write store path text = .ok written) (other : Path) :
    written.text? other = if key other = key path then some text else store.text? other := by
  change store.write path text = .ok written at success
  rw [write] at success
  split at success
  · cases success
  · cases success
    exact SortedMap.find?_insert store.files (key path) (key other) text

namespace Cache.Plan

variable {store : FileStore} {text : String}

/-- After writing without a failure the files written hold the text, and no other file has changed.
-/
theorem text?_writeAll
    {paths : List Path}
    (success : (writeAll text store paths).failure = none) (path : Path) :
    (writeAll text store paths).files.text? path =
      if FileStore.key path ∈ paths.map FileStore.key then some text else store.text? path := by
  induction paths generalizing store with
  | nil => rfl
  | cons first rest inductionHypothesis =>
    rw [writeAll] at success ⊢
    cases writing : Storage.write store first text with
    | error message =>
      rw [writing] at success
      cases success
    | ok written =>
      rw [writing] at success
      refine (inductionHypothesis success).trans ?_
      rw [FileStore.text?_write writing path]
      simp only [List.map_cons, List.mem_cons]
      by_cases later : FileStore.key path ∈ rest.map FileStore.key
      · rw [if_pos later, if_pos (Or.inr later)]
      · by_cases same : FileStore.key path = FileStore.key first
        · rw [if_neg later, if_pos same, if_pos (Or.inl same)]
        · rw [if_neg later, if_neg same, if_neg (not_or.mpr ⟨same, later⟩)]

/-- Files that may be written are all written. -/
theorem failure_writeAll
    (notReadOnly : store.readOnly = false) (paths : List Path) :
    (writeAll text store paths).failure = none := by
  induction paths generalizing store with
  | nil => rfl
  | cons first rest inductionHypothesis =>
    have writing : Storage.write store first text =
        .ok { store with files := store.files.insert (FileStore.key first) text } := by
      change store.write first text = _
      rw [FileStore.write, notReadOnly]
      rfl
    rw [writeAll, writing]
    exact inductionHypothesis notReadOnly

theorem readOnly_of_writeAll
    {path : Path} {paths : List Path}
    (success : (writeAll text store (path :: paths)).failure = none) :
    store.readOnly = false := by
  by_contra readOnly
  have refused : Storage.write store path text = .error "read-only filesystem" := by
    change store.write path text = _
    rw [FileStore.write, if_pos (eq_true_of_ne_false readOnly)]
  rw [writeAll, refused] at success
  cases success

end Cache.Plan

end TestGate
