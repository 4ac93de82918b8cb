import TestGate.Proofs.DuplicateWalk
import TestGate.Proofs.SortedMap
import TestGate.Resolver

/-!
What each step of resolving changes in the index, told by look-ups. Steps for one tracker leave the
entries of the other alone, and no step loses an entry or a use.
-/

namespace TestGate

open Issue

namespace Issue.Index

/-! ## Single updates -/

theorem find?_update
    (index : Index) (issue other : Reference) (change : Entry → Entry) :
    (index.update issue change).find? other =
      if other = issue then some (change ((index.find? issue).getD {})) else index.find? other :=
  SortedMap.find?_alter index issue other _

theorem record?_update
    (index : Index) (issue other : Reference) (change : Entry → Entry) :
    (index.update issue change).record? other =
      if other = issue then (change ((index.find? issue).getD {})).data
      else index.record? other := by
  rw [record?, find?_update]
  split <;> simp [record?]

theorem data_getD
    (index : Index) (issue : Reference) :
    ((index.find? issue).getD {}).data = index.record? issue := by
  rw [record?]
  cases index.find? issue <;> rfl

theorem record?_updateRecord
    (index : Index) (issue other : Reference) (change : Record → Record) :
    (index.updateRecord issue change).record? other =
      if other = issue then (index.record? issue).map change else index.record? other := by
  rw [updateRecord, record?_update, data_getD]

theorem record?_setRecord
    (index : Index) (issue other : Reference) (record : Record) :
    (index.setRecord issue record).record? other =
      if other = issue then some record else index.record? other := by
  rw [setRecord, record?_update]

theorem record?_touch
    (index : Index) (issue other : Reference) :
    (index.touch issue).record? other = index.record? other := by
  rw [touch, record?_update]
  split
  · rename_i same
    rw [same, id, data_getD]
  · rfl

theorem contains_of_record?
    {index : Index} {issue : Reference} {record : Record}
    (known : index.record? issue = some record) :
    index.contains issue = true := by
  obtain ⟨entry, found, _⟩ := Option.bind_eq_some_iff.mp known
  rw [SortedMap.contains, found]
  rfl

/-! ## Changes of one tracker's part -/

/-- The uses of an issue. -/
def usages (index : Index) (issue : Reference) : List Usage :=
  ((index.find? issue).getD {}).usedIn

/-- What a change for one tracker leaves: the entries of the other tracker, all entries as such, and
all uses. -/
structure Frame (tracker : Tracker) (before after : Index) : Prop where
  others : ∀ issue, issue.tracker ≠ tracker → after.find? issue = before.find? issue
  contains : ∀ issue, before.contains issue = true → after.contains issue = true
  usages : ∀ issue, after.usages issue = before.usages issue

namespace Frame

variable {tracker : Tracker}

theorem refl
    (index : Index) :
    Frame tracker index index :=
  ⟨fun _ _ => rfl, fun _ present => present, fun _ => rfl⟩

theorem trans
    {first second third : Index}
    (early : Frame tracker first second) (late : Frame tracker second third) :
    Frame tracker first third where
  others issue other := (late.others issue other).trans (early.others issue other)
  contains issue present := late.contains issue (early.contains issue present)
  usages issue := (late.usages issue).trans (early.usages issue)

theorem update
    (index : Index) {issue : Reference} {change : Entry → Entry}
    (belongs : issue.tracker = tracker)
    (keepsUses : ∀ entry, (change entry).usedIn = entry.usedIn) :
    Frame tracker index (index.update issue change) where
  others other different := by
    rw [find?_update, if_neg]
    rintro rfl
    exact different belongs
  contains other present := by
    rw [SortedMap.contains, find?_update]
    split
    · rfl
    · exact present
  usages other := by
    rw [Index.usages, Index.usages, find?_update]
    split
    · rename_i same
      rw [same, Option.getD_some, keepsUses]
    · rfl

theorem updateRecord
    (index : Index) {issue : Reference} (change : Record → Record)
    (belongs : issue.tracker = tracker) :
    Frame tracker index (index.updateRecord issue change) :=
  update index belongs fun _ => rfl

/-- A row of changes of records, one for each pair of a list. -/
theorem foldl_updateRecord
    {β : Type} (change : β → Record → Record) {pairs : List (Reference × β)} (index : Index)
    (belong : ∀ pair ∈ pairs, pair.1.tracker = tracker) :
    Frame tracker index
      (pairs.foldl (fun index pair => index.updateRecord pair.1 (change pair.2)) index) := by
  induction pairs generalizing index with
  | nil => exact refl index
  | cons pair rest inductionHypothesis =>
    rw [List.foldl_cons]
    exact (updateRecord index (change pair.2) (belong pair List.mem_cons_self)).trans
      (inductionHypothesis _ fun other member => belong other (List.mem_cons_of_mem _ member))

theorem record?_eq
    {before after : Index} {issue : Reference}
    (frame : Frame tracker before after) (other : issue.tracker ≠ tracker) :
    after.record? issue = before.record? issue := by
  rw [record?, frame.others issue other, record?]

end Frame

/-- A row of changes of records reaches each issue at most once if none is named twice. -/
theorem record?_foldl_updateRecord
    {β : Type} (change : β → Record → Record) {pairs : List (Reference × β)} (index : Index)
    (distinct : (pairs.map Prod.fst).Nodup) (issue : Reference) :
    (pairs.foldl (fun index pair => index.updateRecord pair.1 (change pair.2)) index).record?
        issue =
      match pairs.find? fun pair => pair.1 = issue with
      | some pair => (index.record? issue).map (change pair.2)
      | none => index.record? issue := by
  induction pairs generalizing index with
  | nil => rfl
  | cons pair rest inductionHypothesis =>
    obtain ⟨notInRest, restDistinct⟩ := List.nodup_cons.mp distinct
    rw [List.foldl_cons, inductionHypothesis _ restDistinct, List.find?_cons]
    by_cases same : pair.1 = issue
    · have absent : (rest.find? fun pair => pair.1 = issue) = none := by
        rw [List.find?_eq_none]
        intro other member equal
        have equality : other.1 = issue := by simpa using equal
        exact notInRest (same ▸ equality ▸ List.mem_map_of_mem member)
      rw [absent]
      simp [same, record?_updateRecord]
    · simp only [decide_eq_false same, record?_updateRecord, if_neg (Ne.symm same)]

end Issue.Index

/-! ## What a session looks at -/

namespace Session

variable {session : Session} {tracker : Tracker} {issue : Reference}

theorem mem_ofTracker_iff
    {index : Index} {entry : Entry} :
    (issue, entry) ∈ index.ofTracker tracker ↔
      issue.tracker = tracker ∧ index.find? issue = some entry := by
  rw [Index.ofTracker, List.mem_filter, ← SortedMap.find?_eq_some_iff]
  simp [and_comm]

theorem ofTracker_nodup
    (index : Index) (tracker : Tracker) :
    ((index.ofTracker tracker).map Prod.fst).Nodup :=
  index.keys_nodup.sublist (List.filter_sublist.map _)

theorem mem_pending_iff :
    issue ∈ session.pending tracker ↔
      issue.tracker = tracker ∧ session.index.contains issue = true ∧
        session.index.record? issue = none := by
  rw [pending, List.mem_map]
  constructor
  · rintro ⟨⟨other, entry⟩, member, rfl⟩
    obtain ⟨inIndex, blank⟩ := List.mem_filter.mp member
    obtain ⟨belongs, found⟩ := mem_ofTracker_iff.mp inIndex
    refine ⟨belongs, by rw [SortedMap.contains, found]; rfl, ?_⟩
    rw [Index.record?, found]
    simpa using blank
  · rintro ⟨belongs, present, unknown⟩
    obtain ⟨entry, found⟩ := (SortedMap.contains_iff _ _).mp present
    rw [Index.record?, found, Option.bind_some] at unknown
    exact ⟨(issue, entry),
      List.mem_filter.mpr ⟨mem_ofTracker_iff.mpr ⟨belongs, found⟩, by simp [unknown]⟩, rfl⟩

theorem mem_duplicateTargets_iff
    {id : String} :
    id ∈ session.duplicateTargets tracker ↔
      ∃ source, session.index.link? tracker source = some id := by
  rw [duplicateTargets, List.mem_filterMap]
  constructor
  · rintro ⟨⟨⟨_, source⟩, entry⟩, member, duplicated⟩
    obtain ⟨rfl, found⟩ := mem_ofTracker_iff.mp member
    refine ⟨source, ?_⟩
    rw [Index.link?, Index.record?, found, Option.bind_some]
    exact duplicated
  · rintro ⟨source, leads⟩
    obtain ⟨record, known, duplicated⟩ := Index.record?_of_link? leads
    obtain ⟨entry, found, data⟩ := Option.bind_eq_some_iff.mp known
    exact ⟨(⟨tracker, source⟩, entry), mem_ofTracker_iff.mpr ⟨rfl, found⟩, by
      simp [data, duplicated]⟩

theorem mem_cloneParents_iff
    {ids : List String} :
    (issue, ids) ∈ session.cloneParents ↔
      issue.tracker = .bugzilla ∧ ∃ record, session.index.record? issue = some record ∧
        needsClones record = true ∧ record.cloneIds = ids := by
  rw [cloneParents, List.mem_filterMap]
  constructor
  · rintro ⟨⟨other, entry⟩, member, wanted⟩
    obtain ⟨belongs, found⟩ := mem_ofTracker_iff.mp member
    obtain ⟨record, kept, equality⟩ := Option.map_eq_some_iff.mp wanted
    obtain ⟨data, needed⟩ := Option.filter_eq_some_iff.mp kept
    obtain ⟨rfl, rfl⟩ := Prod.mk.inj equality
    exact ⟨belongs, record, by rw [Index.record?, found, Option.bind_some, data], needed, rfl⟩
  · rintro ⟨belongs, record, known, needed, rfl⟩
    obtain ⟨entry, found, data⟩ := Option.bind_eq_some_iff.mp known
    refine ⟨(issue, entry), mem_ofTracker_iff.mpr ⟨belongs, found⟩, ?_⟩
    simp [data, Option.filter, needed]

theorem cloneParents_nodup
    (session : Session) :
    (session.cloneParents.map Prod.fst).Nodup := by
  have onlyTheirIssues :
      (session.cloneParents.map Prod.fst).Sublist
        ((session.index.ofTracker .bugzilla).map Prod.fst) := by
    rw [cloneParents]
    generalize session.index.ofTracker .bugzilla = entries
    induction entries with
    | nil => simp
    | cons entry rest inductionHypothesis =>
      rw [List.filterMap_cons]
      split
      · exact inductionHypothesis.cons _
      · rename_i parent wanted
        obtain ⟨record, _, rfl⟩ := Option.map_eq_some_iff.mp wanted
        exact inductionHypothesis.cons_cons _
  exact (ofTracker_nodup _ _).sublist onlyTheirIssues

theorem mem_unjudged_iff :
    issue ∈ session.unjudged tracker ↔
      issue.tracker = tracker ∧ ∃ record, session.index.record? issue = some record ∧
        record.isOpen = none := by
  rw [unjudged, List.mem_map]
  constructor
  · rintro ⟨⟨other, entry⟩, member, rfl⟩
    obtain ⟨inIndex, open?⟩ := List.mem_filter.mp member
    obtain ⟨belongs, found⟩ := mem_ofTracker_iff.mp inIndex
    cases data : entry.data with
    | none => simp [data] at open?
    | some record =>
      refine ⟨belongs, record, by rw [Index.record?, found, Option.bind_some, data], ?_⟩
      simpa [data] using open?
  · rintro ⟨belongs, record, known, noVerdict⟩
    obtain ⟨entry, found, data⟩ := Option.bind_eq_some_iff.mp known
    exact ⟨(issue, entry),
      List.mem_filter.mpr ⟨mem_ofTracker_iff.mpr ⟨belongs, found⟩, by simp [data, noVerdict]⟩, rfl⟩

theorem unjudged_nodup
    (session : Session) (tracker : Tracker) :
    (session.unjudged tracker).Nodup :=
  (ofTracker_nodup session.index tracker).sublist (List.filter_sublist.map _)

/-! ## Entering what was fetched -/

theorem frame_enter
    (index : Index) (tracker : Tracker) (records : List Record) :
    Index.Frame tracker index (enter index tracker records) := by
  induction records generalizing index with
  | nil => exact .refl index
  | cons record rest inductionHypothesis =>
    have first : Index.Frame tracker index (index.setRecord ⟨tracker, record.id⟩ record) :=
      .update index rfl fun _ => rfl
    exact first.trans (inductionHypothesis _)

theorem record?_enter
    (index : Index) (records : List Record)
    (belongs : issue.tracker = tracker) :
    (enter index tracker records).record? issue =
      (records.reverse.find? fun record => record.id = issue.id).or (index.record? issue) := by
  induction records generalizing index with
  | nil => rfl
  | cons record rest inductionHypothesis =>
    rw [enter, List.foldl_cons]
    have onward := inductionHypothesis (index.setRecord ⟨tracker, record.id⟩ record)
    rw [enter] at onward
    rw [onward, List.reverse_cons, List.find?_append, Index.record?_setRecord]
    cases rest.reverse.find? fun record => record.id = issue.id with
    | some last => rfl
    | none =>
      by_cases same : record.id = issue.id
      · have equality : issue = ⟨tracker, record.id⟩ := by
          rw [same, ← belongs]
        rw [if_pos equality]
        simp [same]
      · have different : issue ≠ ⟨tracker, record.id⟩ := by
          rintro rfl
          exact same rfl
        simp [same, different]

/-- A record found after entering was entered under its id, or was there before. -/
theorem record?_enter_cases
    {index : Index} {records : List Record} {record : Record}
    (belongs : issue.tracker = tracker)
    (known : (enter index tracker records).record? issue = some record) :
    record ∈ records ∧ record.id = issue.id ∨ index.record? issue = some record := by
  rw [record?_enter index records belongs] at known
  cases found : records.reverse.find? fun record => record.id = issue.id with
  | none =>
    rw [found, Option.none_or] at known
    exact Or.inr known
  | some last =>
    rw [found, Option.some_or, Option.some.injEq] at known
    subst known
    refine Or.inl ⟨?_, by simpa using List.find?_some found⟩
    simpa using List.mem_of_find?_eq_some found

/-- Of the records that are entered about a known issue the last one counts. -/
theorem record?_enter_of_known
    {index : Index} {record : Record} (records : List Record)
    (belongs : issue.tracker = tracker) (known : index.record? issue = some record) :
    (enter index tracker records).record? issue =
      some ((records.filter fun entered => entered.id = issue.id).getLastD record) := by
  rw [record?_enter index records belongs, known, List.getLastD_eq_getLast?,
    List.getLast?_eq_head?_reverse, ← List.filter_reverse, List.head?_filter]
  cases records.reverse.find? fun entered => entered.id = issue.id with
  | none => rfl
  | some last => rfl

/-- Entering records leaves an issue alone that none of them is about. -/
theorem record?_enter_of_not_mem
    {index : Index} {records : List Record}
    (belongs : issue.tracker = tracker)
    (absent : ∀ record ∈ records, record.id ≠ issue.id) :
    (enter index tracker records).record? issue = index.record? issue := by
  have notFound : (records.reverse.find? fun record => record.id = issue.id) = none := by
    rw [List.find?_eq_none]
    intro record member
    simpa using absent record (List.mem_reverse.mp member)
  rw [record?_enter index records belongs, notFound, Option.none_or]

theorem record?_enter_isSome
    {index : Index} {records : List Record} {record : Record}
    (belongs : issue.tracker = tracker) (member : record ∈ records) (same : record.id = issue.id) :
    ((enter index tracker records).record? issue).isSome = true := by
  have found : (records.reverse.find? fun record => record.id = issue.id).isSome = true := by
    rw [List.find?_isSome]
    exact ⟨record, List.mem_reverse.mpr member, by simpa using same⟩
  rw [record?_enter index records belongs, Option.isSome_or, found, Bool.true_or]

/-- The issues of a tracker that have an entry after entering: those that had one, and those that
the records are about. -/
theorem contains_enter
    {index : Index} {records : List Record}
    (present : (enter index tracker records).contains issue = true) :
    index.contains issue = true ∨
      issue.tracker = tracker ∧ ∃ record ∈ records, record.id = issue.id := by
  induction records generalizing index with
  | nil => exact Or.inl present
  | cons record rest inductionHypothesis =>
    rcases inductionHypothesis present with earlier | ⟨belongs, other, member, same⟩
    · have after : (index.setRecord ⟨tracker, record.id⟩ record).contains issue = true := earlier
      simp only [SortedMap.contains, Index.setRecord, Index.find?_update] at after
      split at after
      · rename_i equality
        exact Or.inr ⟨by rw [equality], record, List.mem_cons_self, by rw [equality]⟩
      · exact Or.inl after
    · exact Or.inr ⟨belongs, other, List.mem_cons_of_mem _ member, same⟩

/-! ## Filling gaps -/

theorem frame_fillGaps
    (index : Index) {issues : List Reference}
    (belong : ∀ issue ∈ issues, issue.tracker = tracker) :
    Index.Frame tracker index (fillGaps index issues) := by
  induction issues generalizing index with
  | nil => exact .refl index
  | cons first rest inductionHypothesis =>
    have filled :
        Index.Frame tracker index (index.update first fun entry =>
          { entry with
            data := entry.data.or (some (Record.fallback first.id "not returned by tracker")) }) :=
      .update index (belong first List.mem_cons_self) fun _ => rfl
    exact filled.trans <|
      inductionHypothesis _ fun other member => belong other (List.mem_cons_of_mem _ member)

theorem record?_fillGaps
    (index : Index) (issues : List Reference) (issue : Reference) :
    (fillGaps index issues).record? issue =
      if issue ∈ issues then
        (index.record? issue).or (some (Record.fallback issue.id "not returned by tracker"))
      else
        index.record? issue := by
  induction issues generalizing index with
  | nil => rfl
  | cons first rest inductionHypothesis =>
    rw [fillGaps, List.foldl_cons]
    have onward := inductionHypothesis <|
      index.update first fun entry =>
        { entry with
          data := entry.data.or (some (Record.fallback first.id "not returned by tracker")) }
    rw [fillGaps] at onward
    rw [onward, Index.record?_update, Index.data_getD]
    by_cases same : issue = first
    · subst same
      by_cases again : issue ∈ rest <;> simp [again]
    · simp [same]

theorem contains_fillGaps
    {index : Index} {issues : List Reference}
    (present : (fillGaps index issues).contains issue = true) :
    index.contains issue = true ∨ issue ∈ issues := by
  induction issues generalizing index with
  | nil => exact Or.inl present
  | cons first rest inductionHypothesis =>
    rcases inductionHypothesis present with earlier | member
    · rw [SortedMap.contains, Index.find?_update] at earlier
      split at earlier
      · rename_i same
        exact Or.inr (same ▸ List.mem_cons_self)
      · exact Or.inl earlier
    · exact Or.inr (List.mem_cons_of_mem _ member)

/-! ## Targets, clones, verdicts and marks -/

theorem frame_enterTarget
    (index : Index) (issue : Reference) (record : Record) :
    Index.Frame issue.tracker index (enterTarget index issue record) :=
  .update index rfl fun _ => rfl

theorem record?_enterTarget
    (index : Index) (issue other : Reference) (record : Record) :
    (enterTarget index issue record).record? other =
      if other = issue then some record else index.record? other := by
  rw [enterTarget, Index.record?_update]

theorem record?_enterTarget_eq_some
    {index : Index} {other : Reference} {record found : Record} :
    (enterTarget index issue record).record? other = some found ↔
      other = issue ∧ record = found ∨ other ≠ issue ∧ index.record? other = some found := by
  rw [record?_enterTarget]
  by_cases same : other = issue <;> simp [same]

theorem isSome_record?_enterTarget
    {index : Index} {other : Reference} {record : Record} :
    ((enterTarget index issue record).record? other).isSome = true ↔
      other = issue ∨ (index.record? other).isSome = true := by
  rw [record?_enterTarget]
  by_cases same : other = issue <;> simp [same]

theorem contains_enterTarget
    {index : Index} {other : Reference} {record : Record}
    (present : (enterTarget index issue record).contains other = true) :
    index.contains other = true ∨ other = issue := by
  rw [SortedMap.contains, enterTarget, Index.find?_update] at present
  split at present
  · exact Or.inr ‹_›
  · exact Or.inl present

theorem contains_updateRecord
    {index : Index} {other : Reference} {change : Record → Record}
    (present : (index.updateRecord issue change).contains other = true) :
    index.contains other = true ∨ other = issue := by
  rw [SortedMap.contains, Index.updateRecord, Index.find?_update] at present
  split at present
  · exact Or.inr ‹_›
  · exact Or.inl present

theorem contains_foldl_updateRecord
    {β : Type} (change : β → Record → Record) {pairs : List (Reference × β)} {index : Index}
    (present :
      (pairs.foldl (fun index pair => index.updateRecord pair.1 (change pair.2))
        index).contains issue = true) :
    index.contains issue = true ∨ issue ∈ pairs.map Prod.fst := by
  induction pairs generalizing index with
  | nil => exact Or.inl present
  | cons pair rest inductionHypothesis =>
    rcases inductionHypothesis present with earlier | member
    · rcases contains_updateRecord earlier with before | same
      · exact Or.inl before
      · exact Or.inr (by simp [same])
    · exact Or.inr (List.mem_cons_of_mem _ member)

theorem noVerdict_of_needsClones
    {record : Record}
    (needed : needsClones record = true) :
    record.isOpen = none := by
  have parts : (record.isOpen = none ∧ record.clones = []) ∧ record.cloneIds ≠ [] := by
    simpa [needsClones] using needed
  exact parts.1.1

/-- The record with those of some clones that it names, fallback records left out. -/
def withClones (ids : List String) (clones : List Record) (record : Record) : Record :=
  { record with
    clones := clones.filter fun clone => !clone.isFallback && ids.contains clone.id }

theorem attachClones_eq
    (index : Index) (parents : List (Reference × List String)) (clones : List Record) :
    attachClones index parents clones =
      parents.foldl
        (fun index pair => index.updateRecord pair.1 (withClones pair.2 clones)) index :=
  rfl

/-- The record as it is after clones have been attached. -/
def attached (clones : List Record) (issue : Reference) (record : Record) : Record :=
  if issue.tracker = .bugzilla ∧ needsClones record = true then
    withClones record.cloneIds clones record
  else
    record

theorem record?_attachClones
    (session : Session) (clones : List Record) (issue : Reference) :
    (attachClones session.index session.cloneParents clones).record? issue =
      (session.index.record? issue).map (attached clones issue) := by
  rw [attachClones_eq,
    Index.record?_foldl_updateRecord (withClones · clones) session.index
      session.cloneParents_nodup]
  cases found : session.cloneParents.find? fun pair => pair.1 = issue with
  | some pair =>
    have same : pair.1 = issue := by simpa using List.find?_some found
    have member : (issue, pair.2) ∈ session.cloneParents :=
      same ▸ List.mem_of_find?_eq_some found
    obtain ⟨belongs, record, known, needed, ids⟩ := mem_cloneParents_iff.mp member
    simp only [known, Option.map_some, attached, if_pos (And.intro belongs needed), ids]
  | none =>
    cases known : session.index.record? issue with
    | none => rfl
    | some record =>
      rw [List.find?_eq_none] at found
      rw [Option.map_some, attached, if_neg]
      rintro ⟨belongs, needed⟩
      have member := mem_cloneParents_iff.mpr ⟨belongs, record, known, needed, rfl⟩
      simpa using found _ member

theorem duplicated?_attached
    (clones : List Record) (issue : Reference) (record : Record) (tracker : Tracker) :
    (attached clones issue record).duplicated? tracker = record.duplicated? tracker := by
  rw [attached]
  split <;> rfl

theorem isSome_record?_attachClones
    (session : Session) (clones : List Record) (issue : Reference) :
    ((attachClones session.index session.cloneParents clones).record? issue).isSome =
      (session.index.record? issue).isSome := by
  rw [record?_attachClones, Option.isSome_map]

theorem link?_attachClones
    (session : Session) (clones : List Record) (tracker : Tracker) :
    (attachClones session.index session.cloneParents clones).link? tracker =
      session.index.link? tracker :=
  Index.link?_of_changed (fun issue _ => record?_attachClones session clones issue)
    (duplicated?_attached clones)

theorem frame_attachClones
    (session : Session) (clones : List Record) :
    Index.Frame .bugzilla session.index
      (attachClones session.index session.cloneParents clones) := by
  rw [attachClones_eq]
  refine Index.Frame.foldl_updateRecord (withClones · clones) session.index ?_
  exact fun pair member => (mem_cloneParents_iff.mp member).1

theorem contains_attachClones
    {session : Session} {clones : List Record}
    (present :
      (attachClones session.index session.cloneParents clones).contains issue = true) :
    session.index.contains issue = true := by
  rw [attachClones_eq] at present
  rcases contains_foldl_updateRecord (withClones · clones) present with before | member
  · exact before
  · obtain ⟨pair, inParents, rfl⟩ := List.mem_map.mp member
    obtain ⟨_, record, known, _⟩ := mem_cloneParents_iff.mp inParents
    exact Index.contains_of_record? known

theorem enterVerdicts_eq
    (index : Index) (verdicts : List (Reference × Bool)) :
    enterVerdicts index verdicts =
      verdicts.foldl
        (fun index pair =>
          index.updateRecord pair.1 fun record => { record with isOpen := some pair.2 })
        index :=
  rfl

theorem record?_markDeselected
    (session : Session) (issue other : Reference) :
    (session.markDeselected issue).index.record? other =
      if other = issue then
        (session.index.record? issue).map fun record => { record with isDeselected := some true }
      else
        session.index.record? other :=
  Index.record?_updateRecord session.index issue other _

end Session

end TestGate
