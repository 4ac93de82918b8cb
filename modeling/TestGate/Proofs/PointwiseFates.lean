import TestGate.Proofs.CollectedUses
import TestGate.Proofs.FailSafe
import TestGate.Proofs.Replay

/-!
The fates of tests, each taken by itself. Deciding a test may mark its primary issue, and a mark may
stand at the end of the chains of other issues; but only obsolete issues are marked. Main statement:
after resolving, the fate of each test is what the index says about its issues before any mark is
set, so the order of the tests does not count and no tracker is asked.
-/

namespace TestGate

open Issue

/-! ## Ends of chains -/

/-- An issue that leads nowhere is obsolete by its mark, or by its own data. -/
theorem Session.deselectStatus_of_last
    {session : Session} {issue : Reference} {record : Record}
    (known : session.index.record? issue = some record)
    (ends : session.index.successor? issue.tracker record = none) :
    session.deselectStatus issue =
      .ok (record.isDeselected.getD (record.isObsolete issue.tracker)) := by
  have itself : session.index.canonical issue = .ok (some record) := by
    simp only [Index.canonical, known]
    rw [Index.walk, ends]
    rfl
  simp only [deselectStatus, known, itself]
  cases mark : record.isDeselected with
  | some verdict => rfl
  | none =>
    change Except.ok (record.isDeselected.getD (record.isObsolete issue.tracker)) = _
    rw [mark]

/-! ## Marks -/

def Issue.Record.mark (record : Record) : Record :=
  { record with isDeselected := some true }

def Issue.Entry.mark (entry : Entry) : Entry :=
  { entry with data := entry.data.map Record.mark }

/-- Whether a session is another one with some issues marked, all of them obsolete. -/
structure Session.IsMarked (start : Session) (marks : List Reference) (session : Session) : Prop
    where
  same : session = { start with index := session.index }
  entries : ∀ issue, session.index.find? issue =
    (start.index.find? issue).map fun entry => if issue ∈ marks then entry.mark else entry
  obsolete : ∀ issue ∈ marks, start.deselectStatus issue = .ok true

namespace Session.IsMarked

variable {start session : Session} {marks : List Reference}

theorem refl
    (start : Session) :
    start.IsMarked [] start :=
  ⟨rfl, fun issue => by simp, nofun⟩

/-- The record of an issue after marking. -/
abbrev changed (marks : List Reference) (issue : Reference) (record : Record) : Record :=
  if issue ∈ marks then record.mark else record

theorem record?
    (marked : start.IsMarked marks session) (issue : Reference) :
    session.index.record? issue = (start.index.record? issue).map (changed marks issue) := by
  rw [Index.record?, marked.entries, Index.record?]
  cases start.index.find? issue with
  | none => rfl
  | some entry =>
    by_cases isMarked : issue ∈ marks
    · have marksIt : changed marks issue = Record.mark := funext fun _ => if_pos isMarked
      simp [marksIt, isMarked, Entry.mark]
    · have leavesIt : changed marks issue = id := funext fun _ => if_neg isMarked
      simp [leavesIt, isMarked]

/-- What marks do not enter into is read off a marked record as off the record itself. -/
theorem apply_changed
    {β : Type} (read : Record → β) (unmarked : ∀ record, read record.mark = read record)
    (issue : Reference) (record : Record) :
    read (changed marks issue record) = read record := by
  rw [changed]
  split
  · exact unmarked record
  · rfl

theorem duplicated?_changed
    (issue : Reference) (record : Record) (tracker : Tracker) :
    (changed marks issue record).duplicated? tracker = record.duplicated? tracker :=
  apply_changed (fun record => record.duplicated? tracker) (fun _ => rfl) issue record

theorem markDeselected
    {issue : Reference}
    (marked : start.IsMarked marks session) (present : start.index.contains issue = true)
    (obsolete : start.deselectStatus issue = .ok true) :
    start.IsMarked (issue :: marks) (session.markDeselected issue) where
  same := by
    rw [Session.markDeselected, marked.same]
  entries other := by
    obtain ⟨entry, found⟩ := (SortedMap.contains_iff _ _).mp present
    rw [Session.markDeselected, Index.updateRecord, Index.find?_update, marked.entries,
      marked.entries]
    by_cases same : other = issue
    · subst same
      rw [if_pos rfl, found]
      by_cases again : other ∈ marks
      · simp [again, Entry.mark, Function.comp_def]
        rfl
      · simp [again, Entry.mark]
        rfl
    · simp [same]
  obsolete other member := by
    rcases List.mem_cons.mp member with rfl | earlier
    · exact obsolete
    · exact marked.obsolete other earlier

/-- Marks do not change what is open. -/
theorem openStatus
    (marked : start.IsMarked marks session) (issue : Reference) :
    session.openStatus issue = start.openStatus issue := by
  have version : session.serverVersion = start.serverVersion := by rw [marked.same]
  have sameVerdict : ∀ other record, (changed marks other record).isOpen = record.isOpen :=
    apply_changed Record.isOpen fun _ => rfl
  have sameAffects : ∀ other record tracker version,
      (changed marks other record).affects tracker version = record.affects tracker version :=
    fun other record tracker version =>
      apply_changed (fun record => record.affects tracker version) (fun _ => rfl) other record
  rw [Session.openStatus, Session.openStatus, marked.record? issue]
  cases known : start.index.record? issue with
  | none => rfl
  | some record =>
    simp only [Option.map_some, sameVerdict]
    cases record.isOpen with
    | some verdict => rfl
    | none =>
      rcases Index.canonical_of_changed (fun other _ => marked.record? other) duplicated?_changed known with
        ⟨failure, failed, failsAgain⟩ | ⟨last, target, _, _, _, walked, walksAgain⟩
      · rw [failed, failsAgain]
        rfl
      · rw [walked, walksAgain]
        simp only [bind, Except.bind, Option.getD_some, sameVerdict, sameAffects, version]

/-- At the end of a chain a mark adds nothing, since the issue there is obsolete by itself. -/
theorem isObsolete_changed
    {last : Reference} {target : Record}
    (marked : start.IsMarked marks session)
    (isTarget : start.index.record? last = some target)
    (ends : start.index.successor? last.tracker target = none) :
    (changed marks last target).isDeselected.getD
        ((changed marks last target).isObsolete last.tracker) =
      target.isDeselected.getD (target.isObsolete last.tracker) := by
  by_cases isMarked : last ∈ marks
  · have obsolete := marked.obsolete last isMarked
    rw [Session.deselectStatus_of_last isTarget ends, Except.ok.injEq] at obsolete
    rw [obsolete, changed, if_pos isMarked]
    rfl
  · rw [changed, if_neg isMarked]

/-- Marks say nothing new: whoever reads them finds out what could be found out without. -/
theorem deselectStatus
    (marked : start.IsMarked marks session) (issue : Reference) :
    session.deselectStatus issue = start.deselectStatus issue := by
  rw [Session.deselectStatus, marked.record? issue]
  cases known : start.index.record? issue with
  | none => simp only [Session.deselectStatus, known, Option.map_none]
  | some record =>
    by_cases isMarked : issue ∈ marks
    · rw [marked.obsolete issue isMarked]
      simp only [Option.map_some, changed, if_pos isMarked, Record.mark]
    · simp only [Session.deselectStatus, known, Option.map_some, changed, if_neg isMarked]
      cases record.isDeselected with
      | some mark => rfl
      | none =>
        rcases Index.canonical_of_changed (fun other _ => marked.record? other) duplicated?_changed known with
          ⟨failure, failed, failsAgain⟩ | ⟨last, target, belongs, isTarget, ends, walked, walksAgain⟩
        · simp only [failed, failsAgain]
        · have sameStatus := marked.isObsolete_changed isTarget (belongs ▸ ends)
          rw [belongs] at sameStatus
          simp only [walked, walksAgain, bind, Except.bind, Option.getD_some]
          exact congrArg Except.ok sameStatus

end Session.IsMarked

/-! ## Decisions about single tests -/

namespace Session

/-- The primary issue of a test if it is found obsolete. -/
def dropped? (session : Session) (item : CollectedItem) : Except Failure (Option Reference) :=
  match item.primary with
  | none => .ok none
  | some primary =>
    (session.deselectStatus primary).map fun isObsolete =>
      if isObsolete then some primary else none

def guarded (session : Session) (item : CollectedItem) : Except Failure Outcome :=
  match item.guard with
  | none => .ok (.selected none)
  | some guard =>
    (session.openStatus guard).map fun isOpen =>
      .selected (if isOpen then some guard.toText else none)

/-- The outcome of a test by what a session finds out about its issues. -/
def fate (session : Session) (filters : Filters) (item : CollectedItem) :
    Except Failure Outcome :=
  match session.dropped? item with
  | .error failure => .error failure
  | .ok (some primary) => .ok (.deselected (obsoleteReason primary))
  | .ok none =>
    if filters.admits item then session.guarded item else .ok (.deselected filterReason)

/-- The issues that are marked when a test is decided. -/
def marksOf (session : Session) (item : CollectedItem) : List Reference :=
  match session.dropped? item with
  | .ok (some primary) => [primary]
  | _ => []

/-- Whether a test is not dropped for its primary issue. -/
def Keeps (session : Session) (item : CollectedItem) : Prop :=
  ∀ primary, item.primary = some primary → session.deselectStatus primary = .ok false

/-- The outcomes of a test: it is dropped if its primary issue is obsolete or the filters refuse it;
else it is skipped exactly if it has a guard that is open. -/
inductive Gives (session : Session) (filters : Filters) (item : CollectedItem) : Outcome → Prop
  | obsolete {primary : Reference}
      (isPrimary : item.primary = some primary)
      (isObsolete : session.deselectStatus primary = .ok true) :
      Gives session filters item (.deselected (obsoleteReason primary))
  | refused
      (kept : session.Keeps item)
      (notAdmitted : filters.admits item = false) :
      Gives session filters item (.deselected filterReason)
  | skipped {guard : Reference}
      (kept : session.Keeps item)
      (admitted : filters.admits item = true)
      (isGuard : item.guard = some guard)
      (isOpen : session.openStatus guard = .ok true) :
      Gives session filters item (.selected (some guard.toText))
  | runs
      (kept : session.Keeps item)
      (admitted : filters.admits item = true)
      (notOpen : ∀ guard, item.guard = some guard → session.openStatus guard = .ok false) :
      Gives session filters item (.selected none)

variable {session : Session} {filters : Filters} {item : CollectedItem}

theorem keeps_of_dropped?
    (kept : session.dropped? item = .ok none) :
    session.Keeps item := by
  intro primary isPrimary
  rw [dropped?, isPrimary] at kept
  obtain ⟨isObsolete, status, same⟩ := Results.map_eq_ok_iff.mp kept
  cases isObsolete with
  | false => exact status
  | true => cases same

theorem dropped?_eq_some_iff
    {issue : Reference} :
    session.dropped? item = .ok (some issue) ↔
      item.primary = some issue ∧ session.deselectStatus issue = .ok true := by
  rw [dropped?]
  cases item.primary with
  | none => simp
  | some primary =>
    refine Results.map_eq_ok_iff.trans ?_
    constructor
    · rintro ⟨isObsolete, status, same⟩
      cases isObsolete with
      | false => cases same
      | true =>
        cases same
        exact ⟨rfl, status⟩
    · rintro ⟨same, status⟩
      cases same
      exact ⟨true, status, rfl⟩

theorem mem_marksOf_iff
    {issue : Reference} :
    issue ∈ session.marksOf item ↔
      item.primary = some issue ∧ session.deselectStatus issue = .ok true := by
  rw [← dropped?_eq_some_iff, marksOf]
  split
  · rename_i primary dropped
    rw [dropped, List.mem_singleton, Except.ok.injEq, Option.some.injEq, eq_comm]
  · rename_i notDropped
    refine ⟨nofun, fun dropped => absurd dropped (notDropped issue)⟩

theorem gives_of_fate
    {outcome : Outcome}
    (decided : session.fate filters item = .ok outcome) :
    session.Gives filters item outcome := by
  rw [fate] at decided
  cases dropping : session.dropped? item with
  | error failure =>
    rw [dropping] at decided
    cases decided
  | ok dropped =>
    rw [dropping] at decided
    cases dropped with
    | some primary =>
      cases decided
      obtain ⟨isPrimary, isObsolete⟩ := dropped?_eq_some_iff.mp dropping
      exact .obsolete isPrimary isObsolete
    | none =>
      have kept := keeps_of_dropped? dropping
      simp only at decided
      by_cases admitted : filters.admits item = true
      · rw [if_pos admitted, guarded] at decided
        cases isGuard : item.guard with
        | none =>
          rw [isGuard] at decided
          cases decided
          refine .runs kept admitted fun guard impossible => ?_
          rw [isGuard] at impossible
          cases impossible
        | some guard =>
          rw [isGuard] at decided
          obtain ⟨isOpen, status, same⟩ := Results.map_eq_ok_iff.mp decided
          cases same
          cases isOpen with
          | true => exact .skipped kept admitted isGuard status
          | false =>
            refine .runs kept admitted fun other isOther => ?_
            rw [isGuard, Option.some.injEq] at isOther
            exact isOther ▸ status
      · rw [if_neg admitted] at decided
        cases decided
        exact .refused kept (Bool.eq_false_iff.mpr admitted)

end Session

/-! ## Decisions one after another -/

section Deciding

variable {σ : Type} {sources : IssueSources σ} {filters : Filters} {start : Session} {run : Run σ}
  {marks : List Reference}

def Session.Knows (session : Session) (item : CollectedItem) : Prop :=
  ∀ issue, item.Asks issue → (session.index.record? issue).isSome = true

def Run.withSession (run : Run σ) (session : Session) : Run σ :=
  { run with session := session }

namespace Session.IsMarked

/-- What is known is not looked up. -/
theorem ensure
    {issue : Reference}
    (marked : start.IsMarked marks run.session)
    (known : (start.index.record? issue).isSome = true) :
    run.ensure sources issue = (.ok (), run) := by
  have stillKnown : (run.session.index.record? issue).isSome = true := by
    rw [marked.record?, Option.isSome_map, known]
  rw [Run.ensure, if_pos stillKnown]

theorem isOpen
    {issue : Reference}
    (marked : start.IsMarked marks run.session)
    (known : (start.index.record? issue).isSome = true) :
    run.isOpen sources issue = (start.openStatus issue, run) := by
  rw [Run.isOpen, Run.lookUp, marked.ensure known]
  simp only
  rw [marked.openStatus]

theorem shouldDeselect
    {issue : Reference}
    (marked : start.IsMarked marks run.session)
    (known : (start.index.record? issue).isSome = true) :
    run.shouldDeselect sources issue = (start.deselectStatus issue, run) := by
  rw [Run.shouldDeselect, Run.lookUp, marked.ensure known]
  simp only
  rw [marked.deselectStatus]

variable (sources filters)

theorem isDropped
    {item : CollectedItem}
    (marked : start.IsMarked marks run.session) (knows : start.Knows item) :
    ∃ session, start.IsMarked (start.marksOf item ++ marks) session ∧
      run.isDropped sources item = (start.dropped? item, run.withSession session) := by
  rw [Run.isDropped, marksOf, dropped?]
  cases isPrimary : item.primary with
  | none => exact ⟨run.session, marked, rfl⟩
  | some primary =>
    have known := knows primary (Or.inl isPrimary)
    simp only [marked.shouldDeselect known]
    cases status : start.deselectStatus primary with
    | error failure => exact ⟨run.session, marked, rfl⟩
    | ok isObsolete =>
      cases isObsolete with
      | false => exact ⟨run.session, marked, rfl⟩
      | true =>
        obtain ⟨record, isRecord⟩ := Option.isSome_iff_exists.mp known
        have present := Index.contains_of_record? isRecord
        exact ⟨run.session.markDeselected primary, marked.markDeselected present status, rfl⟩

theorem guardOutcome
    {item : CollectedItem}
    (marked : start.IsMarked marks run.session) (knows : start.Knows item) :
    run.guardOutcome sources item = (start.guarded item, run) := by
  rw [Run.guardOutcome, guarded]
  cases isGuard : item.guard with
  | none => rfl
  | some guard =>
    simp only [marked.isOpen (knows guard (Or.inr isGuard))]
    cases start.openStatus guard with
    | error failure => rfl
    | ok isOpen =>
      cases isOpen with
      | true => rfl
      | false => rfl

/-- A test is decided as it would have been before any mark was set. -/
theorem decideItem
    {item : CollectedItem}
    (marked : start.IsMarked marks run.session) (knows : start.Knows item) :
    ∃ session, start.IsMarked (start.marksOf item ++ marks) session ∧
      run.decideItem sources filters item =
        (start.fate filters item, run.withSession session) := by
  obtain ⟨session, stillMarked, dropping⟩ := marked.isDropped sources knows
  refine ⟨session, stillMarked, ?_⟩
  rw [Run.decideItem, dropping, fate]
  cases start.dropped? item with
  | error failure => rfl
  | ok dropped =>
    cases dropped with
    | some primary => rfl
    | none =>
      simp only
      by_cases admitted : filters.admits item = true
      · rw [if_pos admitted, if_pos admitted]
        exact stillMarked.guardOutcome sources knows
      · rw [if_neg admitted, if_neg admitted]

theorem noteOutcome
    (item : CollectedItem) (outcome : Outcome) (run : Run σ)
    (marked : start.IsMarked marks run.session) :
    start.IsMarked marks (run.noteOutcome item outcome).session ∧
      World.IsQuiet run.world (run.noteOutcome item outcome).world := by
  cases outcome with
  | selected skip => exact ⟨marked, .refl run.world⟩
  | deselected reason => exact ⟨marked, World.isQuiet_noteAll run.world [_]⟩

end Session.IsMarked

def Session.itemReport (session : Session) (filters : Filters) (item : CollectedItem) :
    Except Failure ItemReport :=
  (fun outcome => ⟨item.nodeId, outcome⟩) <$> session.fate filters item

theorem Session.exists_fates
    {session : Session} {items : List CollectedItem} {reports : List ItemReport}
    (decided : items.mapM (session.itemReport filters) = .ok reports) :
    ∃ outcomeOf : CollectedItem → Outcome,
      ∀ item ∈ items, session.fate filters item = .ok (outcomeOf item) := by
  have hasFate : ∀ item ∈ items, ∃ outcome, session.fate filters item = .ok outcome := by
    intro item member
    obtain ⟨itemReport, _, ok⟩ := Results.ok_of_mapM_eq_ok decided member
    obtain ⟨outcome, isFate, _⟩ := Results.map_eq_ok_iff.mp ok
    exact ⟨outcome, isFate⟩
  choose! outcomeOf isFate using hasFate
  exact ⟨outcomeOf, isFate⟩

theorem Session.mapM_itemReport
    {session : Session} {items : List CollectedItem} {outcomeOf : CollectedItem → Outcome}
    (isFate : ∀ item ∈ items, session.fate filters item = .ok (outcomeOf item)) :
    items.mapM (session.itemReport filters) =
      .ok (items.map fun item => ⟨item.nodeId, outcomeOf item⟩) := by
  rw [Results.mapM_eq_ok_iff, List.forall₂_map_right_iff, List.forall₂_same]
  intro item member
  rw [itemReport, isFate item member]
  rfl

variable (sources filters)

/-- Tests are decided as they would have been before any mark was set, and nobody is asked. -/
theorem Session.IsMarked.decideAll
    {items : List CollectedItem}
    (marked : start.IsMarked marks run.session) (knows : ∀ item ∈ items, start.Knows item) :
    ∃ after last,
      Run.decideAll sources filters items run = (items.mapM (start.itemReport filters), after) ∧
      World.IsQuiet run.world after.world ∧ start.IsMarked last after.session ∧
      ∀ reports, items.mapM (start.itemReport filters) = .ok reports →
        ∀ issue, issue ∈ last ↔ issue ∈ marks ∨ ∃ item ∈ items, issue ∈ start.marksOf item := by
  induction items generalizing run marks with
  | nil => exact ⟨run, marks, rfl, .refl run.world, marked, fun _ _ issue => by simp⟩
  | cons item rest inductionHypothesis =>
    obtain ⟨session, stillMarked, decided⟩ :=
      marked.decideItem sources filters (knows item List.mem_cons_self)
    rw [Run.decideAll, decided, List.mapM_cons, itemReport]
    cases start.fate filters item with
    | error failure =>
      refine ⟨run.withSession session, _, rfl, .refl run.world, stillMarked, ?_⟩
      intro reports impossible
      cases impossible
    | ok outcome =>
      have noted := noteOutcome item outcome (run.withSession session) stillMarked
      obtain ⟨after, last, others, quiet, lastMarked, marksLast⟩ := inductionHypothesis noted.1
        fun other member => knows other (List.mem_cons_of_mem item member)
      refine ⟨after, last, ?_, noted.2.trans quiet, lastMarked, ?_⟩
      · simp only [others]
        cases rest.mapM (start.itemReport filters) with
        | error failure => rfl
        | ok reports => rfl
      · intro reports succeeded issue
        obtain ⟨report, _, restSucceeded⟩ := Results.bind_eq_ok_iff.mp succeeded
        obtain ⟨restReports, restDecided, _⟩ := Results.bind_eq_ok_iff.mp restSucceeded
        rw [marksLast restReports restDecided, List.mem_append, List.exists_mem_cons_iff]
        tauto

/-- Whether some test is dropped because an issue is its primary one and obsolete. -/
def Session.Drops (session : Session) (items : List CollectedItem) (issue : Reference) : Prop :=
  (∃ item ∈ items, item.primary = some issue) ∧ session.deselectStatus issue = .ok true

theorem Session.IsMarked.report
    {items : List CollectedItem}
    (marked : start.IsMarked marks run.session) (knows : ∀ item ∈ items, start.Knows item) :
    ∃ after last,
      run.report sources filters items =
        (Report.mk <$> items.mapM (start.itemReport filters), after) ∧
      World.IsQuiet run.world after.world ∧ start.IsMarked last after.session ∧
      ∀ reports, items.mapM (start.itemReport filters) = .ok reports →
        ∀ issue, issue ∈ last ↔ issue ∈ marks ∨ start.Drops items issue := by
  obtain ⟨after, last, decided, quiet, lastMarked, marksLast⟩ :=
    marked.decideAll sources filters knows
  refine ⟨after, last, ?_, quiet, lastMarked, fun reports succeeded issue => ?_⟩
  · rw [Run.report, decided]
    cases items.mapM (start.itemReport filters) with
    | error failure => rfl
    | ok reports => rfl
  · rw [marksLast reports succeeded, Drops]
    simp only [mem_marksOf_iff]
    tauto

/-- Exactly the records of the issues for which tests are dropped get a mark. -/
theorem Session.IsMarked.find?_of_drops
    {items : List CollectedItem} {session : Session}
    (marked : start.IsMarked marks session)
    (isMarked : ∀ issue, issue ∈ marks ↔ start.Drops items issue)
    (knows : ∀ item ∈ items, start.Knows item) (issue : Reference) :
    (start.Drops items issue →
        ∃ entry record, start.index.find? issue = some entry ∧ entry.data = some record ∧
          session.index.find? issue =
            some { entry with data := some { record with isDeselected := some true } }) ∧
      (¬ start.Drops items issue → session.index.find? issue = start.index.find? issue) := by
  rw [marked.entries, ← isMarked]
  refine ⟨fun member => ?_, fun notMarked => ?_⟩
  · obtain ⟨item, inItems, isPrimary⟩ := ((isMarked issue).mp member).1
    obtain ⟨record, known⟩ :=
      Option.isSome_iff_exists.mp (knows item inItems issue (Or.inl isPrimary))
    obtain ⟨entry, found, isData⟩ := Option.bind_eq_some_iff.mp known
    refine ⟨entry, record, found, isData, ?_⟩
    rw [found, Option.map_some, if_pos member, Entry.mark, isData]
    rfl
  · simp only [if_neg notMarked, Option.map_id']

theorem Run.report_of_fates
    {items : List CollectedItem} {outcomeOf : CollectedItem → Outcome}
    (knows : ∀ item ∈ items, run.session.Knows item)
    (isFate : ∀ item ∈ items, run.session.fate filters item = .ok (outcomeOf item)) :
    (run.report sources filters items).1 =
      .ok ⟨items.map fun item => ⟨item.nodeId, outcomeOf item⟩⟩ := by
  obtain ⟨_, _, reported, _⟩ :=
    (Session.IsMarked.refl run.session).report sources filters knows
  rw [reported, Session.mapM_itemReport isFate]
  rfl

end Deciding

/-! ## Collected tests -/

/-- The issues that the outcome of a test depends on are among those that it uses. -/
theorem Manifest.contains_of_asks
    {manifest : Manifest} {prefixes : List String} {source : TestItem} {item : CollectedItem}
    {issue : Reference}
    (member : source ∈ manifest.items) (included : source.isExcluded prefixes = false)
    (collected : manifest.collectItem prefixes source = .ok item) (asks : item.Asks issue) :
    (manifest.index prefixes).contains issue = true := by
  have named : ∃ marker ∈ source.issueMarkers, marker.issue? = some issue := by
    rw [collectItem] at collected
    cases malformed : source.failure? prefixes with
    | some failure =>
      rw [malformed] at collected
      cases collected
    | none =>
      simp only [malformed, included, Bool.false_eq_true, if_false] at collected
      cases collected
      rcases asks with isPrimary | isGuard
      · exact List.exists_of_findSome?_eq_some isPrimary
      · obtain ⟨marker, closest, isNamed⟩ := Option.bind_eq_some_iff.mp isGuard
        refine ⟨marker, List.mem_filter.mpr ⟨List.mem_of_find?_eq_some closest, ?_⟩, isNamed⟩
        have isGuarding : marker.name = guardMarker := by simpa using List.find?_some closest
        rw [isGuarding]
        decide
  obtain ⟨marker, isMarker, isNamed⟩ := named
  have used : manifest.uses prefixes issue ≠ [] := by
    intro unused
    have nothing : manifest.usesIn issue source = [] :=
      List.flatMap_eq_nil_iff.mp unused source (List.mem_filter.mpr ⟨member, by simp [included]⟩)
    have noMarkers := List.map_eq_nil_iff.mp (List.append_eq_nil_iff.mp nothing).1
    have notHere := List.filter_eq_nil_iff.mp noMarkers marker isMarker
    rw [← Marker.issue?_eq] at notHere
    exact notHere (decide_eq_true isNamed)
  rw [SortedMap.contains, manifest.find?_index prefixes issue, if_neg used]
  rfl

/-- When the collected issues have been resolved, all that the outcomes depend on is known. -/
theorem Manifest.knows_of_resolve
    {σ : Type} {sources : IssueSources σ} {manifest : Manifest} {prefixes : List String}
    {collection : Collection} {run : Run σ}
    (noneExcluded : ∀ item ∈ manifest.items, item.isExcluded prefixes = false)
    (collected : manifest.collect prefixes = .ok collection)
    (begins : run.session.index = collection.index)
    (resolved : (run.resolve sources).1 = .ok ()) :
    ∀ item ∈ collection.items, (run.resolve sources).2.session.Knows item := by
  obtain ⟨items, itemsCollected, made⟩ := Results.bind_eq_ok_iff.mp collected
  cases made
  intro item member issue asks
  obtain ⟨source, isSource, itemCollected⟩ := Results.mem_of_mapM_eq_ok itemsCollected member
  have noData : ∀ issue, run.session.index.record? issue = none := by
    intro issue
    rw [begins, Index.record?, manifest.find?_index prefixes issue]
    split
    · cases (manifest.moduleGuards prefixes issue).head? with
      | none => rfl
      | some guard => rfl
    · rfl
  have present : run.session.index.contains issue = true :=
    begins ▸ contains_of_asks isSource (noneExcluded source isSource) itemCollected asks
  have complete : (run.resolve sources).2.session.index.Complete issue.tracker :=
    Run.resolveTrackers_complete (Index.throughout_of_noData noData)
      (Prod.ext resolved rfl : run.resolve sources = (.ok (), (run.resolve sources).2))
      issue.tracker (Or.inl issue.tracker.mem_all)
  exact complete.filled issue.id (Run.contains_resolveTrackers sources Tracker.all run present)

theorem Manifest.nodeIds_of_collect
    {manifest : Manifest} {prefixes : List String} {collection : Collection}
    (collected : manifest.collect prefixes = .ok collection) :
    collection.items.map CollectedItem.nodeId = manifest.items.map TestItem.nodeId := by
  obtain ⟨items, itemsCollected, made⟩ := Results.bind_eq_ok_iff.mp collected
  cases made
  have sameId : ∀ source item, manifest.collectItem prefixes source = .ok item →
      item.nodeId = source.nodeId := by
    intro source item itemCollected
    rw [collectItem] at itemCollected
    split at itemCollected
    · cases itemCollected
    · split at itemCollected
      · cases itemCollected
        rfl
      · cases itemCollected
        rfl
  have pairs := Results.mapM_eq_ok_iff.mp itemsCollected
  clear itemsCollected collected
  generalize manifest.items = sources at pairs ⊢
  induction pairs with
  | nil => rfl
  | cons first _ inductionHypothesis =>
    rw [List.map_cons, List.map_cons, sameId _ _ first]
    exact congrArg _ inductionHypothesis

/-- The fates of collected tests after resolving, if none is excluded. -/
theorem report_is_pointwise
    {σ : Type} {sources : IssueSources σ} {manifest : Manifest} {prefixes : List String}
    {collection : Collection} {run : Run σ}
    (noneExcluded : ∀ item ∈ manifest.items, item.isExcluded prefixes = false)
    (collected : manifest.collect prefixes = .ok collection)
    (begins : run.session.index = collection.index)
    (resolved : (run.resolve sources).1 = .ok ())
    (filters : Filters) :
    let start := (run.resolve sources).2
    World.IsQuiet start.world (start.report sources filters collection.items).2.world ∧
      ∀ report after, start.report sources filters collection.items = (.ok report, after) →
        ∃ outcomeOf : CollectedItem → Outcome,
          (∀ item ∈ collection.items, start.session.Gives filters item (outcomeOf item)) ∧
          collection.items.map CollectedItem.nodeId = manifest.items.map TestItem.nodeId ∧
          report.items = collection.items.map (fun item => ⟨item.nodeId, outcomeOf item⟩) ∧
          (∀ items, items.Perm collection.items →
            (start.report sources filters items).1 =
              .ok ⟨items.map fun item => ⟨item.nodeId, outcomeOf item⟩⟩) ∧
          ∀ issue,
            (start.session.Drops collection.items issue →
              ∃ entry record, start.session.index.find? issue = some entry ∧
                entry.data = some record ∧
                after.session.index.find? issue =
                  some { entry with data := some { record with isDeselected := some true } }) ∧
            (¬ start.session.Drops collection.items issue →
              after.session.index.find? issue = start.session.index.find? issue) := by
  intro start
  have knows : ∀ item ∈ collection.items, start.session.Knows item :=
    Manifest.knows_of_resolve noneExcluded collected begins resolved
  obtain ⟨last, marks, reported, quiet, lastMarked, marksLast⟩ :=
    (Session.IsMarked.refl start.session).report sources filters knows
  refine ⟨by rw [reported]; exact quiet, fun report after outcome => ?_⟩
  rw [reported, Prod.mk.injEq] at outcome
  obtain ⟨succeeded, rfl⟩ := outcome
  obtain ⟨reports, decided, rfl⟩ := Results.map_eq_ok_iff.mp succeeded
  obtain ⟨outcomeOf, isFate⟩ := Session.exists_fates decided
  have isMarked : ∀ issue, issue ∈ marks ↔ start.session.Drops collection.items issue := by
    intro issue
    rw [marksLast reports decided issue]
    simp
  refine ⟨outcomeOf, fun item member => Session.gives_of_fate (isFate item member),
    Manifest.nodeIds_of_collect collected, ?_, fun items permuted => ?_,
    lastMarked.find?_of_drops isMarked knows⟩
  · rw [Session.mapM_itemReport isFate, Except.ok.injEq] at decided
    exact decided.symm
  · -- in any order the tests are the same, so that they have fates and their issues are known
    have among : ∀ item ∈ items, item ∈ collection.items :=
      fun item member => permuted.mem_iff.mp member
    exact start.report_of_fates sources filters (fun item member => knows item (among item member))
      fun item member => isFate item (among item member)

/-- A test whose issue duplicates an obsolete one, a test of the obsolete one, and a guarded test.
-/
def obsoleteTests : Manifest where
  items :=
    [{ nodeId := "a", moduleName := "m", location := ⟨"m.py", 1, "a"⟩
       markers := [{ name := "deselect", args := ["BZ:6"] }] },
     { nodeId := "b", moduleName := "m", location := ⟨"m.py", 5, "b"⟩
       markers := [{ name := "skip", args := ["BZ:5"] }] },
     { nodeId := "c", moduleName := "m", location := ⟨"m.py", 9, "c"⟩
       markers := [{ name := "skip_if_open", args := ["BZ:7"] }] }]

def closedAsObsolete : Knowledge :=
  .ofRecords
    [(⟨.bugzilla, "5"⟩, obsoleteRecord),
      (⟨.bugzilla, "6"⟩,
        { id := "6", status := "CLOSED", resolution := "DUPLICATE", duplicateOf := some "5" }),
      (⟨.bugzilla, "7"⟩, { id := "7", status := "NEW" })]

def obsoleteStart : Run Unit where
  session := { serverVersion := Version.zero, policy := {}, index := obsoleteTests.index [] }
  world := { memory := () }

theorem report_is_pointwise_obsoleteTests :
    ∃ collection, obsoleteTests.collect [] = .ok collection ∧
      let start := (obsoleteStart.resolve closedAsObsolete.toSources).2
      let reported := start.report closedAsObsolete.toSources {} collection.items.reverse
      reported.1 =
        .ok
          ⟨[⟨"c", .selected (some "BZ:7")⟩, ⟨"b", .deselected "BZ:5 is closed as obsolete"⟩,
            ⟨"a", .deselected "BZ:6 is closed as obsolete"⟩]⟩ := by
  have someItems : (obsoleteTests.collect []).toOption.map Collection.items =
      some
        [{ nodeId := "a", location := ⟨"m.py", 1, "a"⟩, bugzillaMarks := ["6"]
           primary := some ⟨.bugzilla, "6"⟩ },
         { nodeId := "b", location := ⟨"m.py", 5, "b"⟩, bugzillaMarks := ["5"]
           primary := some ⟨.bugzilla, "5"⟩ },
         { nodeId := "c", location := ⟨"m.py", 9, "c"⟩, bugzillaMarks := ["7"]
           guard := some ⟨.bugzilla, "7"⟩, primary := some ⟨.bugzilla, "7"⟩ }] := by
    decide +kernel
  have resolved : (obsoleteStart.resolve closedAsObsolete.toSources).1 = .ok () := by
    decide +kernel
  cases collected : obsoleteTests.collect [] with
  | error failure =>
    rw [collected] at someItems
    cases someItems
  | ok collection =>
    rw [collected] at someItems
    refine ⟨collection, rfl, ?_⟩
    intro start reported
    obtain ⟨_, pointwise⟩ := report_is_pointwise (fun _ _ => rfl) collected
      (Manifest.isProper_of_collect collected).1.symm resolved {}
    have inOrder : (start.report closedAsObsolete.toSources {} collection.items).1 =
        .ok
          ⟨[⟨"a", .deselected "BZ:6 is closed as obsolete"⟩,
            ⟨"b", .deselected "BZ:5 is closed as obsolete"⟩, ⟨"c", .selected (some "BZ:7")⟩]⟩ := by
      rw [Option.some.inj someItems]
      decide +kernel
    obtain ⟨outcomeOf, _, _, same, permuted, _⟩ := pointwise _ _ (Prod.ext inOrder rfl)
    rw [permuted _ collection.items.reverse_perm, List.map_reverse, ← same]
    rfl

end TestGate
