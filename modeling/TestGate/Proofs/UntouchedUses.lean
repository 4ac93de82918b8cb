import TestGate.Proofs.LastingVerdicts

/-!
What operations leave of the entries of an index. All that they do to it is a row of changes of
single entries, and each of these leaves the uses alone. Main statement: through any operations,
failures included, entries stay with their uses, data stays present, the entries of the other
tracker stay as they are, and no issue in use becomes a mere target of duplicates.
-/

namespace TestGate

open Issue

/-! ## Changes of single entries -/

namespace Issue

/-- What a change of an entry leaves: its uses, and its data as such. Only an entry without uses may
become a target of duplicates. -/
structure Entry.Spares (before after : Entry) : Prop where
  uses : after.usedIn = before.usedIn
  data : before.data.isSome = true → after.data.isSome = true
  target : after.isDuplicateTarget = true → before.isDuplicateTarget = true ∨ before.usedIn = []

namespace Entry.Spares

theorem refl
    (entry : Entry) :
    entry.Spares entry :=
  ⟨rfl, id, Or.inl⟩

theorem trans
    {first second third : Entry}
    (early : first.Spares second) (late : second.Spares third) :
    first.Spares third where
  uses := late.uses.trans early.uses
  data present := late.data (early.data present)
  target isTarget := by
    rcases late.target isTarget with wasTarget | unused
    · exact early.target wasTarget
    · rw [early.uses] at unused
      exact Or.inr unused

theorem setData
    (entry : Entry) (record : Record) :
    entry.Spares { entry with data := some record } :=
  ⟨rfl, fun _ => rfl, Or.inl⟩

theorem fillData
    (entry : Entry) (record : Record) :
    entry.Spares { entry with data := entry.data.or (some record) } :=
  ⟨rfl, fun _ => by simp, Or.inl⟩

theorem changeData
    (entry : Entry) (change : Record → Record) :
    entry.Spares { entry with data := entry.data.map change } :=
  ⟨rfl, fun present => by rwa [Option.isSome_map], Or.inl⟩

theorem becomeTarget
    (entry : Entry) (record : Record) :
    entry.Spares { entry with isDuplicateTarget := entry.usedIn.isEmpty, data := some record } :=
  ⟨rfl, fun _ => rfl, fun unused => Or.inr (List.isEmpty_iff.mp unused)⟩

end Entry.Spares

namespace Index

/-- The indexes that come out of an index by changes of single entries of some trackers. -/
inductive Reworked (trackers : List Tracker) (before : Index) : Index → Prop
  | unchanged : Reworked trackers before before
  | update {after : Index} {issue : Reference} {change : Entry → Entry}
      (reworked : Reworked trackers before after) (belongs : issue.tracker ∈ trackers)
      (spares : ∀ entry : Entry, entry.Spares (change entry)) :
      Reworked trackers before (after.update issue change)

/-- Whether the targets of duplicates are not in use. -/
def TargetsUnused (index : Index) : Prop :=
  ∀ pair ∈ index.entries, pair.2.isDuplicateTarget = true → pair.2.usedIn = []

instance (index : Index) : Decidable index.TargetsUnused :=
  inferInstanceAs (Decidable (∀ pair ∈ index.entries, _))

namespace Reworked

variable {trackers : List Tracker} {before after : Index}

theorem trans
    {first second third : Index}
    (early : Reworked trackers first second) (late : Reworked trackers second third) :
    Reworked trackers first third := by
  induction late with
  | unchanged => exact early
  | update _ belongs spares inductionHypothesis => exact .update inductionHypothesis belongs spares

theorem mono
    {others : List Tracker}
    (reworked : Reworked trackers before after) (more : ∀ tracker ∈ trackers, tracker ∈ others) :
    Reworked others before after := by
  induction reworked with
  | unchanged => exact .unchanged
  | update _ belongs spares inductionHypothesis =>
    exact .update inductionHypothesis (more _ belongs) spares

/-- A row of changes, one for each item of a list. -/
theorem foldl
    {β : Type} {change : Index → β → Index} {items : List β} (index : Index)
    (each : ∀ item ∈ items, ∀ index, Reworked trackers index (change index item)) :
    Reworked trackers index (items.foldl change index) := by
  induction items generalizing index with
  | nil => exact .unchanged
  | cons item rest inductionHypothesis =>
    rw [List.foldl_cons]
    exact (each item List.mem_cons_self index).trans <|
      inductionHypothesis _ fun other member => each other (List.mem_cons_of_mem _ member)

theorem updateRecord
    (index : Index) {issue : Reference} (change : Record → Record)
    (belongs : issue.tracker ∈ trackers) :
    Reworked trackers index (index.updateRecord issue change) :=
  .update .unchanged belongs fun entry => .changeData entry change

theorem touch
    (index : Index) {issue : Reference} (belongs : issue.tracker ∈ trackers) :
    Reworked trackers index (index.touch issue) :=
  .update .unchanged belongs .refl

/-! ## What reworking leaves -/

theorem entry
    (reworked : Reworked trackers before after) (issue : Reference) :
    ((before.find? issue).getD {}).Spares ((after.find? issue).getD {}) := by
  induction reworked with
  | unchanged => exact .refl _
  | @update middle changed change _ _ spares inductionHypothesis =>
    rw [find?_update]
    by_cases same : issue = changed
    · rw [if_pos same, ← same, Option.getD_some]
      exact inductionHypothesis.trans (spares _)
    · rw [if_neg same]
      exact inductionHypothesis

theorem stays
    {issue : Reference} {entry : Entry}
    (reworked : Reworked trackers before after) (found : before.find? issue = some entry) :
    ∃ last, after.find? issue = some last := by
  induction reworked with
  | unchanged => exact ⟨entry, found⟩
  | @update middle changed change _ _ _ inductionHypothesis =>
    rw [find?_update]
    by_cases same : issue = changed
    · rw [if_pos same]
      exact ⟨_, rfl⟩
    · rw [if_neg same]
      exact inductionHypothesis

theorem others
    {issue : Reference}
    (reworked : Reworked trackers before after) (other : issue.tracker ∉ trackers) :
    after.find? issue = before.find? issue := by
  induction reworked with
  | unchanged => rfl
  | @update middle changed change _ belongs _ inductionHypothesis =>
    rw [find?_update, if_neg]
    · exact inductionHypothesis
    · rintro rfl
      exact other belongs

theorem targetsUnused
    (reworked : Reworked trackers before after) (unused : before.TargetsUnused) :
    after.TargetsUnused := by
  rintro ⟨issue, last⟩ member isTarget
  have found : after.find? issue = some last := (SortedMap.find?_eq_some_iff _ _ _).mpr member
  have spared := reworked.entry issue
  rw [found, Option.getD_some] at spared
  rw [spared.uses]
  rcases spared.target isTarget with wasTarget | wasUnused
  · cases earlier : before.find? issue with
    | none => rfl
    | some entry =>
      rw [earlier, Option.getD_some] at wasTarget
      exact unused (issue, entry) ((SortedMap.find?_eq_some_iff _ _ _).mp earlier) wasTarget
  · exact wasUnused

end Reworked

end Index

end Issue

/-! ## Steps on the index -/

namespace Session

theorem reworked_enter
    (index : Index) (tracker : Tracker) (records : List Record) :
    Index.Reworked [tracker] index (enter index tracker records) :=
  .foldl index fun record _ _ =>
    .update .unchanged List.mem_cons_self fun entry => .setData entry record

theorem reworked_fillGaps
    {tracker : Tracker} {issues : List Reference} (index : Index)
    (belong : ∀ issue ∈ issues, issue.tracker = tracker) :
    Index.Reworked [tracker] index (fillGaps index issues) :=
  .foldl index fun issue member _ =>
    .update .unchanged (List.mem_singleton.mpr (belong issue member)) fun entry =>
      .fillData entry _

theorem reworked_enterTarget
    (index : Index) (issue : Reference) (record : Record) :
    Index.Reworked [issue.tracker] index (enterTarget index issue record) :=
  .update .unchanged List.mem_cons_self fun entry => .becomeTarget entry record

theorem reworked_attachClones
    (session : Session) (clones : List Record) :
    Index.Reworked [.bugzilla] session.index
      (attachClones session.index session.cloneParents clones) :=
  .foldl session.index fun _ member index =>
    .updateRecord index _ (List.mem_singleton.mpr (mem_cloneParents_iff.mp member).1)

theorem reworked_judge
    {session after : Session} {tracker : Tracker}
    (outcome : session.judge tracker = .ok after) :
    Index.Reworked [tracker] session.index after.index := by
  obtain ⟨verdicts, rfl, keys, _⟩ := exists_verdicts_of_judge outcome
  refine .foldl session.index fun pair member index => ?_
  have isUnjudged : pair.1 ∈ session.unjudged tracker := keys ▸ List.mem_map_of_mem member
  exact .updateRecord index _ (List.mem_singleton.mpr (mem_unjudged_iff.mp isUnjudged).1)

end Session

/-! ## Parts of a run -/

/-- The issue that an operation is about, unless it is about all. -/
def Operation.issue? : Operation → Option Reference
  | .resolve => none
  | .ask query => some query.issue
  | .markDeselected issue => some issue

namespace Run

variable {σ : Type} (sources : IssueSources σ) (tracker : Tracker) (run : Run σ)

theorem reworked_ensureTarget
    (issue : Reference) :
    Index.Reworked [issue.tracker] run.session.index
      (run.ensureTarget sources issue).session.index := by
  rcases ensureTarget_cases sources issue run with ⟨_, same⟩ | ⟨record, after, _, _, _, same⟩
  · rw [same]
    exact .unchanged
  · rw [same]
    exact Session.reworked_enterTarget run.session.index issue record

theorem reworked_fetchTargets :
    Index.Reworked [tracker] run.session.index
      (run.fetchTargets sources tracker).session.index :=
  fetchTargets_induction sources tracker run
    (motive := fun after => Index.Reworked [tracker] run.session.index after.session.index)
    .unchanged fun before _ id _ reworked =>
      reworked.trans (reworked_ensureTarget sources before ⟨tracker, id⟩)

theorem reworked_fetchClones :
    Index.Reworked [.bugzilla] run.session.index (run.fetchClones sources).session.index := by
  rcases fetchClones_cases sources run with ⟨_, same⟩ | ⟨clones, after, _, _, same⟩
  · rw [same]
    exact .unchanged
  · rw [same]
    exact Session.reworked_attachClones run.session clones

theorem reworked_gather :
    Index.Reworked [tracker] run.session.index
      (run.gather sources tracker (run.session.pending tracker)).session.index := by
  have belong : ∀ issue ∈ run.session.pending tracker, issue.tracker = tracker :=
    fun issue member => (Session.mem_pending_iff.mp member).1
  simp only [gather, fetchBatch_index]
  generalize (run.note (.resolving tracker (run.session.pending tracker).length)).fetchBatch
    sources tracker ((run.session.pending tracker).map Reference.id) = result
  have entered := (Session.reworked_enter run.session.index tracker result.1).trans
    (Session.reworked_fillGaps _ belong)
  have chased := entered.trans (reworked_fetchTargets sources tracker (result.2.withIndex _))
  cases tracker with
  | jira => exact chased
  | bugzilla => exact chased.trans (reworked_fetchClones sources _)

theorem reworked_resolveTracker :
    Index.Reworked [tracker] run.session.index
      (run.resolveTracker sources tracker).2.session.index := by
  have gathered := reworked_gather sources tracker run
  rcases resolveTracker_cases sources tracker run with
    ⟨_, same⟩ | ⟨_, _, same⟩ | ⟨session, judging, same⟩
  · rw [same]
    exact .unchanged
  · rw [same]
    exact gathered
  · rw [same]
    exact gathered.trans (Session.reworked_judge judging)

theorem reworked_resolveTrackers
    (trackers : List Tracker) :
    Index.Reworked trackers run.session.index
      (resolveTrackers sources trackers run).2.session.index := by
  induction trackers generalizing run with
  | nil => exact .unchanged
  | cons tracker trackers inductionHypothesis =>
    have first : Index.Reworked (tracker :: trackers) run.session.index
        (run.resolveTracker sources tracker).2.session.index :=
      (reworked_resolveTracker sources tracker run).mono (by simp)
    rcases resolveTrackers_cases sources tracker trackers run with
      ⟨middle, step, same⟩ | ⟨_, middle, step, same⟩
    · rw [step] at first
      rw [same]
      have others := inductionHypothesis middle
      exact first.trans (others.mono fun other member => List.mem_cons_of_mem tracker member)
    · rw [step] at first
      rw [same]
      exact first

/-! ## Operations -/

theorem reworked_ask
    (query : Query) :
    Index.Reworked [query.issue.tracker] run.session.index
      (run.ask sources query).2.session.index := by
  have ensured : Index.Reworked [query.issue.tracker] run.session.index
      (run.ensure sources query.issue).2.session.index := by
    rw [ensure]
    by_cases known : (run.session.index.record? query.issue).isSome = true
    · rw [if_pos known]
      exact .unchanged
    · rw [if_neg known]
      have touched : Index.Reworked [query.issue.tracker] run.session.index
          (run.session.index.touch query.issue) :=
        .touch run.session.index List.mem_cons_self
      exact touched.trans (reworked_resolveTracker sources query.issue.tracker
        (run.withIndex (run.session.index.touch query.issue)))
  rwa [ask_run]

/-- An operation about one issue changes entries of its tracker only. -/
theorem reworked_perform_of_issue
    {operation : Operation} {about : Reference} (isAbout : operation.issue? = some about) :
    Index.Reworked [about.tracker] run.session.index
      (run.perform sources operation).session.index := by
  cases operation with
  | resolve => cases isAbout
  | ask query =>
    cases isAbout
    exact reworked_ask sources run query
  | markDeselected issue =>
    cases isAbout
    exact .updateRecord run.session.index _ List.mem_cons_self

theorem reworked_perform
    (operation : Operation) :
    Index.Reworked Tracker.all run.session.index
      (run.perform sources operation).session.index := by
  cases isAbout : operation.issue? with
  | some about =>
    exact (reworked_perform_of_issue sources run isAbout).mono fun other _ => other.mem_all
  | none =>
    cases operation with
    | resolve => exact reworked_resolveTrackers sources run Tracker.all
    | ask query => cases isAbout
    | markDeselected issue => cases isAbout

theorem reworked_performAll
    (operations : List Operation) :
    Index.Reworked Tracker.all run.session.index
      (run.performAll sources operations).session.index := by
  induction operations generalizing run with
  | nil => exact .unchanged
  | cons operation rest inductionHypothesis =>
    exact (reworked_perform sources run operation).trans (inductionHypothesis _)

end Run

/-! ## Uses and targets -/

/-- From any state of the resolver, whatever the trackers answer: entries stay with their uses and
with data, new entries have no uses, operations about an issue leave the other tracker's entries
alone, and targets of duplicates stay unused. -/
theorem operations_spare_uses
    {σ : Type} (sources : IssueSources σ) (start : Run σ) (operations : List Operation) :
    let after := start.performAll sources operations
    (∀ issue entry, start.session.index.find? issue = some entry →
        ∃ last, after.session.index.find? issue = some last ∧ last.usedIn = entry.usedIn ∧
          (entry.data.isSome = true → last.data.isSome = true)) ∧
      (∀ issue last, start.session.index.find? issue = none →
        after.session.index.find? issue = some last → last.usedIn = []) ∧
      (∀ operation about, operation.issue? = some about →
        ∀ issue, issue.tracker ≠ about.tracker →
          (after.perform sources operation).session.index.find? issue =
            after.session.index.find? issue) ∧
      (start.session.index.TargetsUnused → after.session.index.TargetsUnused) := by
  intro after
  have reworked := Run.reworked_performAll sources start operations
  refine ⟨fun issue entry found => ?_, fun issue last absent found => ?_, ?_,
    reworked.targetsUnused⟩
  · obtain ⟨last, isLast⟩ := reworked.stays found
    have spared := reworked.entry issue
    rw [found, isLast, Option.getD_some, Option.getD_some] at spared
    exact ⟨last, isLast, spared.uses, spared.data⟩
  · have spared := reworked.entry issue
    rw [absent] at spared
    replace found : (start.performAll sources operations).session.index.find? issue = some last :=
      found
    rw [found, Option.getD_some] at spared
    exact spared.uses
  · intro operation about isAbout issue other
    have changed := Run.reworked_perform_of_issue sources after isAbout
    exact changed.others (by simpa using other)

/-- A run about a duplicate that a test uses and an issue of the other tracker. -/
def usedStart : Run Unit where
  session :=
    { serverVersion := Version.zero
      policy := {}
      index :=
        (Index.ofIssues [⟨.bugzilla, "7"⟩, ⟨.jira, "A-1"⟩]).addUsage ⟨.bugzilla, "7"⟩
          { location := ⟨"tests/test_host.py", 3, "test_host"⟩, kind := "marker" } }
  world := { memory := () }

theorem operations_spare_uses_usedStart :
    let after := usedStart.performAll openWithDuplicate.toSources [.resolve]
    let marked := after.perform openWithDuplicate.toSources (.markDeselected ⟨.bugzilla, "7"⟩)
    after.session.index.usages ⟨.bugzilla, "7"⟩ = usedStart.session.index.usages ⟨.bugzilla, "7"⟩ ∧
      after.session.index.usages ⟨.bugzilla, "5"⟩ = [] ∧
      marked.session.index.find? ⟨.jira, "A-1"⟩ = after.session.index.find? ⟨.jira, "A-1"⟩ ∧
      after.session.index.TargetsUnused := by
  obtain ⟨stay, added, others, unused⟩ :=
    operations_spare_uses openWithDuplicate.toSources usedStart [.resolve]
  obtain ⟨entry, found⟩ : ∃ entry, usedStart.session.index.find? ⟨.bugzilla, "7"⟩ = some entry :=
    ⟨_, rfl⟩
  obtain ⟨last, isLast, sameUses, _⟩ := stay _ entry found
  obtain ⟨target, isTarget⟩ : ∃ target, (usedStart.performAll openWithDuplicate.toSources
      [.resolve]).session.index.find? ⟨.bugzilla, "5"⟩ = some target :=
    ⟨_, rfl⟩
  refine ⟨?_, ?_, ?_, unused (by decide +kernel)⟩
  · rw [Index.usages, Index.usages, found, isLast]
    exact sameUses
  · rw [Index.usages, isTarget]
    exact added _ target rfl isTarget
  · exact others _ ⟨.bugzilla, "7"⟩ rfl ⟨.jira, "A-1"⟩ (by decide)

end TestGate
