import TestGate.Proofs.Judging

/-!
The operations of the resolver as a whole. Main statements: each operation either succeeds and keeps
all that is known, or there is a pending issue with too many links; a look-up answers what the index
holds afterwards, and no later operation changes that answer.
-/

namespace TestGate

open Issue

/-! ## Indexes that grow -/

theorem Issue.Record.exists_mark
    (record : Record) :
    ∃ mark, record = { record with isDeselected := mark } :=
  ⟨record.isDeselected, by cases record; rfl⟩

namespace Issue.Index

/-- Whether the records of one index are in another, too, up to marks. -/
def Grows (before after : Index) : Prop :=
  ∀ issue record, before.record? issue = some record →
    ∃ mark, after.record? issue = some { record with isDeselected := mark }

namespace Grows

variable {before after : Index}

theorem of_keeps
    (keeps : before.Keeps after) :
    before.Grows after := by
  intro issue record known
  obtain ⟨mark, same⟩ := record.exists_mark
  exact ⟨mark, (keeps issue record known).trans (congrArg some same)⟩

theorem trans
    {first second third : Index}
    (early : first.Grows second) (late : second.Grows third) :
    first.Grows third := by
  intro issue record known
  obtain ⟨mark, secondKnown⟩ := early issue record known
  obtain ⟨thirdMark, thirdKnown⟩ := late issue _ secondKnown
  exact ⟨thirdMark, thirdKnown⟩

theorem isSome
    {issue : Reference}
    (grows : before.Grows after) (known : (before.record? issue).isSome = true) :
    (after.record? issue).isSome = true := by
  obtain ⟨record, found⟩ := Option.isSome_iff_exists.mp known
  obtain ⟨mark, afterFound⟩ := grows issue record found
  rw [afterFound]
  rfl

theorem decides
    {issue : Reference} {target : Record}
    (grows : before.Grows after) (decides : before.Decides issue target) :
    ∃ mark, after.Decides issue { target with isDeselected := mark } := by
  have sameLead : ∀ record other : Record,
      (∃ mark, other = { record with isDeselected := mark }) →
        other.duplicated? issue.tracker = record.duplicated? issue.tracker := by
    rintro record _ ⟨mark, rfl⟩
    rfl
  have replaced : ∀ id record, before.record? ⟨issue.tracker, id⟩ = some record →
      ∃ other, after.record? ⟨issue.tracker, id⟩ = some other ∧
        ∃ mark, other = { record with isDeselected := mark } := by
    intro id record known
    obtain ⟨mark, afterKnown⟩ := grows _ record known
    exact ⟨_, afterKnown, mark, rfl⟩
  obtain ⟨_, otherDecides, mark, rfl⟩ := decides.carry sameLead replaced
  exact ⟨mark, otherDecides⟩

/-- An answer once held is held for good. -/
theorem answers
    {issue : Reference} {answer : Finding}
    (grows : before.Grows after) (answers : before.Answers issue answer) :
    after.Answers issue answer := by
  obtain ⟨record, target, known, isOpen, decides, isObsolete⟩ := answers
  obtain ⟨mark, afterKnown⟩ := grows issue record known
  obtain ⟨targetMark, afterDecides⟩ := grows.decides decides
  exact ⟨_, _, afterKnown, isOpen, afterDecides, isObsolete⟩

theorem markDeselected
    (session : Session) (issue : Reference) :
    session.index.Grows (session.markDeselected issue).index := by
  intro other record known
  rw [Session.record?_markDeselected]
  split
  · rename_i same
    rw [← same, known]
    exact ⟨some true, rfl⟩
  · obtain ⟨mark, same⟩ := record.exists_mark
    exact ⟨mark, known.trans (congrArg some same)⟩

end Grows

end Issue.Index

variable {σ : Type} {sources : IssueSources σ}

namespace Discipline

variable {discipline : Discipline sources} {tracker : Tracker} {before after run : Run σ}

/-- All is well with an index without data. -/
theorem Sound.of_noData
    (versioned : run.session.serverVersion = discipline.version)
    (cached : run.session.cached = discipline.stock)
    (nothingRemembered : run.session.remembered = [])
    (calm : discipline.Calm run.world)
    (listed : ∀ issue, run.session.index.contains issue = true → discipline.Listed issue)
    (noData : ∀ issue, run.session.index.record? issue = none) :
    discipline.Sound run where
  feeds := ⟨versioned, cached, by simp [nothingRemembered], calm⟩
  listed := listed
  held tracker id record known := by
    rw [noData] at known
    cases known
  settled tracker id record known := by
    rw [noData] at known
    cases known

/-! ## Progress -/

/-- What an operation of the resolver does if it succeeds. -/
structure Progress (discipline : Discipline sources) (before after : Run σ) : Prop where
  sound : discipline.Sound after
  grows : before.session.index.Grows after.session.index
  contains : ∀ issue, before.session.index.contains issue = true →
    after.session.index.contains issue = true
  usages : ∀ issue, after.session.index.usages issue = before.session.index.usages issue
  filled : ∀ tracker, before.session.index.Filled tracker → after.session.index.Filled tracker

theorem Progress.refl
    (sound : discipline.Sound run) :
    discipline.Progress run run :=
  ⟨sound, .of_keeps (.refl _), fun _ present => present, fun _ => rfl, fun _ filled => filled⟩

theorem Progress.trans
    {first second third : Run σ}
    (early : discipline.Progress first second) (late : discipline.Progress second third) :
    discipline.Progress first third where
  sound := late.sound
  grows := early.grows.trans late.grows
  contains issue present := late.contains issue (early.contains issue present)
  usages issue := (late.usages issue).trans (early.usages issue)
  filled tracker filled := late.filled tracker (early.filled tracker filled)

theorem Resolved.progress
    (resolved : discipline.Resolved tracker before after) :
    discipline.Progress before after where
  sound := resolved.sound
  grows := .of_keeps resolved.keeps
  contains := resolved.frame.contains
  usages := resolved.frame.usages
  filled other filled := by
    by_cases belongs : other = tracker
    · exact belongs ▸ resolved.filled
    · intro id present
      rw [SortedMap.contains, resolved.frame.others _ belongs] at present
      rw [resolved.frame.record?_eq belongs]
      exact filled id present

/-- An issue that cannot be judged: in some index that is as it should be it has too many links. -/
def Overlong (discipline : Discipline sources) (issue : Reference) : Prop :=
  ∃ index : Index, index.Throughout issue.tracker discipline.Held ∧
    CanStep (index.link? issue.tracker) Index.longestChain issue.id

/-! ## Resolving -/

theorem Sound.resolveTracker
    (sound : discipline.Sound run) (tracker : Tracker) :
    (∃ after, run.resolveTracker sources tracker = (.ok (), after) ∧
        discipline.Resolved tracker run after) ∨
      ∃ failure after, run.resolveTracker sources tracker = (.error failure, after) ∧
        ∃ issue ∈ run.session.pending tracker, discipline.Overlong issue := by
  have gathered := sound.gather tracker
  rcases Run.resolveTracker_cases sources tracker run with
    ⟨nothing, same⟩ | ⟨failure, judging, same⟩ | ⟨session, judging, same⟩
  · refine Or.inl ⟨run, same, sound, .refl _, .refl _, fun id present => ?_⟩
    cases known : run.session.index.record? ⟨tracker, id⟩ with
    | some record => rfl
    | none =>
      have isPending := Session.mem_pending_iff.mpr ⟨rfl, present, known⟩
      rw [nothing] at isPending
      cases isPending
  · obtain ⟨id, present, unknown, steps⟩ :=
      gathered.canStep_of_error (sound.settled tracker) judging
    exact Or.inr ⟨failure, _, same, ⟨tracker, id⟩,
      Session.mem_pending_iff.mpr ⟨rfl, present, unknown⟩, _, gathered.held, steps⟩
  · exact Or.inl ⟨_, same, gathered.resolved sound (Session.isJudged_of_judge judging)⟩

theorem Sound.resolveTrackers
    (sound : discipline.Sound run) (trackers : List Tracker) :
    (∃ after, Run.resolveTrackers sources trackers run = (.ok (), after) ∧
        discipline.Progress run after ∧
          ∀ tracker ∈ trackers, after.session.index.Filled tracker) ∨
      ∃ failure after, Run.resolveTrackers sources trackers run = (.error failure, after) ∧
        ∃ tracker ∈ trackers, ∃ issue ∈ run.session.pending tracker,
          discipline.Overlong issue := by
  induction trackers generalizing run with
  | nil => exact Or.inl ⟨run, rfl, .refl sound, by simp⟩
  | cons first rest inductionHypothesis =>
    rw [Run.resolveTrackers]
    rcases sound.resolveTracker first with
      ⟨middle, outcome, resolved⟩ | ⟨failure, middle, outcome, issue, isPending, overlong⟩
    · rw [outcome]
      simp only
      rcases inductionHypothesis resolved.sound with
        ⟨after, others, progress, filled⟩ |
        ⟨failure, after, others, tracker, member, issue, isPending, overlong⟩
      · refine Or.inl ⟨after, others, resolved.progress.trans progress, fun tracker member => ?_⟩
        rcases List.mem_cons.mp member with rfl | inRest
        · exact progress.filled _ resolved.filled
        · exact filled tracker inRest
      · refine Or.inr ⟨failure, after, others, tracker, List.mem_cons_of_mem first member, issue,
          ?_, overlong⟩
        -- what is pending now was pending before
        obtain ⟨rfl, present, unknown⟩ := Session.mem_pending_iff.mp isPending
        by_cases belongs : issue.tracker = first
        · have filled := resolved.filled issue.id (belongs ▸ present)
          rw [← belongs] at filled
          replace filled : (middle.session.index.record? issue).isSome = true := filled
          rw [unknown] at filled
          cases filled
        · rw [SortedMap.contains, resolved.frame.others issue belongs] at present
          rw [resolved.frame.record?_eq belongs] at unknown
          exact Session.mem_pending_iff.mpr ⟨rfl, present, unknown⟩
    · rw [outcome]
      exact Or.inr ⟨failure, middle, rfl, first, List.mem_cons_self, issue, isPending, overlong⟩

/-- Resolving fills the index, or some pending issue has too many links. -/
theorem Sound.resolve
    (sound : discipline.Sound run) :
    (∃ after, run.resolve sources = (.ok (), after) ∧ discipline.Progress run after ∧
        ∀ tracker, after.session.index.Filled tracker) ∨
      ∃ failure after, run.resolve sources = (.error failure, after) ∧
        ∃ issue ∈ run.session.pending issue.tracker, discipline.Overlong issue := by
  rcases sound.resolveTrackers Tracker.all with
    ⟨after, outcome, progress, filled⟩ |
    ⟨failure, after, outcome, tracker, _, issue, isPending, overlong⟩
  · exact Or.inl ⟨after, outcome, progress, fun tracker => filled tracker tracker.mem_all⟩
  · refine Or.inr ⟨failure, after, outcome, issue, ?_, overlong⟩
    obtain ⟨rfl, _⟩ := Session.mem_pending_iff.mp isPending
    exact isPending

/-! ## Looking up -/

/-- An entry for one more issue leaves all well. -/
theorem Sound.touch
    {issue : Reference}
    (sound : discipline.Sound run) (listed : discipline.Listed issue) :
    discipline.Sound (run.withIndex (run.session.index.touch issue)) where
  feeds := sound.feeds.withIndex _
  listed other present := by
    rw [Run.withIndex, SortedMap.contains, Index.touch, Index.find?_update] at present
    split at present
    · rename_i same
      exact same ▸ listed
    · exact sound.listed other present
  held tracker id record known :=
    sound.held tracker id record ((Index.record?_touch _ issue _).symm.trans known)
  settled tracker := (sound.settled tracker).congr fun _ => Index.record?_touch _ issue _

theorem Resolved.progress_of_touch
    {issue : Reference}
    (resolved :
      discipline.Resolved issue.tracker (run.withIndex (run.session.index.touch issue)) after) :
    discipline.Progress run after := by
  have frame : Index.Frame issue.tracker run.session.index (run.session.index.touch issue) :=
    .update _ rfl fun _ => rfl
  have whole := frame.trans resolved.frame
  have fromStart : discipline.Resolved issue.tracker run after := by
    refine ⟨resolved.sound, whole, ?_, resolved.filled⟩
    intro other record known
    exact resolved.keeps other record ((Index.record?_touch _ issue other).trans known)
  exact fromStart.progress

/-- Making sure that something is known about an issue. -/
theorem Sound.ensure
    {issue : Reference}
    (sound : discipline.Sound run) (listed : discipline.Listed issue) :
    (∃ after, run.ensure sources issue = (.ok (), after) ∧ discipline.Progress run after ∧
        (after.session.index.record? issue).isSome = true) ∨
      ∃ failure after, run.ensure sources issue = (.error failure, after) ∧
        ∃ other, (other = issue ∨ other ∈ run.session.pending issue.tracker) ∧
          discipline.Overlong other := by
  rw [Run.ensure]
  by_cases known : (run.session.index.record? issue).isSome = true
  · rw [if_pos known]
    exact Or.inl ⟨run, rfl, .refl sound, known⟩
  · rw [if_neg known]
    rcases (sound.touch listed).resolveTracker issue.tracker with
      ⟨after, outcome, resolved⟩ | ⟨failure, after, outcome, other, isPending, overlong⟩
    · refine Or.inl ⟨after, outcome, resolved.progress_of_touch, ?_⟩
      refine resolved.filled issue.id (resolved.frame.contains issue ?_)
      rw [Run.withIndex, SortedMap.contains, Index.touch, Index.find?_update, if_pos rfl]
      rfl
    · refine Or.inr ⟨failure, after, outcome, other, ?_, overlong⟩
      obtain ⟨belongs, present, unknown⟩ := Session.mem_pending_iff.mp isPending
      rw [Run.withIndex, SortedMap.contains, Index.touch, Index.find?_update] at present
      split at present
      · rename_i same
        exact Or.inl same
      · exact Or.inr (Session.mem_pending_iff.mpr
          ⟨belongs, present, (Index.record?_touch _ issue other).symm.trans unknown⟩)

/-- A look-up answers what the index holds about the issue afterwards, or an issue has too many
links: the issue itself or one that was pending. -/
theorem Sound.lookUp
    {α : Type} {issue : Reference} {question : Session → Reference → Except Failure α}
    {reading : Finding → α}
    (sound : discipline.Sound run) (listed : discipline.Listed issue)
    (answered : ∀ {session : Session} {answer}, session.index.Settled issue.tracker →
      session.index.Answers issue answer → question session issue = .ok (reading answer)) :
    (∃ answer after, run.lookUp sources question issue = (.ok (reading answer), after) ∧
        discipline.Progress run after ∧ after.session.index.Answers issue answer) ∨
      ∃ failure after, run.lookUp sources question issue = (.error failure, after) ∧
        ∃ other, (other = issue ∨ other ∈ run.session.pending issue.tracker) ∧
          discipline.Overlong other := by
  rw [Run.lookUp]
  rcases sound.ensure listed with
    ⟨after, outcome, progress, known⟩ | ⟨failure, after, outcome, trouble⟩
  · obtain ⟨answer, answers⟩ := (progress.sound.settled issue.tracker).answers known
    refine Or.inl ⟨answer, after, ?_, progress, answers⟩
    rw [outcome]
    simp only
    rw [answered (progress.sound.settled issue.tracker) answers]
  · exact Or.inr ⟨failure, after, by rw [outcome], trouble⟩

theorem Sound.isOpen
    (sound : discipline.Sound run) (issue : Reference) (listed : discipline.Listed issue) :
    (∃ answer after, run.isOpen sources issue = (.ok answer.isOpen, after) ∧
        discipline.Progress run after ∧ after.session.index.Answers issue answer) ∨
      ∃ failure after, run.isOpen sources issue = (.error failure, after) ∧
        ∃ other, (other = issue ∨ other ∈ run.session.pending issue.tracker) ∧
          discipline.Overlong other :=
  sound.lookUp listed fun _ answers => Session.answers_openStatus answers

theorem Sound.shouldDeselect
    (sound : discipline.Sound run) (issue : Reference) (listed : discipline.Listed issue) :
    (∃ answer after, run.shouldDeselect sources issue = (.ok answer.isObsolete, after) ∧
        discipline.Progress run after ∧ after.session.index.Answers issue answer) ∨
      ∃ failure after, run.shouldDeselect sources issue = (.error failure, after) ∧
        ∃ other, (other = issue ∨ other ∈ run.session.pending issue.tracker) ∧
          discipline.Overlong other :=
  sound.lookUp listed fun settled answers => Session.answers_deselectStatus settled answers

/-! ## Marks -/

/-- A mark on an issue that the index holds to be obsolete leaves all well. -/
theorem Sound.markDeselected
    {issue : Reference} {answer : Finding}
    (sound : discipline.Sound run) (answers : run.session.index.Answers issue answer)
    (isObsolete : answer.isObsolete = true) :
    discipline.Progress run (run.markDeselected issue) := by
  obtain ⟨record, target, known, _, decides, obsolete⟩ := answers
  rw [isObsolete] at obsolete
  have records : ∀ other, (run.markDeselected issue).session.index.record? other =
      if other = issue then some { record with isDeselected := some true }
      else run.session.index.record? other := by
    intro other
    rw [Run.markDeselected, Session.record?_markDeselected, known]
    rfl
  have frame : Index.Frame issue.tracker run.session.index
      (run.markDeselected issue).session.index :=
    .updateRecord _ _ rfl
  have grows : run.session.index.Grows (run.markDeselected issue).session.index :=
    .markDeselected run.session issue
  have contained : ∀ other, (run.markDeselected issue).session.index.contains other = true →
      run.session.index.contains other = true := by
    intro other present
    rcases Session.contains_updateRecord present with before | rfl
    · exact before
    · exact Index.contains_of_record? known
  refine ⟨⟨sound.feeds.withIndex _, ?_, ?_, ?_⟩, grows, frame.contains, frame.usages, ?_⟩
  · exact fun other present => sound.listed other (contained other present)
  · intro tracker id other otherKnown
    replace otherKnown := (records _).symm.trans otherKnown
    split at otherKnown
    · rename_i same
      subst same
      rw [← Option.some.inj otherKnown]
      exact discipline.held_marked ⟨tracker, id⟩ (sound.held tracker) known decides obsolete
    · exact sound.held tracker id other otherKnown
  · intro tracker id other otherKnown
    replace otherKnown := (records _).symm.trans otherKnown
    split at otherKnown
    · rename_i same
      subst same
      rw [← Option.some.inj otherKnown]
      obtain ⟨hasVerdict, _⟩ := sound.settled tracker id record known
      obtain ⟨mark, afterDecides⟩ := grows.decides decides
      exact ⟨hasVerdict, _, afterDecides, fun given marked =>
        (Option.some.inj marked).symm.trans obsolete.symm⟩
    · obtain ⟨hasVerdict, otherTarget, otherDecides, agree⟩ :=
        sound.settled tracker id other otherKnown
      obtain ⟨mark, afterDecides⟩ := grows.decides otherDecides
      exact ⟨hasVerdict, _, afterDecides, agree⟩
  · intro tracker filled id present
    exact grows.isSome (filled id (contained _ present))

end Discipline

end TestGate
