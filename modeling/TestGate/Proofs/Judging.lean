import TestGate.Proofs.Gathering
import TestGate.Proofs.Results

/-!
Verdicts. What a session answers about the issues of a settled index, and what judging does to an
index after gathering. Main statement: judging succeeds unless some issue has too many links, and
leaves the tracker's part of the index settled.
-/

namespace TestGate

open Issue

/-! ## Answers -/

/-- What the resolver finds out about an issue. -/
structure Finding where
  isOpen : Bool
  isObsolete : Bool
deriving DecidableEq, Repr

namespace Issue.Index

/-- Whether an index holds this answer about an issue. -/
def Answers (index : Index) (issue : Reference) (answer : Finding) : Prop :=
  ∃ record target,
    index.record? issue = some record ∧ record.isOpen = some answer.isOpen ∧
      index.Decides issue target ∧ target.isObsolete issue.tracker = answer.isObsolete

theorem Answers.unique
    {index : Index} {issue : Reference} {answer other : Finding}
    (answers : index.Answers issue answer) (otherAnswers : index.Answers issue other) :
    answer = other := by
  obtain ⟨record, target, known, isOpen, decides, isObsolete⟩ := answers
  obtain ⟨otherRecord, otherTarget, otherKnown, otherIsOpen, otherDecides, otherIsObsolete⟩ :=
    otherAnswers
  rw [known, Option.some.injEq] at otherKnown
  rw [← otherKnown, isOpen, Option.some.injEq] at otherIsOpen
  rw [← decides.unique otherDecides, isObsolete] at otherIsObsolete
  cases answer
  cases other
  simp_all

theorem Settled.answers
    {index : Index} {issue : Reference}
    (settled : index.Settled issue.tracker) (known : (index.record? issue).isSome = true) :
    ∃ answer, index.Answers issue answer := by
  obtain ⟨record, found⟩ := Option.isSome_iff_exists.mp known
  obtain ⟨judged, target, decides, _⟩ := settled issue.id record found
  obtain ⟨verdict, isOpen⟩ := Option.isSome_iff_exists.mp judged
  exact ⟨⟨verdict, target.isObsolete issue.tracker⟩, record, target, found, isOpen, decides, rfl⟩

end Issue.Index

namespace Session

variable {session after : Session} {tracker : Tracker} {issue : Reference}

theorem openStatus_of_verdict
    {record : Record} {verdict : Bool}
    (known : session.index.record? issue = some record) (judged : record.isOpen = some verdict) :
    session.openStatus issue = .ok verdict := by
  simp only [openStatus, known, judged]

theorem openStatus_of_decides
    {record target : Record}
    (known : session.index.record? issue = some record) (unjudged : record.isOpen = none)
    (decides : session.index.Decides issue target) :
    session.openStatus issue =
      .ok (target.isOpen.getD (target.affects issue.tracker session.serverVersion)) := by
  simp only [openStatus, known, unjudged, Index.canonical_of_decides decides]
  rfl

theorem openStatus_of_canonical_error
    {record : Record} {other : Failure}
    (known : session.index.record? issue = some record) (unjudged : record.isOpen = none)
    (failed : session.index.canonical issue = .error other) :
    session.openStatus issue = .error other := by
  simp only [openStatus, known, unjudged, failed]
  rfl

/-- A settled index answers whether tests are dropped by the record that decides. -/
theorem deselectStatus_of_settled
    {record target : Record}
    (settled : session.index.Settled issue.tracker)
    (known : session.index.record? issue = some record)
    (decides : session.index.Decides issue target) :
    session.deselectStatus issue = .ok (target.isObsolete issue.tracker) := by
  have marksAgree : ∀ mark, record.isDeselected = some mark →
      mark = target.isObsolete issue.tracker := by
    intro mark marked
    obtain ⟨_, other, otherDecides, agree⟩ := settled issue.id record known
    rw [agree mark marked, otherDecides.unique decides]
  have targetMarks : target.isDeselected.getD (target.isObsolete issue.tracker) =
      target.isObsolete issue.tracker := by
    cases marked : target.isDeselected with
    | none => rfl
    | some mark =>
      obtain ⟨id, targetKnown, itself⟩ := decides.last
      obtain ⟨_, other, otherDecides, agree⟩ := settled id target targetKnown
      rw [Option.getD_some, agree mark marked, otherDecides.unique itself]
  simp only [deselectStatus, known]
  cases marked : record.isDeselected with
  | some mark =>
    simp only
    rw [marksAgree mark marked]
  | none =>
    simp only [Index.canonical_of_decides decides]
    exact congrArg Except.ok targetMarks

theorem answers_openStatus
    {answer : Finding}
    (answers : session.index.Answers issue answer) :
    session.openStatus issue = .ok answer.isOpen := by
  obtain ⟨record, _, known, isOpen, _⟩ := answers
  exact openStatus_of_verdict known isOpen

theorem answers_deselectStatus
    {answer : Finding}
    (settled : session.index.Settled issue.tracker)
    (answers : session.index.Answers issue answer) :
    session.deselectStatus issue = .ok answer.isObsolete := by
  obtain ⟨record, target, known, _, decides, isObsolete⟩ := answers
  rw [deselectStatus_of_settled settled known decides, isObsolete]

/-! ## Judging -/

/-- The record of an issue as it is after judging. -/
def judged (session : Session) (tracker : Tracker) (issue : Reference) (record : Record) : Record :=
  if issue.tracker = tracker ∧ record.isOpen = none then
    { record with isOpen := (session.openStatus issue).toOption }
  else
    record

/-- What the success of judging tells. -/
structure IsJudged (session : Session) (tracker : Tracker) (after : Session) : Prop where
  same : after = { session with index := after.index }
  frame : Index.Frame tracker session.index after.index
  contained : ∀ issue, after.index.contains issue = true → session.index.contains issue = true
  records : ∀ issue, after.index.record? issue =
    (session.index.record? issue).map (session.judged tracker issue)
  succeeded : ∀ issue ∈ session.unjudged tracker, ∃ verdict, session.openStatus issue = .ok verdict

theorem judged_of_other
    {record : Record}
    (other : issue.tracker ≠ tracker) :
    session.judged tracker issue record = record := by
  rw [judged, if_neg]
  exact fun both => other both.1

theorem judged_of_verdict
    {record : Record}
    (hasVerdict : record.isOpen.isSome = true) :
    session.judged tracker issue record = record := by
  rw [judged, if_neg]
  rintro ⟨_, unjudged⟩
  rw [unjudged] at hasVerdict
  cases hasVerdict

/-- Judging changes nothing but the verdict. -/
theorem judged_eq
    (session : Session) (tracker : Tracker) (issue : Reference) (record : Record) :
    ∃ verdict, session.judged tracker issue record = { record with isOpen := verdict } := by
  rw [judged]
  split
  · exact ⟨_, rfl⟩
  · exact ⟨record.isOpen, by cases record; rfl⟩

theorem duplicated?_judged
    (session : Session) (tracker : Tracker) (issue : Reference) (record : Record)
    (other : Tracker) :
    (session.judged tracker issue record).duplicated? other = record.duplicated? other := by
  obtain ⟨verdict, same⟩ := session.judged_eq tracker issue record
  rw [same]
  rfl

/-- The verdicts that judging enters are those that are found out, one for each issue without. -/
theorem exists_verdicts_of_judge
    (outcome : session.judge tracker = .ok after) :
    ∃ verdicts, after = { session with index := enterVerdicts session.index verdicts } ∧
      verdicts.map Prod.fst = session.unjudged tracker ∧
        ∀ pair ∈ verdicts, session.openStatus pair.1 = .ok pair.2 := by
  rw [judge, Results.bind_eq_ok_iff] at outcome
  obtain ⟨verdicts, allOk, result⟩ := outcome
  have paired : ∀ {issue : Reference} {pair : Reference × Bool},
      (do return (issue, ← session.openStatus issue) : Except Failure _) = .ok pair →
        pair.1 = issue ∧ session.openStatus issue = .ok pair.2 := by
    intro issue pair ok
    obtain ⟨verdict, status, made⟩ := Results.bind_eq_ok_iff.mp ok
    cases Except.ok.inj made
    exact ⟨rfl, status⟩
  have sameKeys : List.Forall₂ Eq (session.unjudged tracker) (verdicts.map Prod.fst) :=
    List.forall₂_map_right_iff.mpr <|
      (Results.mapM_eq_ok_iff.mp allOk).imp fun _ _ ok => (paired ok).1.symm
  rw [List.forall₂_eq_eq_eq] at sameKeys
  refine ⟨verdicts, (Except.ok.inj result).symm, sameKeys.symm, fun pair member => ?_⟩
  obtain ⟨issue, _, ok⟩ := Results.mem_of_mapM_eq_ok allOk member
  obtain ⟨same, status⟩ := paired ok
  rw [same, status]

theorem record?_enterVerdicts
    {verdicts : List (Reference × Bool)}
    (keys : verdicts.map Prod.fst = session.unjudged tracker)
    (isStatus : ∀ pair ∈ verdicts, session.openStatus pair.1 = .ok pair.2) (issue : Reference) :
    (enterVerdicts session.index verdicts).record? issue =
      (session.index.record? issue).map (session.judged tracker issue) := by
  rw [enterVerdicts_eq, Index.record?_foldl_updateRecord
    (fun verdict record => { record with isOpen := some verdict }) session.index
    (keys ▸ session.unjudged_nodup tracker)]
  cases found : verdicts.find? fun pair => pair.1 = issue with
  | some pair =>
    have same : pair.1 = issue := by simpa using List.find?_some found
    have member := List.mem_of_find?_eq_some found
    have isUnjudged : pair.1 ∈ session.unjudged tracker := keys ▸ List.mem_map_of_mem member
    rw [same] at isUnjudged
    obtain ⟨belongs, record, known, noVerdict⟩ := mem_unjudged_iff.mp isUnjudged
    have status := isStatus pair member
    rw [same] at status
    simp only [known, Option.map_some, judged, if_pos (And.intro belongs noVerdict), status,
      Except.toOption]
  | none =>
    -- without a verdict to enter the issue has one already, or is another tracker's
    cases known : session.index.record? issue with
    | none => rfl
    | some record =>
      rw [List.find?_eq_none] at found
      rw [Option.map_some, judged, if_neg]
      rintro ⟨belongs, noVerdict⟩
      have isUnjudged := mem_unjudged_iff.mpr ⟨belongs, record, known, noVerdict⟩
      rw [← keys] at isUnjudged
      obtain ⟨pair, member, same⟩ := List.mem_map.mp isUnjudged
      simpa [same] using found pair member

theorem isJudged_of_judge
    (outcome : session.judge tracker = .ok after) :
    session.IsJudged tracker after := by
  obtain ⟨verdicts, rfl, keys, isStatus⟩ := exists_verdicts_of_judge outcome
  have enter_eq := enterVerdicts_eq session.index verdicts
  refine ⟨rfl, ?_, ?_, record?_enterVerdicts keys isStatus, ?_⟩
  · simp only [enter_eq]
    refine Index.Frame.foldl_updateRecord
      (fun verdict record => { record with isOpen := some verdict }) session.index ?_
    intro pair member
    have isUnjudged : pair.1 ∈ session.unjudged tracker := keys ▸ List.mem_map_of_mem member
    exact (mem_unjudged_iff.mp isUnjudged).1
  · intro issue present
    simp only [enter_eq] at present
    rcases contains_foldl_updateRecord
      (fun verdict record => { record with isOpen := some verdict }) present with before | member
    · exact before
    · rw [keys] at member
      obtain ⟨_, record, known, _⟩ := mem_unjudged_iff.mp member
      exact Index.contains_of_record? known
  · intro issue isUnjudged
    rw [← keys] at isUnjudged
    obtain ⟨pair, member, rfl⟩ := List.mem_map.mp isUnjudged
    exact ⟨pair.2, isStatus pair member⟩

theorem error_of_judge
    {failure : Failure}
    (outcome : session.judge tracker = .error failure) :
    ∃ issue ∈ session.unjudged tracker, session.openStatus issue = .error failure := by
  rw [judge] at outcome
  cases verdicts : ((session.unjudged tracker).mapM fun issue =>
      (do return (issue, ← session.openStatus issue) : Except Failure _)) with
  | ok pairs =>
    rw [verdicts] at outcome
    cases outcome
  | error other =>
    rw [verdicts] at outcome
    cases outcome
    obtain ⟨issue, member, failed⟩ := Results.mapM_eq_error verdicts
    refine ⟨issue, member, ?_⟩
    cases status : session.openStatus issue with
    | ok verdict =>
      rw [status] at failed
      cases failed
    | error other =>
      rw [status] at failed
      cases failed
      rfl

end Session

/-! ## Judging what was gathered -/

namespace Issue.Index

/-- Whether an index is settled depends on the records of the tracker only. -/
theorem Settled.congr
    {before after : Index} {tracker : Tracker}
    (settled : before.Settled tracker)
    (same : ∀ id, after.record? ⟨tracker, id⟩ = before.record? ⟨tracker, id⟩) :
    after.Settled tracker := by
  intro id record known
  obtain ⟨judged, target, decides, agree⟩ := settled id record ((same id).symm.trans known)
  obtain ⟨other, otherDecides, rfl⟩ :=
    decides.carry (fun _ _ equal => by rw [equal]) fun other otherRecord otherKnown =>
      ⟨otherRecord, (same other).trans otherKnown, rfl⟩
  exact ⟨judged, target, otherDecides, agree⟩

end Issue.Index

variable {σ : Type} {sources : IssueSources σ}

namespace Discipline

variable {discipline : Discipline sources} {tracker : Tracker} {start : Index} {run : Run σ}

/-- A record with a verdict has a chain that can be followed. -/
theorem Gathered.short_of_judged
    {id : String} {record : Record}
    (gathered : discipline.Gathered tracker start run) (settled : start.Settled tracker)
    (known : run.session.index.record? ⟨tracker, id⟩ = some record)
    (judged : record.isOpen.isSome = true) :
    ¬ CanStep (run.session.index.link? tracker) Index.longestChain id := by
  cases before : start.record? ⟨tracker, id⟩ with
  | none =>
    exact discipline.short_of_judged ⟨tracker, id⟩ gathered.held known
      (gathered.ready id record before known) judged
  | some earlier =>
    obtain ⟨_, target, decides, _⟩ := settled id earlier before
    exact (decides.keeps gathered.keeps).not_canStep

/-- Where too many links can be followed there is no verdict to be found. -/
theorem Gathered.openStatus_fails
    {id : String}
    (gathered : discipline.Gathered tracker start run) (settled : start.Settled tracker)
    (steps : CanStep (run.session.index.follow? tracker) Index.longestChain id)
    (known : (run.session.index.record? ⟨tracker, id⟩).isSome = true) :
    (⟨tracker, id⟩ : Reference) ∈ run.session.unjudged tracker ∧
      ∃ failure, run.session.openStatus ⟨tracker, id⟩ = .error failure := by
  obtain ⟨record, found⟩ := Option.isSome_iff_exists.mp known
  have linkSteps : CanStep (run.session.index.link? tracker) Index.longestChain id :=
    steps.grow fun _ _ leads => (Index.follow?_eq_some_iff.mp leads).1
  have unjudged : record.isOpen = none := by
    cases verdict : record.isOpen with
    | none => rfl
    | some value =>
      exact absurd linkSteps (gathered.short_of_judged settled found (by rw [verdict]; rfl))
  obtain ⟨failure, failed⟩ := Index.canonical_of_canStep ⟨tracker, id⟩ steps known
  exact ⟨Session.mem_unjudged_iff.mpr ⟨rfl, record, found, unjudged⟩, failure,
    Session.openStatus_of_canonical_error found unjudged failed⟩

/-- If all issues without a verdict can be judged, all links of the tracker lead to records. -/
theorem Gathered.closed
    (gathered : discipline.Gathered tracker start run) (settled : start.Settled tracker)
    (succeeded : ∀ issue ∈ run.session.unjudged tracker,
      ∃ verdict, run.session.openStatus issue = .ok verdict) :
    run.session.index.Closed tracker := by
  refine gathered.complete.resolve_right ?_
  rintro ⟨source, steps⟩
  have known : (run.session.index.record? ⟨tracker, source⟩).isSome = true := by
    obtain ⟨next, leads, _⟩ := steps
    obtain ⟨record, found, _⟩ := Index.record?_of_link? leads
    rw [found]
    rfl
  obtain ⟨member, failure, failed⟩ :=
    gathered.openStatus_fails settled (Index.canStep_follow? steps) known
  obtain ⟨verdict, ok⟩ := succeeded _ member
  rw [failed] at ok
  cases ok

/-- ... and every issue of the tracker is decided. -/
theorem Gathered.decides
    (gathered : discipline.Gathered tracker start run) (settled : start.Settled tracker)
    (succeeded : ∀ issue ∈ run.session.unjudged tracker,
      ∃ verdict, run.session.openStatus issue = .ok verdict)
    (id : String) (known : (run.session.index.record? ⟨tracker, id⟩).isSome = true) :
    ∃ target, run.session.index.Decides ⟨tracker, id⟩ target := by
  have closed := gathered.closed settled succeeded
  refine Index.Closed.decides ⟨tracker, id⟩ closed known fun steps => ?_
  rw [← closed.follow?_eq] at steps
  obtain ⟨member, failure, failed⟩ := gathered.openStatus_fails settled steps known
  obtain ⟨verdict, ok⟩ := succeeded _ member
  rw [failed] at ok
  cases ok

/-- If judging fails, then at an issue that was pending and has too many links. -/
theorem Gathered.canStep_of_error
    {failure : Failure}
    (gathered : discipline.Gathered tracker start run) (settled : start.Settled tracker)
    (outcome : run.session.judge tracker = .error failure) :
    ∃ id, start.contains ⟨tracker, id⟩ = true ∧ start.record? ⟨tracker, id⟩ = none ∧
      CanStep (run.session.index.link? tracker) Index.longestChain id := by
  obtain ⟨⟨other, id⟩, member, failed⟩ := Session.error_of_judge outcome
  obtain ⟨rfl, record, known, unjudged⟩ := Session.mem_unjudged_iff.mp member
  have isKnown : (run.session.index.record? ⟨other, id⟩).isSome = true := by rw [known]; rfl
  -- some issue has too many links
  obtain ⟨source, sourceKnown, steps⟩ :
      ∃ source, (run.session.index.record? ⟨other, source⟩).isSome = true ∧
        CanStep (run.session.index.link? other) Index.longestChain source := by
    rcases gathered.complete with closed | ⟨source, steps⟩
    · refine ⟨id, isKnown, Classical.byContradiction fun short => ?_⟩
      obtain ⟨target, decides⟩ :=
        Index.Closed.decides ⟨other, id⟩ closed isKnown short
      rw [Session.openStatus_of_decides known unjudged decides] at failed
      cases failed
    · refine ⟨source, ?_, steps.mono (Nat.le_succ _)⟩
      obtain ⟨next, leads, _⟩ := steps
      obtain ⟨sourceRecord, found, _⟩ := Index.record?_of_link? leads
      rw [found]
      rfl
  obtain ⟨origin, present, way⟩ := gathered.reached source sourceKnown
  have originSteps := steps.of_reaches way
  refine ⟨origin, present, ?_, originSteps⟩
  cases before : start.record? ⟨other, origin⟩ with
  | none => rfl
  | some earlier =>
    obtain ⟨_, target, decides, _⟩ := settled origin earlier before
    exact absurd originSteps (decides.keeps gathered.keeps).not_canStep

/-- What the success of resolving a tracker's issues brings about. -/
structure Resolved
    (discipline : Discipline sources) (tracker : Tracker) (before after : Run σ) : Prop where
  sound : discipline.Sound after
  frame : Index.Frame tracker before.session.index after.session.index
  keeps : before.session.index.Keeps after.session.index
  filled : after.session.index.Filled tracker

section Judged

variable {before : Run σ} {session : Session}

theorem Gathered.keeps_judged
    (sound : discipline.Sound before)
    (gathered : discipline.Gathered tracker before.session.index run)
    (judged : run.session.IsJudged tracker session) :
    before.session.index.Keeps session.index := by
  intro issue record known
  rw [judged.records, gathered.keeps issue record known, Option.map_some]
  by_cases belongs : issue.tracker = tracker
  · obtain ⟨hasVerdict, _⟩ := sound.settled tracker issue.id record (belongs ▸ known)
    rw [Session.judged_of_verdict hasVerdict]
  · rw [Session.judged_of_other belongs]

/-- Records without a verdict are new. -/
theorem Gathered.ready_of_unjudged
    (settled : start.Settled tracker) (gathered : discipline.Gathered tracker start run) :
    run.session.index.Throughout tracker
      (fun issue record => record.isOpen = none → discipline.Ready issue record) := by
  intro id record known unjudged
  cases earlier : start.record? ⟨tracker, id⟩ with
  | none => exact gathered.ready id record earlier known
  | some earlierRecord =>
    have same := (gathered.keeps _ _ earlier).symm.trans known
    rw [Option.some.injEq] at same
    obtain ⟨hasVerdict, _⟩ := settled id earlierRecord earlier
    rw [same, unjudged] at hasVerdict
    cases hasVerdict

theorem Gathered.held_judged
    (settled : start.Settled tracker) (gathered : discipline.Gathered tracker start run)
    (judged : run.session.IsJudged tracker session) :
    session.index.Throughout tracker discipline.Held := by
  intro id record known
  replace known := (judged.records _).symm.trans known
  obtain ⟨raw, rawKnown, rfl⟩ := Option.map_eq_some_iff.mp known
  cases verdict : raw.isOpen with
  | some value =>
    rw [Session.judged_of_verdict (by rw [verdict]; rfl)]
    exact gathered.held id raw rawKnown
  | none =>
    obtain ⟨target, decides⟩ :=
      gathered.decides settled judged.succeeded id (by rw [rawKnown]; rfl)
    rw [Session.judged, if_pos ⟨rfl, verdict⟩,
      Session.openStatus_of_decides rawKnown verdict decides, gathered.feeds.versioned]
    exact discipline.held_verdict ⟨tracker, id⟩ gathered.held (gathered.ready_of_unjudged settled)
      rawKnown verdict decides

/-- The mark on a record agrees with the record that decides. -/
theorem Gathered.mark
    {id : String} {record target : Record} {mark : Bool}
    (settled : start.Settled tracker) (gathered : discipline.Gathered tracker start run)
    (known : run.session.index.record? ⟨tracker, id⟩ = some record)
    (decides : run.session.index.Decides ⟨tracker, id⟩ target)
    (marked : record.isDeselected = some mark) :
    mark = target.isObsolete tracker := by
  cases earlier : start.record? ⟨tracker, id⟩ with
  | none =>
    exact discipline.mark_of_ready ⟨tracker, id⟩ gathered.held known
      (gathered.ready id record earlier known) decides marked
  | some earlierRecord =>
    have same := (gathered.keeps _ _ earlier).symm.trans known
    rw [Option.some.injEq] at same
    obtain ⟨_, earlierTarget, earlierDecides, agree⟩ := settled id earlierRecord earlier
    rw [decides.unique (earlierDecides.keeps gathered.keeps)]
    exact agree mark (same ▸ marked)

theorem Gathered.settled_judged
    (settled : start.Settled tracker) (gathered : discipline.Gathered tracker start run)
    (judged : run.session.IsJudged tracker session) :
    session.index.Settled tracker := by
  intro id record known
  replace known := (judged.records _).symm.trans known
  obtain ⟨raw, rawKnown, rfl⟩ := Option.map_eq_some_iff.mp known
  obtain ⟨target, decides⟩ :=
    gathered.decides settled judged.succeeded id (by rw [rawKnown]; rfl)
  have replaced : ∀ node nodeRecord,
      run.session.index.record? ⟨tracker, node⟩ = some nodeRecord →
        ∃ other, session.index.record? ⟨tracker, node⟩ = some other ∧
          ∃ verdict, other = { nodeRecord with isOpen := verdict } := by
    intro node nodeRecord nodeKnown
    refine ⟨_, ?_, run.session.judged_eq tracker ⟨tracker, node⟩ nodeRecord⟩
    rw [judged.records, nodeKnown, Option.map_some]
  have sameLead : ∀ record other : Record, (∃ verdict, other = { record with isOpen := verdict }) →
      other.duplicated? tracker = record.duplicated? tracker := by
    rintro record _ ⟨verdict, rfl⟩
    rfl
  obtain ⟨after, afterDecides, targetVerdict, rfl⟩ := decides.carry sameLead replaced
  refine ⟨?_, _, afterDecides, ?_⟩
  · cases verdict : raw.isOpen with
    | some value =>
      rw [Session.judged_of_verdict (by rw [verdict]; rfl), verdict]
      rfl
    | none =>
      obtain ⟨value, status⟩ :=
        judged.succeeded _ (Session.mem_unjudged_iff.mpr ⟨rfl, raw, rawKnown, verdict⟩)
      rw [Session.judged, if_pos ⟨rfl, verdict⟩, status]
      rfl
  · intro mark marked
    obtain ⟨verdict, same⟩ := run.session.judged_eq tracker ⟨tracker, id⟩ raw
    rw [same] at marked
    have agree : mark = target.isObsolete tracker :=
      gathered.mark settled rawKnown decides marked
    exact agree

/-- Judging brings gathering to its end. -/
theorem Gathered.resolved
    (sound : discipline.Sound before)
    (gathered : discipline.Gathered tracker before.session.index run)
    (judged : run.session.IsJudged tracker session) :
    discipline.Resolved tracker before { run with session := session } := by
  have settled := sound.settled tracker
  have frame : Index.Frame tracker before.session.index session.index :=
    gathered.frame.trans judged.frame
  refine ⟨⟨?_, ?_, ?_, ?_⟩, frame, gathered.keeps_judged sound judged, ?_⟩
  · have feeds := gathered.feeds.withIndex session.index
    rw [Run.withIndex, ← judged.same] at feeds
    exact feeds
  · exact fun issue present => gathered.listed issue (judged.contained issue present)
  · intro other
    by_cases belongs : other = tracker
    · exact belongs ▸ gathered.held_judged settled judged
    · intro id record known
      exact sound.held other id record ((frame.record?_eq belongs).symm.trans known)
  · intro other
    by_cases belongs : other = tracker
    · exact belongs ▸ gathered.settled_judged settled judged
    · exact (sound.settled other).congr fun id => frame.record?_eq belongs
  · intro id present
    have filled := gathered.filled id (judged.contained _ present)
    rw [judged.records, Option.isSome_map]
    exact filled

end Judged

end Discipline

end TestGate
