import TestGate.Proofs.Knowledge
import TestGate.Proofs.Upkeep

/-!
Resolving is safe against its trackers, whatever they answer. Main statement: it fails for nothing
but a malformed chain of duplicates; when it succeeds every entry of the index has a verdict, and an
issue that nobody has said anything about is open and not obsolete.
-/

namespace TestGate

open Issue

/-! ## Why resolving fails -/

namespace Issue.Index

theorem walk_error
    {index : Index} {start : Reference} {more : Nat} {passed : List Reference} {record : Record}
    {failure : Failure}
    (failed : index.walk start more passed record = .error failure) :
    ∃ chain, failure = .malformedDuplicateChain start.toText chain := by
  induction more generalizing passed record with
  | zero =>
    rw [walk] at failed
    cases onward : index.successor? start.tracker record with
    | none => simp [onward] at failed
    | some next =>
      simp only [onward, Except.error.injEq] at failed
      exact ⟨_, failed.symm⟩
  | succ more inductionHypothesis =>
    rw [walk] at failed
    cases onward : index.successor? start.tracker record with
    | none => simp [onward] at failed
    | some next =>
      simp only [onward] at failed
      by_cases again : passed.contains next.1 = true
      · simp only [again, if_true, Except.error.injEq] at failed
        exact ⟨_, failed.symm⟩
      · simp only [again, Bool.false_eq_true, if_false] at failed
        exact inductionHypothesis failed

theorem canonical_error
    {index : Index} {issue : Reference} {failure : Failure}
    (failed : index.canonical issue = .error failure) :
    ∃ chain, failure = .malformedDuplicateChain issue.toText chain := by
  rw [canonical] at failed
  cases known : index.record? issue with
  | none => simp [known] at failed
  | some record =>
    simp only [known] at failed
    cases walked : index.walk issue (longestChain - 1) [issue] record with
    | ok target =>
      rw [walked] at failed
      cases failed
    | error other =>
      rw [walked] at failed
      cases failed
      exact walk_error walked

end Issue.Index

theorem Session.openStatus_error
    {session : Session} {issue : Reference} {failure : Failure}
    (failed : session.openStatus issue = .error failure) :
    ∃ chain, failure = .malformedDuplicateChain issue.toText chain := by
  cases known : session.index.record? issue with
  | none => simp [openStatus, known] at failed
  | some record =>
    cases judged : record.isOpen with
    | some verdict => simp [openStatus, known, judged] at failed
    | none =>
      cases walked : session.index.canonical issue with
      | error other =>
        rw [openStatus_of_canonical_error known judged walked] at failed
        cases failed
        exact Index.canonical_error walked
      | ok target =>
        simp only [openStatus, known, judged, walked] at failed
        cases failed

namespace Run

variable {σ : Type} {sources : IssueSources σ} {run after : Run σ} {tracker : Tracker}

theorem resolveTracker_error
    {failure : Failure}
    (failed : run.resolveTracker sources tracker = (.error failure, after)) :
    ∃ issue chain, failure = .malformedDuplicateChain (Reference.toText issue) chain := by
  rcases resolveTracker_cases sources tracker run with
    ⟨_, same⟩ | ⟨other, judging, same⟩ | ⟨session, _, same⟩
  · rw [same] at failed
    cases failed
  · rw [same] at failed
    cases failed
    obtain ⟨issue, _, status⟩ := Session.error_of_judge judging
    exact ⟨issue, Session.openStatus_error status⟩
  · rw [same] at failed
    cases failed

theorem resolveTrackers_error
    {trackers : List Tracker} {failure : Failure}
    (failed : (resolveTrackers sources trackers run).1 = .error failure) :
    ∃ issue chain, failure = .malformedDuplicateChain (Reference.toText issue) chain := by
  induction trackers generalizing run with
  | nil => simp [resolveTrackers] at failed
  | cons tracker trackers inductionHypothesis =>
    rcases resolveTrackers_cases sources tracker trackers run with
      ⟨middle, _, same⟩ | ⟨other, middle, step, same⟩
    · rw [same] at failed
      exact inductionHypothesis failed
    · rw [same] at failed
      cases failed
      exact resolveTracker_error step

end Run

/-! ## What a success leaves behind -/

/-- Whether every entry of a tracker has a record, and every record a verdict. -/
structure Issue.Index.Complete (index : Index) (tracker : Tracker) : Prop where
  filled : index.Filled tracker
  judged : index.Throughout tracker fun _ record => record.isOpen.isSome = true

/-- An index without data says nothing that would still have to be judged. -/
theorem Issue.Index.throughout_of_noData
    {index : Index} {Holds : Reference → Record → Prop}
    (noData : ∀ issue, index.record? issue = none) (tracker : Tracker) :
    index.Throughout tracker Holds := by
  intro id record known
  simp [noData] at known

theorem Issue.Index.Frame.complete
    {before after : Index} {tracker other : Tracker}
    (frame : Frame tracker before after) (different : other ≠ tracker)
    (complete : before.Complete other) :
    after.Complete other where
  filled id present := by
    rw [SortedMap.contains, frame.others _ different] at present
    rw [frame.record?_eq different]
    exact complete.filled id present
  judged id record known := by
    rw [frame.record?_eq different] at known
    exact complete.judged id record known

namespace Run

variable {σ : Type} {sources : IssueSources σ} {run after : Run σ} {tracker : Tracker}

/-- Judging leaves no record of its tracker without a verdict. -/
theorem resolveTracker_complete
    (judged : run.session.index.Throughout tracker fun _ record => record.isOpen.isSome = true)
    (outcome : run.resolveTracker sources tracker = (.ok (), after)) :
    after.session.index.Complete tracker := by
  have filled := (Upkeep.gather_course .anything sources tracker run).2
  rcases resolveTracker_cases sources tracker run with
    ⟨nothing, same⟩ | ⟨failure, _, same⟩ | ⟨session, judging, same⟩
  · rw [same] at outcome
    cases outcome
    refine ⟨fun id present => ?_, judged⟩
    rw [Option.isSome_iff_ne_none]
    intro unknown
    have isPending := Session.mem_pending_iff.mpr ⟨rfl, present, unknown⟩
    simp [nothing] at isPending
  · rw [same] at outcome
    cases outcome
  · rw [same] at outcome
    cases outcome
    have isJudged := Session.isJudged_of_judge judging
    refine ⟨(Index.Extends.judge isJudged).keepsFilled filled, ?_⟩
    intro id record known
    replace known : session.index.record? ⟨tracker, id⟩ = some record := known
    rw [isJudged.records, Option.map_eq_some_iff] at known
    obtain ⟨before, earlier, rfl⟩ := known
    by_cases noVerdict : before.isOpen = none
    · have isUnjudged := Session.mem_unjudged_iff.mpr ⟨rfl, before, earlier, noVerdict⟩
      obtain ⟨verdict, status⟩ := isJudged.succeeded _ isUnjudged
      simp [Session.judged, noVerdict, status, Except.toOption]
    · have hasVerdict := Option.isSome_iff_ne_none.mpr noVerdict
      rw [Session.judged_of_verdict hasVerdict]
      exact hasVerdict

/-- Resolving one tracker's issues leaves those of the others as they were. -/
theorem resolveTracker_extends
    (sources : IssueSources σ) (tracker : Tracker) (run : Run σ) :
    run.session.index.Extends tracker (run.resolveTracker sources tracker).2.session.index :=
  (Upkeep.resolveTracker_course .anything sources tracker run).grows

theorem contains_resolveTrackers
    (sources : IssueSources σ) (trackers : List Tracker) (run : Run σ) {issue : Reference}
    (present : run.session.index.contains issue = true) :
    (resolveTrackers sources trackers run).2.session.index.contains issue = true := by
  induction trackers generalizing run with
  | nil => exact present
  | cons tracker trackers inductionHypothesis =>
    have stillPresent :=
      (resolveTracker_extends sources tracker run).frame.contains issue present
    rcases resolveTrackers_cases sources tracker trackers run with
      ⟨middle, step, same⟩ | ⟨_, middle, step, same⟩
    · rw [step] at stillPresent
      rw [same]
      exact inductionHypothesis middle stillPresent
    · rw [step] at stillPresent
      rw [same]
      exact stillPresent

/-- Each tracker whose issues have been resolved is complete, and stays so. -/
theorem resolveTrackers_complete
    {trackers : List Tracker}
    (judged : ∀ tracker, run.session.index.Throughout tracker fun _ record =>
      record.isOpen.isSome = true)
    (outcome : resolveTrackers sources trackers run = (.ok (), after)) :
    ∀ tracker, tracker ∈ trackers ∨ run.session.index.Complete tracker →
      after.session.index.Complete tracker := by
  induction trackers generalizing run with
  | nil =>
    simp only [resolveTrackers, Prod.mk.injEq, true_and] at outcome
    intro tracker reason
    rw [← outcome]
    exact reason.resolve_left (by simp)
  | cons first trackers inductionHypothesis =>
    have grows := resolveTracker_extends sources first run
    rcases resolveTrackers_cases sources first trackers run with
      ⟨middle, step, same⟩ | ⟨_, _, _, same⟩
    · rw [same] at outcome
      rw [step] at grows
      have complete := resolveTracker_complete (judged first) step
      have stillJudged : ∀ tracker, middle.session.index.Throughout tracker fun _ record =>
          record.isOpen.isSome = true := by
        intro tracker id record known
        by_cases same : tracker = first
        · subst same
          exact complete.judged id record known
        · rw [grows.frame.record?_eq same] at known
          exact judged tracker id record known
      intro tracker reason
      apply inductionHypothesis stillJudged outcome tracker
      by_cases same : tracker = first
      · exact Or.inr (same ▸ complete)
      · apply reason.imp
        · intro member
          exact (List.mem_cons.mp member).resolve_left same
        · exact grows.frame.complete same
    · rw [same] at outcome
      cases outcome

end Run

/-! ## Issues that nobody speaks about -/

/-- While nobody speaks about an issue, only a fallback record stands for it. -/
def Upkeep.unheard (issue : Reference) : Upkeep where
  Fine tracker record := tracker = issue.tracker → record.id ≠ issue.id
  Kept other record := other = issue → ∃ reason, record = Record.fallback issue.id reason
  Listed _ := True
  kept_of_fine := by
    rintro tracker record fine rfl
    exact absurd rfl (fine rfl)
  kept_fallback := by
    rintro other reason rfl
    exact ⟨reason, rfl⟩
  kept_clones := by
    intro other record clones kept needed fine same
    obtain ⟨reason, rfl⟩ := kept same
    cases needed
  kept_verdict := by
    intro other record verdict kept noVerdict same
    obtain ⟨reason, rfl⟩ := kept same
    cases noVerdict
  listed_of_fine _ := trivial
  listed_of_link _ _ := trivial

theorem Session.openStatus_of_fallback
    {session : Session} {issue : Reference} {id reason : String}
    (known : session.index.record? issue = some (Record.fallback id reason)) :
    session.openStatus issue = .ok true :=
  openStatus_of_verdict known rfl

theorem Session.deselectStatus_of_fallback
    {session : Session} {issue : Reference} {id reason : String}
    (known : session.index.record? issue = some (Record.fallback id reason)) :
    session.deselectStatus issue = .ok false := by
  simp only [deselectStatus, known, Record.fallback]

variable {σ : Type}

/-- Whether nobody has spoken about an issue: no record from a cache, none found for an earlier
request, and none that its tracker has answered since carries its id. -/
structure Run.Unheard (sources : IssueSources σ) (start after : Run σ) (issue : Reference) : Prop
    where
  cached : ∀ other record, start.session.cached.find? other = some record →
    other.tracker = issue.tracker → record.id ≠ issue.id
  remembered : ∀ wanted records, ((issue.tracker, wanted), records) ∈ start.session.remembered →
    ∀ record ∈ records, record.id ≠ issue.id
  answered : ∀ record,
    (issue.tracker, record) ∈ World.answersSince sources start.world after.world →
      record.id ≠ issue.id

theorem Run.Unheard.fallback_of_resolve
    {sources : IssueSources σ} {run : Run σ} {issue : Reference} {record : Record}
    (unheard : run.Unheard sources (run.resolve sources).2 issue)
    (noData : ∀ issue, run.session.index.record? issue = none)
    (known : (run.resolve sources).2.session.index.record? issue = some record) :
    ∃ reason, record = Record.fallback issue.id reason := by
  have well : (Upkeep.unheard issue).Well run.session := by
    refine ⟨?_, ?_, ?_, fun _ _ => trivial⟩
    · exact unheard.cached
    · intro tracker wanted records member record inRecords
      apply Or.inl
      rintro rfl
      exact unheard.remembered wanted records member record inRecords
    · intro other record known
      simp [noData] at known
  have allFine : ∀ answer ∈ World.answersSince sources run.world (run.resolve sources).2.world,
      (Upkeep.unheard issue).Fine answer.1 answer.2 := by
    rintro ⟨tracker, record⟩ member rfl
    exact unheard.answered record member
  have wellAfter := ((Upkeep.unheard issue).resolve_ensures sources run).holds allFine well
  exact wellAfter.kept issue record known rfl

/-- Resolving an index without data. -/
theorem resolve_is_fail_safe
    (sources : IssueSources σ) (run : Run σ)
    (noData : ∀ issue, run.session.index.record? issue = none) :
    (∀ failure, (run.resolve sources).1 = .error failure →
        ∃ issue chain, failure = .malformedDuplicateChain (Reference.toText issue) chain) ∧
      ((run.resolve sources).1 = .ok () →
        (∀ issue, (run.resolve sources).2.session.index.contains issue = true →
          ∃ record verdict, (run.resolve sources).2.session.index.record? issue = some record ∧
            record.isOpen = some verdict) ∧
        ∀ issue, run.session.index.contains issue = true →
          run.Unheard sources (run.resolve sources).2 issue →
            (run.resolve sources).2.session.openStatus issue = .ok true ∧
              (run.resolve sources).2.session.deselectStatus issue = .ok false) := by
  refine ⟨fun failure failed => Run.resolveTrackers_error failed, fun resolved => ?_⟩
  have outcome : run.resolve sources = (.ok (), (run.resolve sources).2) := Prod.ext resolved rfl
  have complete : ∀ tracker, (run.resolve sources).2.session.index.Complete tracker := by
    intro tracker
    apply Run.resolveTrackers_complete (Index.throughout_of_noData noData) outcome
    exact Or.inl tracker.mem_all
  refine ⟨fun issue present => ?_, fun issue present unheard => ?_⟩
  · obtain ⟨record, known⟩ :=
      Option.isSome_iff_exists.mp ((complete issue.tracker).filled issue.id present)
    obtain ⟨verdict, judged⟩ :=
      Option.isSome_iff_exists.mp ((complete issue.tracker).judged issue.id record known)
    exact ⟨record, verdict, known, judged⟩
  · have stillPresent : (run.resolve sources).2.session.index.contains issue = true :=
      Run.contains_resolveTrackers sources Tracker.all run present
    obtain ⟨record, known⟩ :=
      Option.isSome_iff_exists.mp ((complete issue.tracker).filled issue.id stillPresent)
    obtain ⟨reason, rfl⟩ := unheard.fallback_of_resolve noData known
    exact ⟨Session.openStatus_of_fallback known, Session.deselectStatus_of_fallback known⟩

/-- A record of an obsolete issue. -/
def obsoleteRecord : Record :=
  { id := "5", status := "CLOSED", resolution := "Obsolete" }

/-- One tracker fails at first and then answers with a record that nobody has asked for; the other
one may not be asked. -/
def erraticSources : IssueSources Nat
  | .bugzilla =>
    { hasCredentials := true
      fetch := fun _ calls =>
        ({ outcome := if calls = 0 then .error "busy" else .ok [obsoleteRecord] }, calls + 1) }
  | .jira => { hasCredentials := false, fetch := fun _ calls => ({ outcome := .ok [] }, calls) }

/-- The start of a run about an issue of each tracker. -/
def erraticStart : Run Nat where
  session :=
    { serverVersion := Version.zero
      policy := {}
      index := Index.ofIssues [⟨.bugzilla, "7"⟩, ⟨.jira, "A-1"⟩] }
  world := { memory := 0 }

theorem unheard_erraticStart :
    erraticStart.Unheard erraticSources (erraticStart.resolve erraticSources).2
      ⟨.bugzilla, "7"⟩ := by
  refine ⟨fun other record found => ?_, fun wanted records member => ?_, fun record member => ?_⟩
  · cases found
  · cases member
  · have answers : World.answersSince erraticSources erraticStart.world
        (erraticStart.resolve erraticSources).2.world = [(.bugzilla, obsoleteRecord)] := by
      rfl
    rw [answers, List.mem_singleton, Prod.mk.injEq] at member
    rw [member.2]
    decide

theorem resolve_is_fail_safe_erraticSources :
    let after := (erraticStart.resolve erraticSources).2.session
    (∀ issue, after.index.contains issue = true →
        ∃ record verdict, after.index.record? issue = some record ∧ record.isOpen = some verdict) ∧
      after.openStatus ⟨.bugzilla, "7"⟩ = .ok true ∧
      after.deselectStatus ⟨.bugzilla, "7"⟩ = .ok false := by
  have safe := resolve_is_fail_safe erraticSources erraticStart (Index.record?_ofIssues _)
  obtain ⟨judged, statuses⟩ := safe.2 (by decide)
  exact ⟨judged, statuses ⟨.bugzilla, "7"⟩ (by decide) unheard_erraticStart⟩

end TestGate
