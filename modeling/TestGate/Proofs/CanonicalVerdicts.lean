import TestGate.Proofs.UntouchedUses

/-!
Which issue a derived verdict rests on, whatever the trackers answer. A search for targets goes as
many links behind each duplicate as a walk may pass. So a walk that judges comes to the end of its
chain, or fails, but for one case: behind a duplicate that brings its own verdict, from which nobody
walks, the search may stop in the middle of a chain. Main statement: if resolving succeeds, each
derived verdict rests on a record that is no duplicate, or on one that lies `longestChain` links
behind such an issue.
-/

namespace TestGate

open Issue

variable {σ : Type}

/-! ## What verdicts rest on -/

theorem Issue.Record.isDuplicate_eq
    (record : Record) (tracker : Tracker) :
    record.isDuplicate tracker = (record.duplicated? tracker).isSome := by
  rw [duplicated?]
  by_cases isDuplicate : record.isDuplicate tracker = true
  · rw [if_pos isDuplicate, isDuplicate]
    rw [Record.isDuplicate, Bool.and_eq_true] at isDuplicate
    exact isDuplicate.1.symm
  · rw [if_neg isDuplicate]
    exact eq_false_of_ne_true isDuplicate

namespace Issue.Index

/-- Whether the chain behind an issue is cut off at a record: as many links as a search follows lead
there, and nothing is known about the issue that it duplicates. -/
def CutOff (index : Index) (tracker : Tracker) (head : String) (target : Record) : Prop :=
  ∃ last next, stepsTo? (index.link? tracker) longestChain head = some last ∧
    index.record? ⟨tracker, last⟩ = some target ∧ target.duplicated? tracker = some next ∧
      index.record? ⟨tracker, next⟩ = none

/-- Whether an issue is judged by a record that is no duplicate, or by one at which a chain is cut
off behind an issue whose verdict is not among the `derived` ones. -/
def Rests (index : Index) (derived : List Reference) (issue : Reference) : Prop :=
  ∃ target, index.canonical issue = .ok (some target) ∧
    (target.isDuplicate issue.tracker = false ∨
      ∃ head, (⟨issue.tracker, head⟩ : Reference) ∉ derived ∧
        index.CutOff issue.tracker head target)

/-- What an issue rests on depends on the records of its tracker only. -/
theorem Rests.congr
    {before after : Index} {derived others : List Reference} {issue : Reference}
    (rests : before.Rests derived issue)
    (same : ∀ other, other.tracker = issue.tracker → after.record? other = before.record? other)
    (noMore : ∀ id, (⟨issue.tracker, id⟩ : Reference) ∈ others → ⟨issue.tracker, id⟩ ∈ derived) :
    after.Rests others issue := by
  obtain ⟨target, walked, atEnd⟩ := rests
  have unchanged : ∀ other, other.tracker = issue.tracker →
      after.record? other = (before.record? other).map fun record => record := by
    intro other belongs
    rw [same other belongs, Option.map_id']
  have sameLinks : after.link? issue.tracker = before.link? issue.tracker :=
    link?_of_changed unchanged fun _ _ _ => rfl
  cases known : before.record? issue with
  | none =>
    rw [canonical, known] at walked
    cases walked
  | some record =>
    refine ⟨target, ?_, atEnd.imp_right ?_⟩
    · rcases canonical_of_changed unchanged (fun _ _ _ => rfl) known with
        ⟨failure, failed, _⟩ | ⟨_, other, _, _, _, isOther, isOtherAgain⟩
      · rw [failed] at walked
        cases walked
      · rw [isOtherAgain, ← isOther, walked]
    · rintro ⟨head, notDerived, last, next, reached, isTarget, leads, unknown⟩
      refine ⟨head, fun derivedNow => notDerived (noMore head derivedNow), last, next, ?_, ?_,
        leads, ?_⟩
      · rw [sameLinks, reached]
      · rw [same ⟨issue.tracker, last⟩ rfl, isTarget]
      · rw [same ⟨issue.tracker, next⟩ rfl, unknown]

end Issue.Index

namespace Session

variable {session after : Session} {tracker : Tracker} {issue : Reference}

/-- From an issue that has been judged nobody walks too far. -/
theorem IsJudged.not_atLimit
    {head last next : String}
    (judged : session.IsJudged tracker after)
    (reached : stepsTo? (session.index.link? tracker) Index.longestChain head = some last)
    (leads : session.index.link? tracker last = some next) :
    (⟨tracker, head⟩ : Reference) ∉ session.unjudged tracker := by
  intro isUnjudged
  obtain ⟨_, record, known, noVerdict⟩ := mem_unjudged_iff.mp isUnjudged
  have steps : CanStep (session.index.follow? tracker) Index.longestChain head :=
    Index.canStep_follow? (.of_stepsTo? reached leads)
  obtain ⟨failure, failed⟩ :=
    Index.canonical_of_canStep ⟨tracker, head⟩ steps (by rw [known]; rfl)
  obtain ⟨verdict, ok⟩ := judged.succeeded _ isUnjudged
  rw [openStatus_of_canonical_error known noVerdict failed] at ok
  cases ok

/-- If judging succeeds behind a search, each verdict rests on a record as it should. -/
theorem IsJudged.rests
    (judged : session.IsJudged tracker after) (gapless : session.index.Gapless tracker)
    (isUnjudged : issue ∈ session.unjudged tracker) :
    after.index.Rests (session.unjudged tracker) issue := by
  obtain ⟨rfl, record, known, noVerdict⟩ := mem_unjudged_iff.mp isUnjudged
  obtain ⟨verdict, ok⟩ := judged.succeeded issue isUnjudged
  have sameLink := session.duplicated?_judged issue.tracker
  have sameLinks : after.index.link? issue.tracker = session.index.link? issue.tracker :=
    Index.link?_of_changed (fun other _ => judged.records other) sameLink
  rcases Index.canonical_of_changed (fun other _ => judged.records other) sameLink known with
    ⟨failure, failed, _⟩ | ⟨⟨other, last⟩, target, rfl, isTarget, ends, _, walksAgain⟩
  · rw [openStatus_of_canonical_error known noVerdict failed] at ok
    cases ok
  · refine ⟨_, walksAgain, ?_⟩
    rw [Record.isDuplicate_eq, sameLink]
    cases leads : target.duplicated? issue.tracker with
    | none => exact Or.inl rfl
    | some next =>
      have unknown : session.index.record? ⟨issue.tracker, next⟩ = none := by
        rw [Index.successor?, leads] at ends
        exact Option.map_eq_none_iff.mp ends
      have link : session.index.link? issue.tracker last = some next := by
        rw [Index.link?_of_record? isTarget, leads]
      rcases gapless last next link with isKnown | ⟨head, reached⟩
      · rw [unknown] at isKnown
        cases isKnown
      · refine Or.inr ⟨head, judged.not_atLimit reached link, last, next, ?_, ?_, ?_, ?_⟩
        · rw [sameLinks, reached]
        · rw [judged.records, isTarget, Option.map_some]
        · rw [sameLink, leads]
        · rw [judged.records, unknown, Option.map_none]

end Session

namespace Run

variable {sources : IssueSources σ} {tracker : Tracker} {run after : Run σ} {issue : Reference}

/-! ## Derived verdicts -/

/-- The issues whose verdicts are derived when the pending issues of a tracker are resolved. -/
def derivedFor (sources : IssueSources σ) (tracker : Tracker) (run : Run σ) : List Reference :=
  let pending := run.session.pending tracker
  if pending.isEmpty then [] else (run.gather sources tracker pending).session.unjudged tracker

def derivedInTurn (sources : IssueSources σ) : List Tracker → Run σ → List Reference
  | [], _ => []
  | tracker :: trackers, run =>
    run.derivedFor sources tracker ++
      match run.resolveTracker sources tracker with
      | (.ok (), after) => derivedInTurn sources trackers after
      | (.error _, _) => []

/-- The issues whose verdicts are derived when all pending issues are resolved. -/
def derived (sources : IssueSources σ) (run : Run σ) : List Reference :=
  run.derivedInTurn sources Tracker.all

theorem tracker_of_derivedFor
    (member : issue ∈ run.derivedFor sources tracker) :
    issue.tracker = tracker := by
  rw [derivedFor] at member
  split at member
  · cases member
  · exact (Session.mem_unjudged_iff.mp member).1

theorem tracker_of_derivedInTurn
    {trackers : List Tracker}
    (member : issue ∈ run.derivedInTurn sources trackers) :
    issue.tracker ∈ trackers := by
  induction trackers generalizing run with
  | nil => cases member
  | cons tracker trackers inductionHypothesis =>
    rw [derivedInTurn] at member
    rcases List.mem_append.mp member with own | later
    · exact tracker_of_derivedFor own ▸ List.mem_cons_self
    · cases step : run.resolveTracker sources tracker with
      | mk outcome middle =>
        cases outcome with
        | error failure => simp [step] at later
        | ok done =>
          rw [step] at later
          exact List.mem_cons_of_mem tracker (inductionHypothesis later)

theorem rests_of_resolveTracker
    (outcome : run.resolveTracker sources tracker = (.ok (), after))
    (member : issue ∈ run.derivedFor sources tracker) :
    after.session.index.Rests (run.derivedFor sources tracker) issue := by
  have gapless := gapless_gather sources tracker run (run.session.pending tracker)
  rw [derivedFor] at member ⊢
  rcases resolveTracker_cases sources tracker run with
    ⟨nothing, _⟩ | ⟨_, _, same⟩ | ⟨session, judging, same⟩
  · rw [nothing] at member
    cases member
  · rw [same] at outcome
    cases outcome
  · rw [same] at outcome
    cases outcome
    by_cases nothing : (run.session.pending tracker).isEmpty = true
    · rw [if_pos nothing] at member
      cases member
    · rw [if_neg nothing] at member ⊢
      exact (Session.isJudged_of_judge judging).rests gapless member

/-- The trackers are worked through once each, and none of them touches the records of another. -/
theorem rests_of_resolveTrackers
    {trackers : List Tracker}
    (distinct : trackers.Nodup)
    (outcome : resolveTrackers sources trackers run = (.ok (), after))
    (member : issue ∈ run.derivedInTurn sources trackers) :
    after.session.index.Rests (run.derivedInTurn sources trackers) issue := by
  induction trackers generalizing run with
  | nil => cases member
  | cons tracker trackers inductionHypothesis =>
    obtain ⟨notLater, restDistinct⟩ := List.nodup_cons.mp distinct
    rcases resolveTrackers_cases sources tracker trackers run with
      ⟨middle, step, same⟩ | ⟨_, _, _, same⟩
    · rw [same] at outcome
      simp only [derivedInTurn, step] at member ⊢
      rcases List.mem_append.mp member with own | later
      · have belongs := tracker_of_derivedFor own
        have untouched := reworked_resolveTrackers sources middle trackers
        rw [outcome] at untouched
        refine (rests_of_resolveTracker step own).congr (fun other same => ?_) fun id again => ?_
        · rw [Index.record?, Index.record?, untouched.others]
          rwa [same, belongs]
        · refine (List.mem_append.mp again).resolve_right fun inRest => notLater ?_
          have laterTracker := tracker_of_derivedInTurn inRest
          rwa [belongs] at laterTracker
      · refine (inductionHypothesis restDistinct outcome later).congr (fun _ _ => rfl) ?_
        intro id again
        refine (List.mem_append.mp again).resolve_left fun own => notLater ?_
        have sameTracker := tracker_of_derivedFor own
        have laterTracker := tracker_of_derivedInTurn later
        rwa [sameTracker] at laterTracker
    · rw [same] at outcome
      cases outcome

end Run

/-- If resolving succeeds, each verdict that it has derived rests on a record that is no duplicate,
but for those at which a chain is cut off behind an issue with a verdict of its own. -/
theorem derived_verdicts_rest_on_canonical_issues
    {sources : IssueSources σ} {run : Run σ}
    (resolved : (run.resolve sources).1 = .ok ()) :
    let after := (run.resolve sources).2.session.index
    ∀ issue ∈ run.derived sources,
      ∃ target, after.canonical issue = .ok (some target) ∧
        (target.isDuplicate issue.tracker = false ∨
          ∃ head, (⟨issue.tracker, head⟩ : Reference) ∉ run.derived sources ∧
            after.CutOff issue.tracker head target) := by
  intro after issue member
  have outcome : run.resolve sources = (.ok (), (run.resolve sources).2) := Prod.ext resolved rfl
  exact Run.rests_of_resolveTrackers (by decide) outcome member

theorem derived_verdicts_rest_on_canonical_issues_openWithDuplicate :
    let start := Run.atStart Version.zero [⟨.bugzilla, "7"⟩]
    let after := (start.resolve openWithDuplicate.toSources).2.session.index
    ∃ target, after.canonical ⟨.bugzilla, "7"⟩ = .ok (some target) ∧
      target.isDuplicate .bugzilla = false := by
  intro start after
  have resolved : (start.resolve openWithDuplicate.toSources).1 = .ok () := by decide +kernel
  have member : (⟨.bugzilla, "7"⟩ : Reference) ∈ start.derived openWithDuplicate.toSources := by
    decide +kernel
  obtain ⟨target, walked, atEnd⟩ :=
    derived_verdicts_rest_on_canonical_issues resolved ⟨.bugzilla, "7"⟩ member
  have isEnd : (after.canonical ⟨.bugzilla, "7"⟩).toOption.map
      (fun found => found.map fun record => record.isDuplicate .bugzilla) = some (some false) := by
    decide +kernel
  refine ⟨target, walked, ?_⟩
  rw [walked] at isEnd
  exact Option.some.inj (Option.some.inj isEnd)

/-- A chain of duplicates that ends at an open issue. All but the last two issues bring a verdict.
-/
def judgedChain : Knowledge :=
  .ofRecords <| (List.range 18).map fun count =>
    let key (count : Nat) : String := "A-" ++ toString count
    let record : Record :=
      if count < 17 then
        { id := key count
          status := "Closed"
          resolution := "Duplicate"
          duplicateOf := some (key (count + 1))
          isOpen := if count < 16 then some true else none }
      else
        { id := key count, status := "To Do" }
    (⟨.jira, key count⟩, record)

/-- The open issue at the end of the chain is never looked at, and the duplicate before it is taken
for finished. -/
theorem duplicate_judged_by_itself_in_judgedChain :
    let start := Run.atStart Version.zero [⟨.jira, "A-0"⟩]
    let resolving := start.resolve judgedChain.toSources
    let after := resolving.2.session.index
    resolving.1 = .ok () ∧ start.derived judgedChain.toSources = [⟨.jira, "A-16"⟩] ∧
      (after.canonical ⟨.jira, "A-16"⟩).toOption.map
          (fun found => found.map fun record => (record.id, record.isDuplicate .jira)) =
        some (some ("A-16", true)) ∧
      (after.record? ⟨.jira, "A-16"⟩).bind Record.isOpen = some false ∧
      after.contains ⟨.jira, "A-17"⟩ = false := by
  decide +kernel

end TestGate
