import TestGate.Proofs.Knowledge

/-!
Resolving against trackers that always answer from the same knowledge. Main statement: resolving
succeeds exactly when the chain of each issue in the index is short and has no cycle, and then each
issue is judged by the end of its chain.
-/

namespace TestGate

open Issue

namespace Knowledge

/-- The record with the records of its clones that are known; only Bugzilla issues have clones. -/
def withKnownClones (known : Knowledge) (tracker : Tracker) (record : Record) : Record :=
  match tracker with
  | .bugzilla =>
    { record with clones := record.cloneIds.filterMap fun id => known ⟨.bugzilla, id⟩ }
  | .jira => record

/-- Whether records come as a tracker sends them: each about its own issue, without clones, verdicts
or errors. -/
structure Plain (known : Knowledge) : Prop extends known.Unjudged where
  noError : ∀ issue record, known issue = some record → record.error = none
  noClones : ∀ issue record, known issue = some record → record.clones = []

/-- Among plain records all known clones count. -/
theorem Plain.withFoundClones_eq
    {known : Knowledge} {issue : Reference} {record : Record}
    (plain : known.Plain) (isKnown : known issue = some record) (tracker : Tracker) :
    known.withFoundClones tracker record = known.withKnownClones tracker record := by
  cases tracker with
  | jira => rfl
  | bugzilla =>
    have noFallback : known.foundClones record =
        record.cloneIds.filterMap fun id => known ⟨.bugzilla, id⟩ := by
      rw [foundClones, List.filter_eq_self]
      intro clone member
      obtain ⟨id, _, cloneKnown⟩ := List.mem_filterMap.mp member
      rw [Record.isFallback, plain.noError _ _ cloneKnown]
      rfl
    rw [withFoundClones, plain.noClones _ _ isKnown, if_pos (by rfl), noFallback]
    rfl

end Knowledge

variable {σ : Type}

/-- Resolving an index without data, with trackers that answer from `known`. -/
theorem resolve_follows_chains
    (sources : IssueSources σ) (known : Knowledge) (run : Run σ)
    (answers : known.Answers sources) (plain : known.Plain) (blank : run.IsBlank) :
    ((run.resolve sources).1 = .ok () ↔
        ∀ issue, run.session.index.contains issue = true →
          ∃ ids, known.Chain issue ids ∧ ids.Nodup ∧ ids.length ≤ 16) ∧
      ((run.resolve sources).1 = .ok () →
        ∀ issue, run.session.index.contains issue = true →
          ∃ ids last, known.Chain issue ids ∧ ids.getLast? = some last ∧
            (known ⟨issue.tracker, last⟩ = none →
              (run.resolve sources).2.session.openStatus issue = .ok true ∧
                (run.resolve sources).2.session.deselectStatus issue = .ok false) ∧
            ∀ record, known ⟨issue.tracker, last⟩ = some record →
              (run.resolve sources).2.session.openStatus issue =
                  .ok ((known.withKnownClones issue.tracker record).affects issue.tracker
                    run.session.serverVersion) ∧
                (run.resolve sources).2.session.deselectStatus issue =
                  .ok (record.isObsolete issue.tracker)) := by
  have sound := blank.sound answers plain.toUnjudged
  rcases sound.resolve with
    ⟨after, outcome, progress, filled⟩ | ⟨failure, after, outcome, issue, isPending, overlong⟩
  · have found : ∀ issue, run.session.index.contains issue = true →
        ∃ answer, after.session.index.Answers issue answer ∧
          known.IsAnswer run.session.serverVersion issue answer := by
      intro issue present
      have isKnown := filled issue.tracker issue.id (progress.contains issue present)
      obtain ⟨answer, answered⟩ := (progress.sound.settled issue.tracker).answers isKnown
      exact ⟨answer, answered, Faithful.isAnswer (progress.sound.held issue.tracker) answered⟩
    rw [outcome]
    refine ⟨⟨fun _ issue present => ?_, fun _ => rfl⟩, fun _ issue present => ?_⟩
    · obtain ⟨_, _, last, ⟨ids, chain, short, _⟩, _⟩ := found issue present
      exact ⟨ids, chain, chain.nodup, short⟩
    · obtain ⟨_, answered, last, ⟨ids, chain, _, isLast⟩, rfl⟩ := found issue present
      have openStatus := Session.answers_openStatus answered
      have deselectStatus :=
        Session.answers_deselectStatus (progress.sound.settled issue.tracker) answered
      refine ⟨ids, last, chain, isLast, fun unknown => ?_, fun record isKnown => ?_⟩
      · rw [openStatus, deselectStatus, Knowledge.openVerdict, Knowledge.obsoleteVerdict, unknown]
        exact ⟨rfl, rfl⟩
      · have isOpen : known.openVerdict run.session.serverVersion ⟨issue.tracker, last⟩ =
            (known.withKnownClones issue.tracker record).affects issue.tracker
              run.session.serverVersion := by
          simp only [Knowledge.openVerdict, isKnown, plain.withFoundClones_eq isKnown]
        have isObsolete : known.obsoleteVerdict ⟨issue.tracker, last⟩ =
            record.isObsolete issue.tracker := by
          simp only [Knowledge.obsoleteVerdict, isKnown]
        rw [openStatus, deselectStatus, isOpen, isObsolete]
        exact ⟨rfl, rfl⟩
  · -- the issue that cannot be judged is an indexed one
    have tooLong : ¬ ∃ ids, known.Chain issue ids ∧ ids.Nodup ∧ ids.length ≤ 16 := by
      rintro ⟨ids, chain, _, short⟩
      obtain ⟨last, isLast⟩ := Trail.exists_last chain
      exact Knowledge.not_endsAt_of_overlong overlong ⟨ids, chain, short, isLast⟩
    rw [outcome]
    have failed : (.error failure : Except Failure Unit) ≠ .ok () := by
      intro impossible
      cases impossible
    refine ⟨⟨fun isOk => absurd isOk failed, fun short => ?_⟩, fun isOk => absurd isOk failed⟩
    exact absurd (short issue (Session.mem_pending_iff.mp isPending).2.1) tooLong

/-- An open issue and a duplicate of it. -/
def openWithDuplicate : Knowledge :=
  .ofRecords
    [(⟨.bugzilla, "7"⟩, { id := "7", resolution := "DUPLICATE", duplicateOf := some "5" }),
      (⟨.bugzilla, "5"⟩, { id := "5", status := "NEW" })]

theorem plain_openWithDuplicate :
    openWithDuplicate.Plain := by
  refine ⟨⟨?_, ?_, ?_⟩, ?_, ?_⟩ <;>
  · intro issue record isKnown
    have member := Knowledge.mem_of_ofRecords isKnown
    simp only [List.mem_cons, Prod.mk.injEq, List.not_mem_nil, or_false] at member
    rcases member with ⟨rfl, rfl⟩ | ⟨rfl, rfl⟩ <;> rfl

theorem chain_openWithDuplicate :
    openWithDuplicate.Chain ⟨.bugzilla, "7"⟩ ["7", "5"] :=
  .link (by decide) (.last (by decide))

theorem resolve_follows_chains_openWithDuplicate :
    ((Run.atStart Version.zero [⟨.bugzilla, "7"⟩]).resolve openWithDuplicate.toSources).1 =
      .ok () := by
  have follows := resolve_follows_chains openWithDuplicate.toSources openWithDuplicate
    (Run.atStart Version.zero [⟨.bugzilla, "7"⟩]) openWithDuplicate.answers_toSources
    plain_openWithDuplicate (Run.isBlank_atStart _ _)
  refine follows.1.mpr fun issue present => ?_
  have member := Index.mem_of_contains_ofIssues present
  rw [List.mem_singleton] at member
  subst member
  exact ⟨["7", "5"], chain_openWithDuplicate, by decide, by decide⟩

end TestGate
