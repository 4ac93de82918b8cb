import TestGate.Proofs.Fates
import TestGate.Proofs.Knowledge

/-!
What trackers that answer from knowledge make of tests. Main statement: whatever faithful records a
run begins with, it reports the fates that follow from the knowledge, and it does so exactly when
the chains of all its issues can be followed.
-/

namespace TestGate

open Issue

namespace Knowledge

/-- The last id of the chain of an issue, if the chain has at most so many ids. -/
def last? (known : Knowledge) (tracker : Tracker) : (most : Nat) → String → Option String
  | 0, _ => none
  | most + 1, id =>
    match known.next? tracker id with
    | none => some id
    | some next => last? known tracker most next

theorem last?_eq_some_iff
    (known : Knowledge) (tracker : Tracker) (most : Nat) (id last : String) :
    known.last? tracker most id = some last ↔
      ∃ ids, Trail (known.next? tracker) id ids ∧ ids.length ≤ most ∧ ids.getLast? = some last := by
  induction most generalizing id with
  | zero =>
    refine iff_of_false nofun ?_
    rintro ⟨ids, trail, short, _⟩
    exact trail.ne_nil (List.length_eq_zero_iff.mp (Nat.le_zero.mp short))
  | succ most inductionHypothesis =>
    rw [last?]
    cases leads : known.next? tracker id with
    | none =>
      simp only [Option.some.injEq]
      constructor
      · rintro rfl
        exact ⟨[id], .last leads, by simp, rfl⟩
      · rintro ⟨ids, trail, _, isLast⟩
        rw [trail.unique (.last leads)] at isLast
        exact Option.some.inj isLast
    | some next =>
      simp only
      rw [inductionHypothesis]
      constructor
      · rintro ⟨ids, trail, short, isLast⟩
        refine ⟨id :: ids, .link leads trail, by simpa using short, ?_⟩
        rwa [List.getLast?_cons_of_ne_nil trail.ne_nil]
      · rintro ⟨ids, trail, short, isLast⟩
        cases trail with
        | last ends =>
          rw [ends] at leads
          cases leads
        | @link _ other rest otherLeads trail =>
          rw [leads, Option.some.injEq] at otherLeads
          subst otherLeads
          rw [List.getLast?_cons_of_ne_nil trail.ne_nil] at isLast
          rw [List.length_cons] at short
          exact ⟨rest, trail, by omega, isLast⟩

/-- What may be found out about an issue. -/
def answer? (known : Knowledge) (version : Version) (issue : Reference) : Option Finding :=
  (known.last? issue.tracker Index.longestChain issue.id).map fun last =>
    ⟨known.openVerdict version ⟨issue.tracker, last⟩, known.obsoleteVerdict ⟨issue.tracker, last⟩⟩

theorem answer?_eq_some_iff
    (known : Knowledge) (version : Version) (issue : Reference) (answer : Finding) :
    known.answer? version issue = some answer ↔ known.IsAnswer version issue answer := by
  rw [answer?, Option.map_eq_some_iff]
  refine exists_congr fun last => and_congr ?_ eq_comm
  exact known.last?_eq_some_iff issue.tracker Index.longestChain issue.id last

end Knowledge

/-! ## Reports of runs -/

variable {σ : Type} {sources : IssueSources σ}

/-- Whether a run begins with faithful records from a cache, and knows nothing else. -/
structure Run.BeginsWith (run : Run σ) (known : Knowledge) : Prop where
  faithful : ∀ issue record, run.session.cached.find? issue = some record →
    Faithful known run.session.serverVersion issue record
  noMemory : run.session.remembered = []
  noData : ∀ issue, run.session.index.record? issue = none

/-- A run that begins with faithful records reports the fates that follow from the knowledge,
exactly when the chains of all its issues can be followed. -/
theorem Run.BeginsWith.report_iff
    {known : Knowledge} {run : Run σ} {filters : Filters} {items : List CollectedItem}
    {report : Report}
    (begins : run.BeginsWith known) (answers : known.Answers sources) (unjudged : known.Unjudged) :
    (run.resolveAndReport sources filters items).1 = .ok report ↔
      (∀ issue, run.session.index.contains issue = true → ∃ last, known.EndsAt issue last) ∧
        fates? (known.answer? run.session.serverVersion) filters items = some report.items := by
  let discipline := known.discipline sources answers unjudged run.session.serverVersion
    run.session.cached begins.faithful
  have sound : discipline.Sound run :=
    .of_noData rfl rfl begins.noMemory trivial (fun _ _ => trivial) begins.noData
  constructor
  · intro reported
    have outcome : run.resolveAndReport sources filters items =
        (.ok report, (run.resolveAndReport sources filters items).2) :=
      Prod.ext reported rfl
    obtain ⟨progress, filled, fates⟩ := sound.resolveAndReport (fun _ _ _ _ => trivial) outcome
    refine ⟨fun issue present => ?_, fates _ fun issue answer held => ?_⟩
    · have isKnown := filled issue.tracker issue.id (progress.contains issue present)
      obtain ⟨answer, held⟩ := (progress.sound.settled issue.tracker).answers isKnown
      obtain ⟨last, ends, _⟩ := Faithful.isAnswer (progress.sound.held issue.tracker) held
      exact ⟨last, ends⟩
    · rw [known.answer?_eq_some_iff]
      exact Faithful.isAnswer (progress.sound.held issue.tracker) held
  · rintro ⟨ends, fates⟩
    have reliable : discipline.Reliable (known.answer? run.session.serverVersion) := by
      refine ⟨fun _ _ _ => trivial, ?_, ?_⟩
      · intro issue answer found overlong
        obtain ⟨last, isLast, _⟩ := (known.answer?_eq_some_iff _ issue answer).mp found
        exact Knowledge.not_endsAt_of_overlong overlong isLast
      · intro other otherSound issue answer found expected held
        rw [known.answer?_eq_some_iff] at expected
        exact (Faithful.isAnswer (otherSound.held issue.tracker) held).unique expected
    have short : ∀ issue, run.session.index.contains issue = true →
        ¬ discipline.Overlong issue := by
      intro issue present overlong
      obtain ⟨last, isLast⟩ := ends issue present
      exact Knowledge.not_endsAt_of_overlong overlong isLast
    obtain ⟨after, outcome, _⟩ := reliable.resolveAndReport sound short fates
    rw [outcome]

end TestGate
