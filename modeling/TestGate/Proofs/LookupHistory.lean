import TestGate.IssueStatus
import TestGate.Proofs.CachePlan
import TestGate.Proofs.ChainVerdicts

/-!
Looking up one issue after another. Main statement: with trackers that always answer from the same
knowledge a look-up gives the same answer whatever has been looked up or resolved before.
-/

namespace TestGate

open Issue

/-! ## Sequences of look-ups -/

/-- A question about an issue. -/
inductive Query where
  | isOpen (issue : Reference)
  | shouldDeselect (issue : Reference)
deriving DecidableEq, Repr

namespace Query

/-- The issue that is asked about. -/
def issue : Query → Reference
  | isOpen issue => issue
  | shouldDeselect issue => issue

/-- What an answer says to the question. -/
def read : Query → Finding → Bool
  | isOpen _, answer => answer.isOpen
  | shouldDeselect _, answer => answer.isObsolete

/-- What a session says to the question without looking anything up. -/
def status : Query → Session → Except Failure Bool
  | isOpen issue, session => session.openStatus issue
  | shouldDeselect issue, session => session.deselectStatus issue

end Query

namespace Run

variable {σ : Type}

/-- Looks an issue up. -/
def ask (sources : IssueSources σ) (query : Query) (run : Run σ) : Except Failure Bool × Run σ :=
  match query with
  | .isOpen issue => run.isOpen sources issue
  | .shouldDeselect issue => run.shouldDeselect sources issue

theorem ask_run
    (sources : IssueSources σ) (query : Query) (run : Run σ) :
    (run.ask sources query).2 = (run.ensure sources query.issue).2 := by
  cases query with
  | isOpen issue => exact lookUp_run sources Session.openStatus issue run
  | shouldDeselect issue => exact lookUp_run sources Session.deselectStatus issue run

/-- Looks issues up, one after another, until a look-up fails. -/
def askAll (sources : IssueSources σ) :
    List Query → Run σ → Except Failure (List Bool) × Run σ
  | [], run => (.ok [], run)
  | query :: queries, run =>
    match run.ask sources query with
    | (.error failure, run) => (.error failure, run)
    | (.ok answer, run) =>
      match askAll sources queries run with
      | (.error failure, run) => (.error failure, run)
      | (.ok answers, run) => (.ok (answer :: answers), run)

end Run

variable {σ : Type} {sources : IssueSources σ} {known : Knowledge} {run : Run σ}

section Answered

variable {answers : known.Answers sources} {unjudged : known.Unjudged} {version : Version}

theorem Discipline.Sound.isAnswer
    {issue : Reference} {answer : Finding}
    (sound : (known.freshDiscipline sources answers unjudged version).Sound run)
    (answered : run.session.index.Answers issue answer) :
    known.IsAnswer version issue answer :=
  Faithful.isAnswer (sound.held issue.tracker) answered

/-- What is answered in any state that the resolver can be in. -/
theorem Discipline.Sound.ask
    {query : Query} {value : Bool} {after : Run σ}
    (sound : (known.freshDiscipline sources answers unjudged version).Sound run)
    (outcome : run.ask sources query = (.ok value, after)) :
    (known.freshDiscipline sources answers unjudged version).Sound after ∧
      ∃ answer, known.IsAnswer version query.issue answer ∧ value = query.read answer := by
  cases query with
  | isOpen issue =>
    rcases sound.isOpen issue trivial with
      ⟨answer, last, asked, progress, answered⟩ | ⟨failure, last, asked, _⟩
    · rw [Run.ask, asked] at outcome
      cases outcome
      exact ⟨progress.sound, answer, progress.sound.isAnswer answered, rfl⟩
    · rw [Run.ask, asked] at outcome
      cases outcome
  | shouldDeselect issue =>
    rcases sound.shouldDeselect issue trivial with
      ⟨answer, last, asked, progress, answered⟩ | ⟨failure, last, asked, _⟩
    · rw [Run.ask, asked] at outcome
      cases outcome
      exact ⟨progress.sound, answer, progress.sound.isAnswer answered, rfl⟩
    · rw [Run.ask, asked] at outcome
      cases outcome

theorem Discipline.Sound.askAll
    {queries : List Query} {values : List Bool}
    (sound : (known.freshDiscipline sources answers unjudged version).Sound run)
    (outcome : (run.askAll sources queries).1 = .ok values) :
    List.Forall₂
      (fun query value =>
        ∃ answer, known.IsAnswer version query.issue answer ∧ value = query.read answer)
      queries values := by
  -- each look-up leaves the run sound, and only this is known to the next one
  induction queries generalizing run values with
  | nil =>
    cases outcome
    exact .nil
  | cons query rest inductionHypothesis =>
    rw [Run.askAll] at outcome
    cases asked : run.ask sources query with
    | mk first middle =>
      rw [asked] at outcome
      cases first with
      | error failure => cases outcome
      | ok value =>
        obtain ⟨middleSound, isAnswer⟩ := sound.ask asked
        cases others : middle.askAll sources rest with
        | mk second last =>
          cases second with
          | error failure =>
            simp only [others] at outcome
            cases outcome
          | ok restValues =>
            simp only [others] at outcome
            cases outcome
            exact .cons isAnswer (inductionHypothesis middleSound (by rw [others]))

/-- What is answered without a look-up after resolving. -/
theorem Discipline.Sound.status_of_resolve
    {query : Query} {after : Run σ}
    (sound : (known.freshDiscipline sources answers unjudged version).Sound run)
    (present : run.session.index.contains query.issue = true)
    (outcome : run.resolve sources = (.ok (), after)) :
    ∃ answer, known.IsAnswer version query.issue answer ∧
      query.status after.session = .ok (query.read answer) := by
  rcases sound.resolve with ⟨last, resolved, progress, filled⟩ | ⟨failure, last, resolved, _⟩
  · rw [resolved] at outcome
    cases outcome
    have isKnown := filled query.issue.tracker query.issue.id (progress.contains _ present)
    have settled := progress.sound.settled query.issue.tracker
    obtain ⟨answer, answered⟩ := settled.answers isKnown
    refine ⟨answer, progress.sound.isAnswer answered, ?_⟩
    cases query with
    | isOpen issue => exact Session.answers_openStatus answered
    | shouldDeselect issue => exact Session.answers_deselectStatus settled answered
  · rw [resolved] at outcome
    cases outcome

/-! ## Statuses -/

/-- Finding out about an issue is asking both questions. -/
theorem Discipline.Sound.status
    {issue : Reference} {status : IssueStatus} {after : Run σ}
    (sound : (known.freshDiscipline sources answers unjudged version).Sound run)
    (outcome : run.status sources issue = (.ok status, after)) :
    (known.freshDiscipline sources answers unjudged version).Sound after ∧
      status.issue = issue ∧
        known.IsAnswer version issue ⟨status.isOpen, status.shouldDeselect⟩ := by
  rw [Run.status] at outcome
  cases openAsked : run.isOpen sources issue with
  | mk first middle =>
    rw [openAsked] at outcome
    cases first with
    | error failure => cases outcome
    | ok isOpen =>
      have openQuery : run.ask sources (.isOpen issue) = (.ok isOpen, middle) := openAsked
      obtain ⟨middleSound, answer, isAnswer, rfl⟩ := sound.ask openQuery
      cases deselectAsked : middle.shouldDeselect sources issue with
      | mk second last =>
        simp only [deselectAsked] at outcome
        cases second with
        | error failure => cases outcome
        | ok shouldDeselect =>
          have deselectQuery :
              middle.ask sources (.shouldDeselect issue) = (.ok shouldDeselect, last) :=
            deselectAsked
          obtain ⟨lastSound, other, otherIsAnswer, rfl⟩ := middleSound.ask deselectQuery
          cases outcome
          rw [otherIsAnswer.unique isAnswer]
          exact ⟨lastSound, rfl, isAnswer⟩

theorem Discipline.Sound.statuses
    {issues : List Reference} {statuses : List IssueStatus}
    (sound : (known.freshDiscipline sources answers unjudged version).Sound run)
    (outcome : (run.statuses sources issues).1 = .ok statuses) :
    ∀ status ∈ statuses,
      known.IsAnswer version status.issue ⟨status.isOpen, status.shouldDeselect⟩ := by
  induction issues generalizing run statuses with
  | nil =>
    cases outcome
    simp
  | cons issue rest inductionHypothesis =>
    rw [Run.statuses] at outcome
    cases asked : run.status sources issue with
    | mk first middle =>
      rw [asked] at outcome
      cases first with
      | error failure => cases outcome
      | ok status =>
        obtain ⟨middleSound, rfl, isAnswer⟩ := sound.status asked
        cases others : middle.statuses sources rest with
        | mk second last =>
          simp only [others] at outcome
          cases second with
          | error failure => cases outcome
          | ok restStatuses =>
            cases outcome
            intro other member
            rcases List.mem_cons.mp member with rfl | inRest
            · exact isAnswer
            · exact inductionHypothesis middleSound (by rw [others]) other inRest

end Answered

/-- A run on which `check` is about to work, without cache files. -/
theorem isBlank_start
    (settings : Settings) (world : World σ) :
    (Run.mk (Session.start settings SortedMap.empty SortedMap.empty) world).IsBlank :=
  ⟨rfl, rfl, fun _ => rfl⟩

/-! ## Independence of history -/

/-- Each answer in a sequence of look-ups is what the look-up gives on an empty index, and what
is known after resolving any index that holds the issue; so the verdicts of `check` on an issue do
not depend on the issues before it. -/
theorem lookups_forget_history
    (sources : IssueSources σ) (known : Knowledge)
    (answers : known.Answers sources) (unjudged : known.Unjudged) :
    (∀ (run : Run σ) (queries : List Query) (values : List Bool), run.IsBlank →
      (run.askAll sources queries).1 = .ok values →
        List.Forall₂
          (fun query value =>
            (∀ first : Run σ, first.IsBlank → first.session.index = SortedMap.empty →
              first.session.serverVersion = run.session.serverVersion →
                ∀ other, (first.ask sources query).1 = .ok other → value = other) ∧
            ∀ resolving : Run σ, resolving.IsBlank →
              resolving.session.serverVersion = run.session.serverVersion →
                resolving.session.index.contains query.issue = true →
                  (resolving.resolve sources).1 = .ok () →
                    query.status (resolving.resolve sources).2.session = .ok value)
          queries values) ∧
    ∀ (φ : Type) [Storage φ] (settings : Settings) (issues others : List Reference)
      (cache otherCache : CacheChoice) (files otherFiles : φ) (world otherWorld : World σ)
      (statuses otherStatuses : List IssueStatus),
      cache.IsAbsent files → otherCache.IsAbsent otherFiles →
        (checkIssues settings sources issues cache files world).outcome = .ok statuses →
          (checkIssues settings sources others otherCache otherFiles otherWorld).outcome =
              .ok otherStatuses →
            ∀ status ∈ statuses, ∀ other ∈ otherStatuses, status.issue = other.issue →
              status.isOpen = other.isOpen ∧ status.shouldDeselect = other.shouldDeselect := by
  refine ⟨fun run queries values blank outcome => ?_, ?_⟩
  · have found := (blank.sound answers unjudged).askAll outcome
    refine found.imp fun query value ⟨answer, isAnswer, isValue⟩ => ⟨?_, ?_⟩
    · -- both runs find out what follows from the knowledge, which leaves one answer
      intro first firstBlank _ sameVersion other asked
      have firstSound := firstBlank.sound answers unjudged
      rw [sameVersion] at firstSound
      have askedFirst : first.ask sources query = (.ok other, (first.ask sources query).2) := by
        rw [← asked]
      obtain ⟨_, otherAnswer, otherIsAnswer, isOther⟩ := firstSound.ask askedFirst
      rw [isValue, isOther, isAnswer.unique otherIsAnswer]
    · intro resolving resolvingBlank sameVersion present resolved
      have resolvingSound := resolvingBlank.sound answers unjudged
      rw [sameVersion] at resolvingSound
      have resolution : resolving.resolve sources = (.ok (), (resolving.resolve sources).2) := by
        rw [← resolved]
      obtain ⟨otherAnswer, otherIsAnswer, status⟩ :=
        resolvingSound.status_of_resolve present resolution
      rw [status, isValue, isAnswer.unique otherIsAnswer]
  · intro φ _ settings issues others cache otherCache files otherFiles world otherWorld statuses
      otherStatuses absent otherAbsent outcome otherOutcome status member other otherMember same
    have isAnswer : ∀ {issues : List Reference} {cache : CacheChoice} {files : φ}
        {world : World σ} {statuses : List IssueStatus}, cache.IsAbsent files →
          (checkIssues settings sources issues cache files world).outcome = .ok statuses →
            ∀ status ∈ statuses, known.IsAnswer settings.serverVersion status.issue
              ⟨status.isOpen, status.shouldDeselect⟩ := by
      intro issues cache files world statuses absent outcome
      rw [checkIssues, Cache.Plan.load_of_absent absent] at outcome
      exact ((isBlank_start settings _).sound answers unjudged).statuses outcome
    have first := isAnswer absent outcome status member
    have second := isAnswer otherAbsent otherOutcome other otherMember
    rw [same] at first
    have equality := first.unique second
    exact ⟨congrArg Finding.isOpen equality, congrArg Finding.isObsolete equality⟩

theorem lookups_forget_history_openWithDuplicate :
    ((Run.atStart Version.zero [⟨.bugzilla, "7"⟩]).resolve
      openWithDuplicate.toSources).2.session.openStatus ⟨.bugzilla, "7"⟩ = .ok true := by
  have forgets := lookups_forget_history openWithDuplicate.toSources openWithDuplicate
    openWithDuplicate.answers_toSources plain_openWithDuplicate.toUnjudged
  have asked := forgets.1 (Run.atStart Version.zero [])
    [.shouldDeselect ⟨.bugzilla, "5"⟩, .isOpen ⟨.bugzilla, "7"⟩] [false, true]
    (Run.isBlank_atStart _ _) rfl
  cases asked with
  | cons _ rest =>
    cases rest with
    | cons second _ =>
      exact second.2 (Run.atStart Version.zero [⟨.bugzilla, "7"⟩]) (Run.isBlank_atStart _ _) rfl
        rfl rfl

end TestGate
