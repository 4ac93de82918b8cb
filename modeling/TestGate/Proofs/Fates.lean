import TestGate.CollectionPass
import TestGate.Proofs.Resolving

/-!
The fates of tests as a function of what is found out about their issues. Main statements: what is
decided in a run is what follows from the answers that the index holds at its end, and a run whose
answers are reliable decides what follows from them.
-/

namespace TestGate

open Issue

/-! ## What follows from answers -/

/-- What is found out about issues, as far as anything is. -/
abbrev Answers := Reference → Option Finding

namespace CollectedItem

/-- The primary issue of a test if it is obsolete. -/
def dropped? (answers : Answers) (item : CollectedItem) : Option (Option Reference) :=
  match item.primary with
  | none => some none
  | some primary =>
    (answers primary).map fun answer => if answer.isObsolete then some primary else none

/-- The outcome of a test by its guard. -/
def guarded? (answers : Answers) (item : CollectedItem) : Option Outcome :=
  match item.guard with
  | none => some (.selected none)
  | some guard =>
    (answers guard).map fun answer => .selected (if answer.isOpen then some guard.toText else none)

/-- The outcome of a test. -/
def fate? (answers : Answers) (filters : Filters) (item : CollectedItem) : Option Outcome :=
  match item.dropped? answers with
  | none => none
  | some (some primary) => some (.deselected (obsoleteReason primary))
  | some none =>
    if filters.admits item then item.guarded? answers else some (.deselected filterReason)

/-- The issues that the outcome of a test depends on. -/
def Asks (item : CollectedItem) (issue : Reference) : Prop :=
  item.primary = some issue ∨ item.guard = some issue

end CollectedItem

/-- The fates of tests. -/
def fates? (answers : Answers) (filters : Filters) :
    List CollectedItem → Option (List ItemReport)
  | [] => some []
  | item :: items =>
    (item.fate? answers filters).bind fun outcome =>
      (fates? answers filters items).map fun reports => ⟨item.nodeId, outcome⟩ :: reports

variable {σ : Type} {sources : IssueSources σ}

namespace Discipline

variable {discipline : Discipline sources} {run after : Run σ} {filters : Filters}

theorem Sound.note
    (sound : discipline.Sound run) (notice : Notice) :
    discipline.Progress run (run.note notice) :=
  ⟨⟨sound.feeds.note notice, sound.listed, sound.held, sound.settled⟩, .of_keeps (.refl _),
    fun _ present => present, fun _ => rfl, fun _ filled => filled⟩

theorem Sound.noteOutcome
    (sound : discipline.Sound run) (item : CollectedItem) (outcome : Outcome) :
    discipline.Progress run (run.noteOutcome item outcome) := by
  cases outcome with
  | deselected reason => exact sound.note (.deselecting item.nodeId reason)
  | selected skip => exact .refl sound

/-! ## Decisions follow from the answers at the end -/

/-- Whether answers say all that an index holds. -/
def Covers (answers : Answers) (index : Index) : Prop :=
  ∀ issue answer, index.Answers issue answer → answers issue = some answer

theorem Covers.of_progress
    {answers : Answers}
    (covers : Covers answers after.session.index) (progress : discipline.Progress run after) :
    Covers answers run.session.index :=
  fun issue answer held => covers issue answer (progress.grows.answers held)

theorem Sound.isDropped
    {item : CollectedItem} {dropped : Option Reference}
    (sound : discipline.Sound run)
    (listed : ∀ issue, item.primary = some issue → discipline.Listed issue)
    (outcome : run.isDropped sources item = (.ok dropped, after)) :
    discipline.Progress run after ∧
      ∀ answers, Covers answers after.session.index → item.dropped? answers = some dropped := by
  rw [Run.isDropped] at outcome
  cases primary : item.primary with
  | none =>
    rw [primary] at outcome
    cases outcome
    exact ⟨.refl sound, fun answers _ => by rw [CollectedItem.dropped?, primary]⟩
  | some issue =>
    rw [primary] at outcome
    simp only at outcome
    rcases sound.shouldDeselect issue (listed issue primary) with
      ⟨answer, last, asked, progress, held⟩ | ⟨failure, last, asked, _⟩
    · rw [asked] at outcome
      cases isObsolete : answer.isObsolete with
      | true =>
        rw [isObsolete] at outcome
        cases outcome
        have marked := progress.sound.markDeselected held isObsolete
        refine ⟨progress.trans marked, fun answers covers => ?_⟩
        rw [CollectedItem.dropped?, primary]
        simp only
        rw [covers issue answer (marked.grows.answers held), Option.map_some, isObsolete]
        rfl
      | false =>
        rw [isObsolete] at outcome
        cases outcome
        refine ⟨progress, fun answers covers => ?_⟩
        rw [CollectedItem.dropped?, primary]
        simp only
        rw [covers issue answer held, Option.map_some, isObsolete]
        rfl
    · rw [asked] at outcome
      cases outcome

theorem Sound.guardOutcome
    {item : CollectedItem} {fate : Outcome}
    (sound : discipline.Sound run)
    (listed : ∀ issue, item.guard = some issue → discipline.Listed issue)
    (outcome : run.guardOutcome sources item = (.ok fate, after)) :
    discipline.Progress run after ∧
      ∀ answers, Covers answers after.session.index → item.guarded? answers = some fate := by
  rw [Run.guardOutcome] at outcome
  cases guard : item.guard with
  | none =>
    rw [guard] at outcome
    cases outcome
    exact ⟨.refl sound, fun answers _ => by rw [CollectedItem.guarded?, guard]⟩
  | some issue =>
    rw [guard] at outcome
    simp only at outcome
    rcases sound.isOpen issue (listed issue guard) with
      ⟨answer, last, asked, progress, held⟩ | ⟨failure, last, asked, _⟩
    · rw [asked] at outcome
      have guarded : ∀ answers, Covers answers last.session.index →
          item.guarded? answers =
            some (.selected (if answer.isOpen then some issue.toText else none)) := by
        intro answers covers
        rw [CollectedItem.guarded?, guard]
        simp only
        rw [covers issue answer held, Option.map_some]
      cases isOpen : answer.isOpen with
      | true =>
        rw [isOpen] at outcome guarded
        cases outcome
        exact ⟨progress, guarded⟩
      | false =>
        rw [isOpen] at outcome guarded
        cases outcome
        exact ⟨progress, guarded⟩
    · rw [asked] at outcome
      cases outcome

theorem Sound.decideItem
    {item : CollectedItem} {fate : Outcome}
    (sound : discipline.Sound run)
    (listed : ∀ issue, item.Asks issue → discipline.Listed issue)
    (outcome : run.decideItem sources filters item = (.ok fate, after)) :
    discipline.Progress run after ∧
      ∀ answers, Covers answers after.session.index →
        item.fate? answers filters = some fate := by
  rw [Run.decideItem] at outcome
  cases dropping : run.isDropped sources item with
  | mk first middle =>
    rw [dropping] at outcome
    cases first with
    | error failure => cases outcome
    | ok dropped =>
      obtain ⟨progress, isDropped⟩ :=
        sound.isDropped (fun issue primary => listed issue (Or.inl primary)) dropping
      cases dropped with
      | some primary =>
        cases outcome
        refine ⟨progress, fun answers covers => ?_⟩
        rw [CollectedItem.fate?, isDropped answers covers]
      | none =>
        simp only at outcome
        split at outcome
        · rename_i admitted
          obtain ⟨further, isGuarded⟩ :=
            progress.sound.guardOutcome (fun issue guard => listed issue (Or.inr guard)) outcome
          refine ⟨progress.trans further, fun answers covers => ?_⟩
          rw [CollectedItem.fate?, isDropped answers (covers.of_progress further)]
          simp only
          rw [if_pos admitted, isGuarded answers covers]
        · rename_i refused
          cases outcome
          refine ⟨progress, fun answers covers => ?_⟩
          rw [CollectedItem.fate?, isDropped answers covers]
          simp only
          rw [if_neg refused]

/-- What is decided about tests follows from what the index answers in the end. -/
theorem Sound.decideAll
    {items : List CollectedItem} {reports : List ItemReport}
    (sound : discipline.Sound run)
    (listed : ∀ item ∈ items, ∀ issue, item.Asks issue → discipline.Listed issue)
    (outcome : Run.decideAll sources filters items run = (.ok reports, after)) :
    discipline.Progress run after ∧
      ∀ answers, Covers answers after.session.index →
        fates? answers filters items = some reports := by
  -- the answers cover the index at the end of the run, which has grown since each fate was decided
  induction items generalizing run reports with
  | nil =>
    cases outcome
    exact ⟨.refl sound, fun answers _ => rfl⟩
  | cons item rest inductionHypothesis =>
    rw [Run.decideAll] at outcome
    cases deciding : run.decideItem sources filters item with
    | mk first middle =>
      rw [deciding] at outcome
      cases first with
      | error failure => cases outcome
      | ok fate =>
        obtain ⟨progress, isFate⟩ := sound.decideItem (listed item List.mem_cons_self) deciding
        have noted := progress.sound.noteOutcome item fate
        cases others : Run.decideAll sources filters rest (middle.noteOutcome item fate) with
        | mk second last =>
          simp only [others] at outcome
          cases second with
          | error failure => cases outcome
          | ok restReports =>
            cases outcome
            obtain ⟨further, areFates⟩ := inductionHypothesis noted.sound
              (fun other member => listed other (List.mem_cons_of_mem item member)) others
            refine ⟨(progress.trans noted).trans further, fun answers covers => ?_⟩
            have middleCovers := (covers.of_progress further).of_progress noted
            rw [fates?, isFate answers middleCovers, areFates answers covers]
            rfl

/-! ## Decisions by reliable answers -/

/-- Whether answers may be relied on: the issues may be looked up and judged, and whatever an index
holds about them says the same. -/
structure Reliable (discipline : Discipline sources) (answers : Answers) : Prop where
  listed : ∀ issue answer, answers issue = some answer → discipline.Listed issue
  notOverlong : ∀ issue answer, answers issue = some answer → ¬ discipline.Overlong issue
  agrees : ∀ run : Run σ, discipline.Sound run → ∀ issue answer found,
    answers issue = some answer → run.session.index.Answers issue found → found = answer

variable {answers : Answers}

/-- In a filled index nothing is pending, so a look-up fails only for the issue itself. -/
theorem not_trouble_of_filled
    {issue : Reference} {answer : Finding}
    (reliable : discipline.Reliable answers)
    (filled : ∀ tracker, run.session.index.Filled tracker)
    (expected : answers issue = some answer) :
    ¬ ∃ other, (other = issue ∨ other ∈ run.session.pending issue.tracker) ∧
      discipline.Overlong other := by
  rintro ⟨other, rfl | isPending, overlong⟩
  · exact reliable.notOverlong other answer expected overlong
  · obtain ⟨_, present, unknown⟩ := Session.mem_pending_iff.mp isPending
    have isKnown : (run.session.index.record? other).isSome = true :=
      filled other.tracker other.id present
    rw [unknown] at isKnown
    cases isKnown

theorem Reliable.isDropped
    {item : CollectedItem} {dropped : Option Reference}
    (reliable : discipline.Reliable answers) (sound : discipline.Sound run)
    (filled : ∀ tracker, run.session.index.Filled tracker)
    (expected : item.dropped? answers = some dropped) :
    ∃ after, run.isDropped sources item = (.ok dropped, after) ∧
      discipline.Progress run after := by
  rw [CollectedItem.dropped?] at expected
  rw [Run.isDropped]
  cases primary : item.primary with
  | none =>
    rw [primary] at expected
    cases expected
    exact ⟨run, rfl, .refl sound⟩
  | some issue =>
    rw [primary] at expected
    obtain ⟨answer, known, rfl⟩ := Option.map_eq_some_iff.mp expected
    simp only
    rcases sound.shouldDeselect issue (reliable.listed issue answer known) with
      ⟨found, last, asked, progress, held⟩ | ⟨failure, last, asked, trouble⟩
    · obtain rfl := reliable.agrees last progress.sound issue answer found known held
      rw [asked]
      cases isObsolete : found.isObsolete with
      | true =>
        exact ⟨last.markDeselected issue, rfl,
          progress.trans (progress.sound.markDeselected held isObsolete)⟩
      | false => exact ⟨last, rfl, progress⟩
    · exact absurd trouble (not_trouble_of_filled reliable filled known)

theorem Reliable.guardOutcome
    {item : CollectedItem} {fate : Outcome}
    (reliable : discipline.Reliable answers) (sound : discipline.Sound run)
    (filled : ∀ tracker, run.session.index.Filled tracker)
    (expected : item.guarded? answers = some fate) :
    ∃ after, run.guardOutcome sources item = (.ok fate, after) ∧
      discipline.Progress run after := by
  rw [CollectedItem.guarded?] at expected
  rw [Run.guardOutcome]
  cases guard : item.guard with
  | none =>
    rw [guard] at expected
    cases expected
    exact ⟨run, rfl, .refl sound⟩
  | some issue =>
    rw [guard] at expected
    obtain ⟨answer, known, rfl⟩ := Option.map_eq_some_iff.mp expected
    simp only
    rcases sound.isOpen issue (reliable.listed issue answer known) with
      ⟨found, last, asked, progress, held⟩ | ⟨failure, last, asked, trouble⟩
    · obtain rfl := reliable.agrees last progress.sound issue answer found known held
      rw [asked]
      cases isOpen : found.isOpen with
      | true => exact ⟨last, rfl, progress⟩
      | false => exact ⟨last, rfl, progress⟩
    · exact absurd trouble (not_trouble_of_filled reliable filled known)

theorem Reliable.decideItem
    {item : CollectedItem} {fate : Outcome}
    (reliable : discipline.Reliable answers) (sound : discipline.Sound run)
    (filled : ∀ tracker, run.session.index.Filled tracker)
    (expected : item.fate? answers filters = some fate) :
    ∃ after, run.decideItem sources filters item = (.ok fate, after) ∧
      discipline.Progress run after := by
  rw [CollectedItem.fate?] at expected
  rw [Run.decideItem]
  cases dropping : item.dropped? answers with
  | none =>
    rw [dropping] at expected
    cases expected
  | some dropped =>
    rw [dropping] at expected
    obtain ⟨middle, outcome, progress⟩ := reliable.isDropped sound filled dropping
    rw [outcome]
    cases dropped with
    | some primary =>
      cases expected
      exact ⟨middle, rfl, progress⟩
    | none =>
      simp only at expected ⊢
      split at expected
      · rename_i admitted
        rw [if_pos admitted]
        obtain ⟨after, guarded, further⟩ := reliable.guardOutcome progress.sound
          (fun tracker => progress.filled tracker (filled tracker)) expected
        exact ⟨after, guarded, progress.trans further⟩
      · rename_i refused
        cases expected
        rw [if_neg refused]
        exact ⟨middle, rfl, progress⟩

/-- A run whose answers are reliable decides what follows from them. -/
theorem Reliable.decideAll
    {items : List CollectedItem} {reports : List ItemReport}
    (reliable : discipline.Reliable answers) (sound : discipline.Sound run)
    (filled : ∀ tracker, run.session.index.Filled tracker)
    (expected : fates? answers filters items = some reports) :
    ∃ after, Run.decideAll sources filters items run = (.ok reports, after) ∧
      discipline.Progress run after := by
  induction items generalizing run reports with
  | nil =>
    cases expected
    exact ⟨run, rfl, .refl sound⟩
  | cons item rest inductionHypothesis =>
    rw [fates?] at expected
    obtain ⟨fate, isFate, others⟩ := Option.bind_eq_some_iff.mp expected
    obtain ⟨restReports, areFates, rfl⟩ := Option.map_eq_some_iff.mp others
    obtain ⟨middle, outcome, progress⟩ := reliable.decideItem sound filled isFate
    have noted := progress.sound.noteOutcome item fate
    have middleFilled : ∀ tracker, (middle.noteOutcome item fate).session.index.Filled tracker :=
      fun tracker => noted.filled tracker (progress.filled tracker (filled tracker))
    obtain ⟨after, restOutcome, further⟩ :=
      inductionHypothesis noted.sound middleFilled areFates
    refine ⟨after, ?_, (progress.trans noted).trans further⟩
    rw [Run.decideAll, outcome]
    simp only
    rw [restOutcome]

/-! ## Reports -/

/-- A report that is given says what follows from the answers at the end. -/
theorem Sound.resolveAndReport
    {items : List CollectedItem} {report : Report}
    (sound : discipline.Sound run)
    (listed : ∀ item ∈ items, ∀ issue, item.Asks issue → discipline.Listed issue)
    (outcome : run.resolveAndReport sources filters items = (.ok report, after)) :
    discipline.Progress run after ∧ (∀ tracker, after.session.index.Filled tracker) ∧
      ∀ answers, Covers answers after.session.index →
        fates? answers filters items = some report.items := by
  rw [Run.resolveAndReport] at outcome
  rcases sound.resolve with ⟨middle, resolved, progress, filled⟩ | ⟨failure, middle, resolved, _⟩
  · rw [resolved] at outcome
    simp only [Run.report] at outcome
    cases deciding : Run.decideAll sources filters items middle with
    | mk first last =>
      rw [deciding] at outcome
      cases first with
      | error failure => cases outcome
      | ok reports =>
        cases outcome
        obtain ⟨further, areFates⟩ := progress.sound.decideAll listed deciding
        exact ⟨progress.trans further, fun tracker => further.filled tracker (filled tracker),
          areFates⟩
  · rw [resolved] at outcome
    cases outcome

/-- Where the pending issues can be judged, a run reports what follows from reliable answers. -/
theorem Reliable.resolveAndReport
    {items : List CollectedItem} {reports : List ItemReport}
    (reliable : discipline.Reliable answers) (sound : discipline.Sound run)
    (short : ∀ issue, run.session.index.contains issue = true → ¬ discipline.Overlong issue)
    (expected : fates? answers filters items = some reports) :
    ∃ after, run.resolveAndReport sources filters items = (.ok ⟨reports⟩, after) ∧
      discipline.Progress run after := by
  rw [Run.resolveAndReport]
  rcases sound.resolve with
    ⟨middle, resolved, progress, filled⟩ | ⟨failure, middle, resolved, issue, isPending, overlong⟩
  · obtain ⟨after, decided, further⟩ := reliable.decideAll progress.sound filled expected
    refine ⟨after, ?_, progress.trans further⟩
    rw [resolved]
    simp only [Run.report]
    rw [decided]
  · exact absurd overlong (short issue (Session.mem_pending_iff.mp isPending).2.1)

end Discipline

end TestGate
