import TestGate.Proofs.LookupHistory

/-!
How long verdicts and marks last while operations are carried out one after another, failures
included. Main statement: the record of an issue stays, with its verdict and its mark, until another
record of the issue is entered along with those of pending issues. If the tracker speaks about the
issue only when it is asked for it, and cache files only under its own key, this never happens.
-/

namespace TestGate

open Issue

variable {σ : Type}

/-! ## Operations -/

inductive Operation where
  | resolve
  | ask (query : Query)
  | markDeselected (issue : Reference)
deriving DecidableEq, Repr

namespace Run

/-- Carries out an operation, be it a success or a failure. -/
def perform (sources : IssueSources σ) (operation : Operation) (run : Run σ) : Run σ :=
  match operation with
  | .resolve => (run.resolve sources).2
  | .ask query => (run.ask sources query).2
  | .markDeselected issue => run.markDeselected issue

def performAll (sources : IssueSources σ) (operations : List Operation) (run : Run σ) : Run σ :=
  operations.foldl (fun run operation => run.perform sources operation) run

/-! ## What is entered about an issue -/

/-- The records about an issue that come along when the pending issues of a tracker are resolved. -/
def enteredAbout (sources : IssueSources σ) (issue : Reference) (tracker : Tracker) (run : Run σ) :
    List Record :=
  let pending := run.session.pending tracker
  let noted := run.note (.resolving tracker pending.length)
  let records := (noted.fetchBatch sources tracker (pending.map Reference.id)).1
  if issue.tracker = tracker then records.filter fun record => record.id = issue.id else []

def enteredInTurn (sources : IssueSources σ) (issue : Reference) :
    List Tracker → Run σ → List Record
  | [], _ => []
  | tracker :: trackers, run =>
    run.enteredAbout sources issue tracker ++
      match run.resolveTracker sources tracker with
      | (.ok (), after) => enteredInTurn sources issue trackers after
      | (.error _, _) => []

/-- The records about an issue that an operation enters, in order. -/
def enteredBy (sources : IssueSources σ) (issue : Reference) (operation : Operation)
    (run : Run σ) :
    List Record :=
  match operation with
  | .resolve => run.enteredInTurn sources issue Tracker.all
  | .ask query =>
    if (run.session.index.record? query.issue).isSome then
      []
    else
      (run.withIndex (run.session.index.touch query.issue)).enteredAbout sources issue
        query.issue.tracker
  | .markDeselected _ => []

def enteredByAll (sources : IssueSources σ) (issue : Reference) :
    List Operation → Run σ → List Record
  | [], _ => []
  | operation :: operations, run =>
    run.enteredBy sources issue operation
      ++ enteredByAll sources issue operations (run.perform sources operation)

end Run

/-! ## Records that stay -/

namespace Issue.Record

/-- Whether a record is an earlier one with what has been found out since: a verdict lasts, and a
mark may be set but not cleared. -/
structure Continues (earlier later : Record) : Prop where
  same : ∃ clones isOpen isDeselected,
    later = { earlier with clones := clones, isOpen := isOpen, isDeselected := isDeselected }
  verdict : ∀ isOpen, earlier.isOpen = some isOpen → later.isOpen = some isOpen
  mark : later.isDeselected = earlier.isDeselected ∨ later.isDeselected = some true

namespace Continues

theorem refl
    (record : Record) :
    record.Continues record :=
  ⟨⟨record.clones, record.isOpen, record.isDeselected, by cases record; rfl⟩,
    fun _ verdict => verdict, Or.inl rfl⟩

theorem trans
    {first second third : Record}
    (early : first.Continues second) (late : second.Continues third) :
    first.Continues third where
  same := by
    obtain ⟨_, _, _, rfl⟩ := early.same
    obtain ⟨clones, isOpen, isDeselected, rfl⟩ := late.same
    exact ⟨clones, isOpen, isDeselected, rfl⟩
  verdict isOpen isVerdict := late.verdict isOpen (early.verdict isOpen isVerdict)
  mark := by
    rcases late.mark with same | marked
    · rw [same]
      exact early.mark
    · exact Or.inr marked

theorem attached
    (clones : List Record) (issue : Reference) (record : Record) :
    record.Continues (Session.attached clones issue record) := by
  rw [Session.attached]
  split
  · exact ⟨⟨_, record.isOpen, record.isDeselected, rfl⟩, fun _ verdict => verdict, Or.inl rfl⟩
  · exact .refl record

theorem judged
    (session : Session) (tracker : Tracker) (issue : Reference) (record : Record) :
    record.Continues (session.judged tracker issue record) := by
  rw [Session.judged]
  split
  · rename_i unjudged
    refine ⟨⟨record.clones, _, record.isDeselected, rfl⟩, ?_, Or.inl rfl⟩
    intro isOpen verdict
    rw [unjudged.2] at verdict
    cases verdict
  · exact .refl record

theorem marked
    (record : Record) :
    record.Continues { record with isDeselected := some true } :=
  ⟨⟨record.clones, record.isOpen, some true, rfl⟩, fun _ verdict => verdict, Or.inr rfl⟩

end Continues

end Issue.Record

/-! ## Trackers that speak when they are asked -/

/-- Whether records speak about an issue only if they were to answer for it. -/
def Asked (issue : Reference) (tracker : Tracker) (ids : List String) (records : List Record) :
    Prop :=
  issue.tracker = tracker → ∀ record ∈ records, record.id = issue.id → issue.id ∈ ids

/-- Whether a tracker speaks about an issue only when it is asked for it. -/
def Reticent (sources : IssueSources σ) (issue : Reference) : Prop :=
  ∀ tracker ids memory records, ((sources tracker).fetch ids memory).1.outcome = .ok records →
    Asked issue tracker ids records

/-- Whether cache files speak about an issue only under its own key. -/
def Issue.Reference.IsFiledOnce (issue : Reference) (cached : SortedMap Reference Record) : Prop :=
  ∀ other record, cached.find? other = some record → issue.tracker = other.tracker →
    record.id = issue.id → issue = other

/-- Whether all that a session may enter about an issue is what it was asked for. -/
structure Session.IsReticent (session : Session) (issue : Reference) : Prop where
  cached : issue.IsFiledOnce session.cached
  remembered : ∀ tracker wanted records, ((tracker, wanted), records) ∈ session.remembered →
    Asked issue tracker wanted records

section Lasting

variable {sources : IssueSources σ} {issue : Reference} {run : Run σ}

theorem Asked.congr
    {tracker : Tracker} {ids others : List String} {records : List Record}
    (asked : Asked issue tracker ids records) (same : ∀ id ∈ ids, id ∈ others) :
    Asked issue tracker others records :=
  fun belongs record member about => same _ (asked belongs record member about)

theorem Asked.append
    {tracker : Tracker} {ids : List String} {front back : List Record}
    (first : Asked issue tracker ids front) (second : Asked issue tracker ids back) :
    Asked issue tracker ids (front ++ back) := by
  intro belongs record member about
  rcases List.mem_append.mp member with inFront | inBack
  · exact first belongs record inFront about
  · exact second belongs record inBack about

theorem Asked.fallbacks
    (issue : Reference) (tracker : Tracker) (ids : List String) (reason : String) :
    Asked issue tracker ids (ids.map fun id => Record.fallback id reason) := by
  intro _ record member about
  obtain ⟨id, inIds, rfl⟩ := List.mem_map.mp member
  exact about ▸ inIds

theorem Reticent.fetchRemote
    (reticent : Reticent sources issue) (tracker : Tracker) (ids : List String) (run : Run σ) :
    Asked issue tracker ids (run.fetchRemote sources tracker ids).1 := by
  simp only [Run.fetchRemote]
  split
  · exact .fallbacks issue tracker ids _
  · split
    · rename_i records world fetched
      obtain ⟨memory, answered⟩ := exists_reply_of_fetchWithRetry (congrArg Prod.fst fetched)
      refine (reticent tracker ids memory records answered).append ?_
      exact (Asked.fallbacks issue tracker _ _).congr fun id missing =>
        (List.mem_filter.mp missing).1
    · exact .fallbacks issue tracker ids _

theorem Session.IsReticent.remember
    {tracker : Tracker} {wanted : List String} {records : List Record}
    (isReticent : run.session.IsReticent issue) (asked : Asked issue tracker wanted records) :
    (run.remember tracker wanted records).session.IsReticent issue where
  cached := isReticent.cached
  remembered other otherWanted otherRecords member := by
    rcases List.mem_cons.mp member with same | earlier
    · cases same
      exact asked
    · exact isReticent.remembered other otherWanted otherRecords earlier

theorem Reticent.fetchBatch
    (reticent : Reticent sources issue) (isReticent : run.session.IsReticent issue)
    (tracker : Tracker) (ids : List String) :
    Asked issue tracker ids (run.fetchBatch sources tracker ids).1 ∧
      (run.fetchBatch sources tracker ids).2.session.IsReticent issue := by
  have sameIds : ∀ id ∈ SortedMap.distinct ids, id ∈ ids := fun id member =>
    (SortedMap.mem_distinct ids id).mp member
  have stocked : Asked issue tracker (SortedMap.distinct ids)
      (run.stocked tracker (SortedMap.distinct ids)) := by
    intro belongs record member about
    obtain ⟨id, inIds, found⟩ := List.mem_filterMap.mp member
    have own := isReticent.cached _ record found belongs about
    rw [own]
    exact inIds
  have replies := Run.fetchBatch_replies sources tracker ids run
  revert replies
  generalize run.fetchBatch sources tracker ids = result
  intro replies
  cases replies with
  | nothing noneWanted => exact ⟨fun _ _ member => absurd member List.not_mem_nil, isReticent⟩
  | again earlier => exact ⟨(isReticent.remembered _ _ _ earlier).congr sameIds, isReticent⟩
  | fromStock noneMissing => exact ⟨stocked.congr sameIds, isReticent.remember stocked⟩
  | fromTracker someMissing sameSession asked =>
    rename_i fetched after
    have remote := reticent.fetchRemote tracker (run.missing tracker (SortedMap.distinct ids)) run
    rw [asked] at remote
    have both := stocked.append (remote.congr fun id member => (List.mem_filter.mp member).1)
    have afterReticent : after.session.IsReticent issue := sameSession ▸ isReticent
    exact ⟨both.congr sameIds, afterReticent.remember both⟩

/-! ## What each part of resolving does to the record of an issue -/

/-- What a part of a run does that enters some records about an issue: a known record continues in
the index, or the last one entered does; and if it may enter only what it was asked for, it has
entered nothing about a known issue. -/
structure Run.Lasts (sources : IssueSources σ) (issue : Reference) (before : Run σ)
    (entered : List Record) (after : Run σ) : Prop where
  continues : ∀ record, before.session.index.record? issue = some record →
    ∃ last, after.session.index.record? issue = some last ∧
      (entered.getLastD record).Continues last
  reticent : Reticent sources issue → before.session.IsReticent issue →
    after.session.IsReticent issue ∧
      ((before.session.index.record? issue).isSome = true → entered = [])

namespace Run.Lasts

theorem refl
    (run : Run σ) :
    Run.Lasts sources issue run [] run :=
  ⟨fun record known => ⟨record, known, .refl record⟩, fun _ isReticent => ⟨isReticent, fun _ => rfl⟩⟩

theorem isSome
    {before after : Run σ} {entered : List Record}
    (lasts : Run.Lasts sources issue before entered after)
    (known : (before.session.index.record? issue).isSome = true) :
    (after.session.index.record? issue).isSome = true := by
  obtain ⟨record, found⟩ := Option.isSome_iff_exists.mp known
  obtain ⟨last, isLast, _⟩ := lasts.continues record found
  rw [isLast]
  rfl

theorem trans
    {first second third : Run σ} {early late : List Record}
    (front : Run.Lasts sources issue first early second)
    (back : Run.Lasts sources issue second late third) :
    Run.Lasts sources issue first (early ++ late) third where
  continues record known := by
    obtain ⟨middle, isMiddle, middleContinues⟩ := front.continues record known
    obtain ⟨last, isLast, lastContinues⟩ := back.continues middle isMiddle
    refine ⟨last, isLast, ?_⟩
    cases late with
    | nil =>
      rw [List.append_nil]
      exact middleContinues.trans lastContinues
    | cons next rest =>
      -- what has been entered later counts, whatever came before
      rw [List.getLastD_eq_getLast?, List.getLast?_append_of_ne_nil _ (List.cons_ne_nil next rest),
        ← List.getLastD_eq_getLast?]
      rwa [List.getLastD_cons] at lastContinues ⊢
  reticent isReticent session := by
    obtain ⟨middle, noneEarly⟩ := front.reticent isReticent session
    obtain ⟨last, noneLate⟩ := back.reticent isReticent middle
    refine ⟨last, fun known => ?_⟩
    rw [noneEarly known, noneLate (front.isSome known)]
    rfl

/-- A change of the index through which the record of the issue continues. -/
theorem withIndex
    {index : Index}
    (continues : ∀ record, run.session.index.record? issue = some record →
      ∃ last, index.record? issue = some last ∧ record.Continues last) :
    Run.Lasts sources issue run [] (run.withIndex index) :=
  ⟨continues, fun _ isReticent => ⟨⟨isReticent.cached, isReticent.remembered⟩, fun _ => rfl⟩⟩

variable (sources issue)

theorem note
    (run : Run σ) (notice : Notice) :
    Run.Lasts sources issue run [] (run.note notice) :=
  ⟨fun record known => ⟨record, known, .refl record⟩, fun _ isReticent => ⟨isReticent, fun _ => rfl⟩⟩

theorem fetchBatch
    (tracker : Tracker) (ids : List String) (run : Run σ) :
    Run.Lasts sources issue run [] (run.fetchBatch sources tracker ids).2 where
  continues record known := by
    rw [Run.fetchBatch_index]
    exact ⟨record, known, .refl record⟩
  reticent isReticent session := ⟨(isReticent.fetchBatch session tracker ids).2, fun _ => rfl⟩

theorem ensureTarget
    (target : Reference) (run : Run σ) :
    Run.Lasts sources issue run [] (run.ensureTarget sources target) := by
  rcases Run.ensureTarget_cases sources target run with
    ⟨_, same⟩ | ⟨entered, after, unknown, fetched, sameIndex, same⟩
  · rw [same]
    exact .refl run
  · have fetches : Run.Lasts sources issue run []
        ((run.note (.fetchingDuplicate target)).fetchSingle sources target).2 :=
      (note sources issue run (.fetchingDuplicate target)).trans
        (fetchBatch sources issue target.tracker [target.id] _)
    rw [fetched] at fetches
    rw [same]
    refine fetches.trans (withIndex fun record found => ⟨record, ?_, .refl record⟩)
    rw [sameIndex] at found
    exact Index.Keeps.enterTarget unknown entered issue record found

theorem fetchTargets
    (tracker : Tracker) (run : Run σ) :
    Run.Lasts sources issue run [] (run.fetchTargets sources tracker) :=
  Run.fetchTargets_induction sources tracker run (.refl run) fun before _ id _ lasts =>
    lasts.trans (ensureTarget sources issue ⟨tracker, id⟩ before)

theorem fetchClones
    (run : Run σ) :
    Run.Lasts sources issue run [] (run.fetchClones sources) := by
  rcases Run.fetchClones_cases sources run with ⟨_, same⟩ | ⟨clones, after, fetched, sameIndex, same⟩
  · rw [same]
    exact .refl run
  · have fetches := fetchBatch sources issue .bugzilla (run.session.cloneParents.flatMap (·.2)) run
    rw [fetched] at fetches
    rw [same]
    refine fetches.trans (withIndex fun record found => ?_)
    rw [sameIndex] at found
    rw [Session.record?_attachClones, found]
    exact ⟨_, rfl, .attached _ issue record⟩

/-- The records of the pending issues are entered; what is known stays unless it is among them. -/
theorem begin
    (tracker : Tracker) (run : Run σ) :
    let pending := run.session.pending tracker
    let noted := run.note (.resolving tracker pending.length)
    let fetched := noted.fetchBatch sources tracker (pending.map Reference.id)
    Run.Lasts sources issue run (run.enteredAbout sources issue tracker)
      (fetched.2.withIndex
        (Session.fillGaps (Session.enter fetched.2.session.index tracker fetched.1) pending)) := by
  intro pending noted fetched
  have sameIndex : fetched.2.session.index = run.session.index :=
    Run.fetchBatch_index sources tracker (pending.map Reference.id) noted
  constructor
  · intro record known
    -- filling gaps comes after entering, and leaves what is known alone
    refine ⟨(run.enteredAbout sources issue tracker).getLastD record,
      Index.Keeps.fillGaps _ pending issue _ ?_, .refl _⟩
    rw [Run.enteredAbout]
    by_cases belongs : issue.tracker = tracker
    · rw [if_pos belongs]
      exact Session.record?_enter_of_known fetched.1 belongs (sameIndex ▸ known)
    · rw [if_neg belongs, (Session.frame_enter _ tracker _).record?_eq belongs, sameIndex, known]
      rfl
  · intro isReticent session
    have noted : noted.session.IsReticent issue := session
    obtain ⟨asked, after⟩ := isReticent.fetchBatch noted tracker (pending.map Reference.id)
    refine ⟨⟨after.cached, after.remembered⟩, fun known => ?_⟩
    rw [Run.enteredAbout]
    by_cases belongs : issue.tracker = tracker
    · rw [if_pos belongs, List.filter_eq_nil_iff]
      intro record member about
      obtain ⟨other, isPending, same⟩ :=
        List.mem_map.mp (asked belongs record member (of_decide_eq_true about))
      obtain ⟨otherBelongs, _, unknown⟩ := Session.mem_pending_iff.mp isPending
      have equal : other = issue :=
        (Reference.mk.injEq ..).mpr ⟨otherBelongs.trans belongs.symm, same⟩
      rw [← equal, unknown] at known
      cases known
    · rw [if_neg belongs]

theorem gather
    (tracker : Tracker) (run : Run σ) :
    Run.Lasts sources issue run (run.enteredAbout sources issue tracker)
      (run.gather sources tracker (run.session.pending tracker)) := by
  have begun := begin sources issue tracker run
  have chased := begun.trans (fetchTargets sources issue tracker _)
  rw [List.append_nil] at chased
  cases tracker with
  | jira => exact chased
  | bugzilla =>
    have cloned := chased.trans (fetchClones sources issue _)
    rwa [List.append_nil] at cloned

theorem resolveTracker
    (tracker : Tracker) (run : Run σ) :
    Run.Lasts sources issue run (run.enteredAbout sources issue tracker)
      (run.resolveTracker sources tracker).2 := by
  have gathered := gather sources issue tracker run
  rcases Run.resolveTracker_cases sources tracker run with
    ⟨nothing, same⟩ | ⟨_, _, same⟩ | ⟨session, judging, same⟩
  · have noneEntered : run.enteredAbout sources issue tracker = [] := by
      rw [Run.enteredAbout, nothing]
      split
      · rfl
      · rfl
    rw [same, noneEntered]
    exact .refl run
  · rw [same]
    exact gathered
  · rw [same]
    have isJudged := Session.isJudged_of_judge judging
    revert gathered isJudged
    generalize run.gather sources tracker (run.session.pending tracker) = middle
    intro gathered isJudged
    have judged : Run.Lasts sources issue middle [] (middle.withIndex session.index) := by
      refine withIndex fun record known => ?_
      rw [isJudged.records, known]
      exact ⟨_, rfl, .judged middle.session tracker issue record⟩
    have last := gathered.trans judged
    rw [List.append_nil] at last
    rw [isJudged.same]
    exact last

theorem resolveTrackers
    (trackers : List Tracker) (run : Run σ) :
    Run.Lasts sources issue run (run.enteredInTurn sources issue trackers)
      (Run.resolveTrackers sources trackers run).2 := by
  induction trackers generalizing run with
  | nil => exact .refl run
  | cons tracker trackers inductionHypothesis =>
    have first := resolveTracker sources issue tracker run
    rw [Run.enteredInTurn]
    rcases Run.resolveTrackers_cases sources tracker trackers run with
      ⟨middle, step, same⟩ | ⟨_, middle, step, same⟩
    · rw [step] at first
      rw [same, step]
      exact first.trans (inductionHypothesis middle)
    · rw [step] at first
      rw [same, step]
      simp only [List.append_nil]
      exact first

theorem ask
    (query : Query) (run : Run σ) :
    Run.Lasts sources issue run (run.enteredBy sources issue (.ask query))
      (run.ask sources query).2 := by
  have ensured : Run.Lasts sources issue run (run.enteredBy sources issue (.ask query))
      (run.ensure sources query.issue).2 := by
    rw [Run.enteredBy, Run.ensure]
    by_cases known : (run.session.index.record? query.issue).isSome = true
    · rw [if_pos known, if_pos known]
      exact .refl run
    · rw [if_neg known, if_neg known]
      have touched : Run.Lasts sources issue run []
          (run.withIndex (run.session.index.touch query.issue)) := by
        refine withIndex fun record found => ⟨record, ?_, .refl record⟩
        rw [Index.record?_touch, found]
      exact touched.trans (resolveTracker sources issue query.issue.tracker _)
  rw [Run.ask_run]
  exact ensured

theorem markDeselected
    (marked : Reference) (run : Run σ) :
    Run.Lasts sources issue run [] (run.markDeselected marked) := by
  refine withIndex fun record known => ?_
  have found := Session.record?_markDeselected run.session marked issue
  by_cases same : issue = marked
  · subst same
    rw [if_pos rfl, known] at found
    exact ⟨{ record with isDeselected := some true }, found, .marked record⟩
  · rw [if_neg same, known] at found
    exact ⟨record, found, .refl record⟩

theorem perform
    (operation : Operation) (run : Run σ) :
    Run.Lasts sources issue run (run.enteredBy sources issue operation)
      (run.perform sources operation) := by
  cases operation with
  | resolve => exact resolveTrackers sources issue Tracker.all run
  | ask query => exact ask sources issue query run
  | markDeselected marked => exact markDeselected sources issue marked run

theorem performAll
    (operations : List Operation) (run : Run σ) :
    Run.Lasts sources issue run (run.enteredByAll sources issue operations)
      (run.performAll sources operations) := by
  induction operations generalizing run with
  | nil => exact .refl run
  | cons operation rest inductionHypothesis =>
    exact (perform sources issue operation run).trans (inductionHypothesis (run.perform sources operation))

end Run.Lasts

/-! ## Verdicts that last -/

/-- Whatever is carried out, the record of an issue continues, or the last record that is entered
about the issue does. -/
theorem verdicts_last_unless_entered_again
    {start : Run σ} {record : Record}
    (fresh : start.session.remembered = [])
    (earlier later : List Operation)
    (known : (start.performAll sources earlier).session.index.record? issue = some record) :
    let middle := start.performAll sources earlier
    let after := middle.performAll sources later
    let entered := middle.enteredByAll sources issue later
    ∃ last, after.session.index.record? issue = some last ∧
      (entered.getLastD record).Continues last ∧
      (Reticent sources issue → issue.IsFiledOnce start.session.cached →
        entered = [] ∧
        (∀ isOpen, record.isOpen = some isOpen → last.isOpen = some isOpen) ∧
        (record.isDeselected = some true → last.isDeselected = some true)) := by
  intro middle after entered
  have front := Run.Lasts.performAll sources issue earlier start
  have back := Run.Lasts.performAll sources issue later middle
  obtain ⟨last, isLast, continues⟩ := back.continues record known
  refine ⟨last, isLast, continues, fun reticent filed => ?_⟩
  have startReticent : start.session.IsReticent issue := by
    refine ⟨filed, fun tracker wanted records member => ?_⟩
    rw [fresh] at member
    cases member
  obtain ⟨middleReticent, _⟩ := front.reticent reticent startReticent
  obtain ⟨_, noneEntered⟩ := back.reticent reticent middleReticent
  have nothing : entered = [] := noneEntered (Option.isSome_iff_exists.mpr ⟨record, known⟩)
  replace continues : (entered.getLastD record).Continues last := continues
  rw [nothing] at continues
  refine ⟨nothing, continues.verdict, fun marked => ?_⟩
  rcases continues.mark with same | isMarked
  · exact same.trans marked
  · exact isMarked

end Lasting

theorem reticent_openWithDuplicate :
    Reticent openWithDuplicate.toSources ⟨.bugzilla, "5"⟩ := by
  intro tracker ids memory records answered belongs record member about
  cases answered
  obtain ⟨id, inIds, isKnown⟩ := List.mem_filterMap.mp member
  have sameId := plain_openWithDuplicate.sameId ⟨tracker, id⟩ record isKnown
  exact (about.symm.trans sameId) ▸ inIds

theorem verdicts_last_unless_entered_again_openWithDuplicate :
    let start := Run.atStart Version.zero []
    let middle := start.performAll openWithDuplicate.toSources
      [.ask (.isOpen ⟨.bugzilla, "5"⟩), .markDeselected ⟨.bugzilla, "5"⟩]
    let after := middle.performAll openWithDuplicate.toSources
      [.ask (.shouldDeselect ⟨.bugzilla, "7"⟩), .resolve]
    ∃ last, after.session.index.record? ⟨.bugzilla, "5"⟩ = some last ∧
      last.isOpen = some true ∧ last.isDeselected = some true := by
  have fresh : (Run.atStart Version.zero []).session.remembered = [] := rfl
  have found : (((Run.atStart Version.zero []).performAll openWithDuplicate.toSources
      [.ask (.isOpen ⟨.bugzilla, "5"⟩), .markDeselected ⟨.bugzilla, "5"⟩]).session.index.record?
        ⟨.bugzilla, "5"⟩).map (fun record => (record.isOpen, record.isDeselected)) =
      some (some true, some true) := by
    decide +kernel
  obtain ⟨record, known, fields⟩ := Option.map_eq_some_iff.mp found
  obtain ⟨isOpen, isDeselected⟩ := Prod.mk.inj fields
  obtain ⟨last, isLast, _, lasts⟩ := verdicts_last_unless_entered_again fresh _
    [.ask (.shouldDeselect ⟨.bugzilla, "7"⟩), .resolve] known
  obtain ⟨_, verdict, mark⟩ := lasts reticent_openWithDuplicate nofun
  exact ⟨last, isLast, verdict true isOpen, mark isDeselected⟩

/-- A tracker that has finished an issue at first; later on it answers whatever it is asked with
that issue, which has been reopened. -/
def movingSources : IssueSources Nat := fun _ =>
  { hasCredentials := true
    fetch := fun _ calls =>
      ({ outcome :=
          .ok
            [if calls = 0 then { id := "A-1", status := "Closed", resolution := "Done" }
              else { id := "A-1", status := "To Do" }] },
        calls + 1) }

/-- A verdict changes and a mark is cleared when another issue turns out to have been moved. -/
theorem verdict_lost_when_issue_moved :
    let start : Run Nat :=
      { session :=
          { serverVersion := Version.zero, policy := RetryPolicy.once, index := SortedMap.empty }
        world := { memory := 0 } }
    let middle := start.performAll movingSources
      [.ask (.isOpen ⟨.jira, "A-1"⟩), .markDeselected ⟨.jira, "A-1"⟩]
    let after := middle.performAll movingSources [.ask (.isOpen ⟨.jira, "OLD-1"⟩)]
    let found (run : Run Nat) :=
      (run.session.index.record? ⟨.jira, "A-1"⟩).map fun record =>
        (record.isOpen, record.isDeselected)
    found middle = some (some false, some true) ∧ found after = some (some true, none) := by
  decide +kernel

end TestGate
