import TestGate.Proofs.Heard
import TestGate.Proofs.Requests

/-!
What a request is answered with, whichever way its records come: from cache files, from the tracker,
made up, or from memory. Main statement: an issue that cache files know comes with its record there,
every other one with a record about it, and a record that neither cache files nor the tracker have
given for the request is a fallback record for an issue that cache files do not know.
-/

namespace TestGate

open Issue

variable {σ : Type}

/-! ## Answers on the way -/

namespace World

/-- Whether calls lead from one state of the world to another, whatever they are answered with. -/
def Reaches (sources : IssueSources σ) (before after : World σ) : Prop :=
  ∃ answers, Leads sources before answers after

/-- Whether on the way from one state of the world to another a tracker has been asked for these ids
and has answered with these records. -/
def HasAnswered (sources : IssueSources σ) (tracker : Tracker) (ids : List String)
    (answer : List Record) (before after : World σ) : Prop :=
  ∃ middle, Reaches sources before middle ∧
    (middle.ask (sources tracker) tracker ids).1 = .ok answer ∧
      Reaches sources (middle.ask (sources tracker) tracker ids).2 after

variable {sources : IssueSources σ} {first second third : World σ}

namespace Reaches

theorem refl
    (world : World σ) :
    Reaches sources world world :=
  ⟨[], .refl world⟩

theorem trans
    (front : Reaches sources first second) (back : Reaches sources second third) :
    Reaches sources first third := by
  obtain ⟨_, early⟩ := front
  obtain ⟨_, late⟩ := back
  exact ⟨_, early.trans late⟩

theorem noteAll
    (sources : IssueSources σ) (world : World σ) (notices : List Notice) :
    Reaches sources world (world.record (notices.map .noted)) :=
  ⟨[], .noteAll sources world notices⟩

theorem note
    (world : World σ) (notice : Notice) :
    Reaches sources world (world.note notice) :=
  noteAll sources world [notice]

/-- A failed attempt, the notice about it and the wait before the next one. -/
theorem retry
    (tracker : Tracker) (ids : List String) (world : World σ) (notice : Notice) (delay : Nat) :
    Reaches sources world
      ((world.ask (sources tracker) tracker ids).2.record [.noted notice, .waited delay]) :=
  trans ⟨_, .ask world tracker ids⟩ ⟨[], _, rfl, rfl⟩

end Reaches

namespace HasAnswered

variable {tracker : Tracker} {ids : List String} {answer : List Record}

theorem before
    (reaches : Reaches sources first second)
    (answered : HasAnswered sources tracker ids answer second third) :
    HasAnswered sources tracker ids answer first third := by
  obtain ⟨middle, early, outcome, late⟩ := answered
  exact ⟨middle, reaches.trans early, outcome, late⟩

theorem after
    (answered : HasAnswered sources tracker ids answer first second)
    (reaches : Reaches sources second third) :
    HasAnswered sources tracker ids answer first third := by
  obtain ⟨middle, early, outcome, late⟩ := answered
  exact ⟨middle, early, outcome, late.trans reaches⟩

end HasAnswered

end World

/-! ## Calls -/

section Calls

variable (sources : IssueSources σ) (tracker : Tracker)

theorem fetchWithRetry_reaches
    (policy : RetryPolicy) (ids : List String) (world : World σ) :
    World.Reaches sources world
      (fetchWithRetry (sources tracker) tracker policy ids world).2 := by
  obtain ⟨answers, leads, _⟩ := attemptFetch_ensures sources (fun _ _ => True) tracker policy ids
    (policy.attempts - 1) 1 world
  exact ⟨answers, leads⟩

/-- What repeated attempts give in the end is the answer to one of them. -/
theorem attemptFetch_hasAnswered
    {policy : RetryPolicy} {ids : List String} {more attempt : Nat} {world : World σ}
    {answer : List Record}
    (outcome : (attemptFetch (sources tracker) tracker policy ids more attempt world).1 =
      .ok answer) :
    World.HasAnswered sources tracker ids answer world
      (attemptFetch (sources tracker) tracker policy ids more attempt world).2 := by
  induction more generalizing attempt world with
  | zero => exact ⟨world, .refl world, outcome, .refl _⟩
  | succ more inductionHypothesis =>
    rw [attemptFetch] at outcome ⊢
    split at outcome
    · rename_i records after asked
      cases outcome
      refine ⟨world, .refl world, congrArg Prod.fst asked, ?_⟩
      rw [asked]
      exact .refl after
    · rename_i error after asked
      obtain rfl : after = (world.ask (sources tracker) tracker ids).2 :=
        (congrArg Prod.snd asked).symm
      exact (inductionHypothesis outcome).before (.retry tracker ids world _ _)

theorem fetchWithRetry_hasAnswered
    {policy : RetryPolicy} {ids : List String} {world after : World σ} {answer : List Record}
    (fetched : fetchWithRetry (sources tracker) tracker policy ids world = (.ok answer, after)) :
    World.HasAnswered sources tracker ids answer world after := by
  have answered := attemptFetch_hasAnswered sources tracker (congrArg Prod.fst fetched)
  rwa [← fetchWithRetry, fetched] at answered

/-- Records as they come for ids that no cache file knows: one about each of them at least, and all
either from an answer to a call for these ids or made up for one of them. -/
structure Obtained (ids : List String) (records : List Record) (before after : World σ) : Prop where
  reaches : World.Reaches sources before after
  complete : ∀ id ∈ ids, ∃ record ∈ records, record.id = id
  founded : ∀ record ∈ records,
    (∃ answer, World.HasAnswered sources tracker ids answer before after ∧ record ∈ answer) ∨
      ∃ id ∈ ids, ∃ reason, record = Record.fallback id reason

variable {sources tracker}

/-- A fallback record for each id. -/
theorem Obtained.fallbacks
    {before after : World σ} (reaches : World.Reaches sources before after) (ids : List String)
    (reason : String) :
    Obtained sources tracker ids (ids.map fun id => Record.fallback id reason) before after where
  reaches := reaches
  complete id inIds := ⟨_, List.mem_map_of_mem inIds, rfl⟩
  founded record member := by
    obtain ⟨id, inIds, rfl⟩ := List.mem_map.mp member
    exact Or.inr ⟨id, inIds, reason, rfl⟩

/-- An answer, with a fallback record for each id that it leaves out. -/
theorem Obtained.answer
    {before after : World σ} {ids : List String} {answer : List Record}
    (reaches : World.Reaches sources before after)
    (answered : World.HasAnswered sources tracker ids answer before after) (reason : String) :
    Obtained sources tracker ids
      (answer ++ (Run.unanswered answer ids).map fun id => Record.fallback id reason) before after
      where
  reaches := reaches
  complete _ inIds := exists_mem_of_unanswered (fun _ => rfl) inIds
  founded record member := by
    rcases List.mem_append.mp member with inAnswer | madeUp
    · exact Or.inl ⟨answer, answered, inAnswer⟩
    · obtain ⟨id, missing, rfl⟩ := List.mem_map.mp madeUp
      exact Or.inr ⟨id, (List.mem_filter.mp missing).1, reason, rfl⟩

variable (sources tracker)

theorem fetchRemote_obtained
    (ids : List String) (run : Run σ) :
    Obtained sources tracker ids (run.fetchRemote sources tracker ids).1 run.world
      (run.fetchRemote sources tracker ids).2.world := by
  simp only [Run.fetchRemote]
  split
  · exact .fallbacks (.note run.world _) ids _
  · let calling := run.note (.calling tracker ids)
    have called : World.Reaches sources run.world calling.world := .note run.world _
    have attempted := called.trans <|
      fetchWithRetry_reaches sources tracker calling.session.policy ids calling.world
    split
    · rename_i answer after fetched
      rw [fetched] at attempted
      have answered := (fetchWithRetry_hasAnswered sources tracker fetched).before called
      have reported : World.Reaches sources after (after.record
          ((Run.unanswered answer ids).map fun id => .noted (.notFound tracker id))) := by
        have noted := World.Reaches.noteAll sources after
          ((Run.unanswered answer ids).map (.notFound tracker))
        simpa only [List.map_map, Function.comp_def] using noted
      exact .answer (attempted.trans reported) (answered.after reported) _
    · rename_i error after fetched
      rw [fetched] at attempted
      exact .fallbacks (attempted.trans (.note after _)) ids error

end Calls

/-! ## Requests -/

/-- Records as they come for a request in a run, looked at from a start with nothing in memory:
whatever cache files hold for one of the ids, a record about each other id, and no record but these,
what the tracker has answered to a call for the other ids, and fallback records for them. -/
structure Run.IsBatch (sources : IssueSources σ) (start run : Run σ) (tracker : Tracker)
    (ids : List String) (records : List Record) : Prop where
  stocked : ∀ id ∈ ids, ∀ record, run.session.cached.find? ⟨tracker, id⟩ = some record →
    record ∈ records
  complete : ∀ id ∈ ids, run.session.cached.find? ⟨tracker, id⟩ = none →
    ∃ record ∈ records, record.id = id
  founded : ∀ record ∈ records,
    (∃ id ∈ ids, run.session.cached.find? ⟨tracker, id⟩ = some record) ∨
      (∃ answer,
        World.HasAnswered sources tracker (run.missing tracker (SortedMap.distinct ids)) answer
            start.world run.world ∧
          record ∈ answer) ∨
      ∃ id ∈ ids, run.session.cached.find? ⟨tracker, id⟩ = none ∧
        ∃ reason, record = Record.fallback id reason

namespace Run

variable {sources : IssueSources σ} {start run : Run σ}

theorem missing_congr
    {after : Run σ} (sameCache : after.session.cached = run.session.cached) (tracker : Tracker)
    (wanted : List String) :
    after.missing tracker wanted = run.missing tracker wanted := by
  rw [missing, missing, sameCache]

namespace IsBatch

variable {tracker : Tracker} {ids : List String} {records : List Record}

/-- The order and the repetitions of the ids do not count. -/
theorem congr
    {others : List String}
    (batch : start.IsBatch sources run tracker ids records) (same : ∀ id, id ∈ ids ↔ id ∈ others) :
    start.IsBatch sources run tracker others records where
  stocked id member := batch.stocked id ((same id).mpr member)
  complete id member := batch.complete id ((same id).mpr member)
  founded := by
    simp only [← same, ← SortedMap.distinct_congr same]
    exact batch.founded

/-- A batch stays one while the run goes on. -/
theorem later
    {after : Run σ}
    (batch : start.IsBatch sources run tracker ids records)
    (sameCache : after.session.cached = run.session.cached)
    (reaches : World.Reaches sources run.world after.world) :
    start.IsBatch sources after tracker ids records where
  stocked := by
    rw [sameCache]
    exact batch.stocked
  complete := by
    rw [sameCache]
    exact batch.complete
  founded record member := by
    rw [sameCache, missing_congr sameCache]
    rcases batch.founded record member with fromCache | ⟨answer, answered, inAnswer⟩ | madeUp
    · exact Or.inl fromCache
    · exact Or.inr (Or.inl ⟨answer, answered.after reaches, inAnswer⟩)
    · exact Or.inr (Or.inr madeUp)

/-- The records from cache files, with those that come for all other ids. -/
theorem stocked_append
    {wanted : List String} (isDistinct : SortedMap.distinct wanted = wanted)
    {fetched : List Record} {after : Run σ} (reached : World.Reaches sources start.world run.world)
    (sameCache : after.session.cached = run.session.cached)
    (obtained : Obtained sources tracker (run.missing tracker wanted) fetched run.world
      after.world) :
    start.IsBatch sources after tracker wanted (run.stocked tracker wanted ++ fetched) where
  stocked id member record found := by
    rw [sameCache] at found
    exact List.mem_append_left _ (List.mem_filterMap.mpr ⟨id, member, found⟩)
  complete id member unknown := by
    rw [sameCache] at unknown
    have isMissing : id ∈ run.missing tracker wanted :=
      List.mem_filter.mpr ⟨member, Option.isNone_iff_eq_none.mpr unknown⟩
    obtain ⟨record, inFetched, about⟩ := obtained.complete id isMissing
    exact ⟨record, List.mem_append_right _ inFetched, about⟩
  founded record member := by
    rw [sameCache, missing_congr sameCache, isDistinct]
    rcases List.mem_append.mp member with inStock | inFetched
    · exact Or.inl (List.mem_filterMap.mp inStock)
    · rcases obtained.founded record inFetched with
        ⟨answer, answered, inAnswer⟩ | ⟨id, isMissing, reason, rfl⟩
      · exact Or.inr (Or.inl ⟨answer, answered.before reached, inAnswer⟩)
      · obtain ⟨inWanted, unknown⟩ := List.mem_filter.mp isMissing
        exact Or.inr (Or.inr ⟨id, inWanted, Option.isNone_iff_eq_none.mp unknown, reason, rfl⟩)

end IsBatch

/-! ## What is remembered -/

/-- Whether calls lead from the start to a run, and all that it remembers are batches. -/
structure RemembersBatches (sources : IssueSources σ) (start run : Run σ) : Prop where
  reached : World.Reaches sources start.world run.world
  remembered : ∀ tracker wanted records,
    ((tracker, wanted), records) ∈ run.session.remembered →
      start.IsBatch sources run tracker wanted records

namespace RemembersBatches

/-- Nothing is remembered but what was before. -/
theorem onward
    {after : Run σ}
    (batches : start.RemembersBatches sources run)
    (sameSession : after.session.remembered = run.session.remembered ∧
      after.session.cached = run.session.cached)
    (reaches : World.Reaches sources run.world after.world) :
    start.RemembersBatches sources after where
  reached := batches.reached.trans reaches
  remembered tracker wanted records member := by
    rw [sameSession.1] at member
    exact (batches.remembered tracker wanted records member).later sameSession.2 reaches

theorem remember
    {tracker : Tracker} {wanted : List String} {records : List Record}
    (batches : start.RemembersBatches sources run)
    (batch : start.IsBatch sources run tracker wanted records) :
    start.RemembersBatches sources (run.remember tracker wanted records) where
  reached := batches.reached
  remembered other otherWanted otherRecords member := by
    rcases List.mem_cons.mp member with same | earlier
    · cases same
      exact batch.later rfl (.refl run.world)
    · exact (batches.remembered other otherWanted otherRecords earlier).later rfl (.refl run.world)

/-- A request is answered with a batch, and so are all equal ones from then on. -/
theorem fetchBatch
    (batches : start.RemembersBatches sources run) (tracker : Tracker) (ids : List String) :
    start.IsBatch sources (run.fetchBatch sources tracker ids).2 tracker ids
        (run.fetchBatch sources tracker ids).1 ∧
      start.RemembersBatches sources (run.fetchBatch sources tracker ids).2 := by
  have sameIds : ∀ id, id ∈ SortedMap.distinct ids ↔ id ∈ ids := SortedMap.mem_distinct ids
  have isDistinct := SortedMap.distinct_congr sameIds
  have replies := fetchBatch_replies sources tracker ids run
  revert replies
  generalize run.fetchBatch sources tracker ids = result
  intro replies
  cases replies with
  | nothing noneWanted =>
    have noIds : ∀ id, id ∉ ids := fun id member => by
      rw [← sameIds, noneWanted] at member
      cases member
    exact ⟨⟨fun id member => absurd member (noIds id), fun id member => absurd member (noIds id),
      nofun⟩, batches⟩
  | again earlier =>
    have noted : start.RemembersBatches sources
        (run.note (.remembered tracker (SortedMap.distinct ids))) :=
      batches.onward ⟨rfl, rfl⟩ (.note run.world _)
    exact ⟨(noted.remembered _ _ _ earlier).congr sameIds, noted⟩
  | fromStock noneMissing =>
    have nothing : Obtained sources tracker (run.missing tracker (SortedMap.distinct ids)) []
        run.world run.world :=
      ⟨.refl run.world, by simp [noneMissing], nofun⟩
    have batch := IsBatch.stocked_append isDistinct batches.reached rfl nothing
    rw [List.append_nil] at batch
    have remembered := batches.remember batch
    exact ⟨(remembered.remembered _ _ _ List.mem_cons_self).congr sameIds, remembered⟩
  | fromTracker someMissing sameSession asked =>
    rename_i fetched after
    have obtained := fetchRemote_obtained sources tracker
      (run.missing tracker (SortedMap.distinct ids)) run
    rw [asked] at obtained
    have sameCache : after.session.cached = run.session.cached := by rw [sameSession]
    have batch := IsBatch.stocked_append isDistinct batches.reached sameCache obtained
    have onward := batches.onward ⟨by rw [sameSession], sameCache⟩ obtained.reaches
    have remembered := onward.remember batch
    exact ⟨(remembered.remembered _ _ _ List.mem_cons_self).congr sameIds, remembered⟩

end RemembersBatches

/-- From a start with nothing in memory, only batches are ever remembered. -/
theorem Proceeds.remembersBatches
    (fresh : start.session.remembered = []) (proceeds : start.Proceeds sources run) :
    start.RemembersBatches sources run := by
  induction proceeds with
  | unchanged =>
    refine ⟨.refl start.world, fun tracker wanted records member => ?_⟩
    rw [fresh] at member
    cases member
  | @note run _ notice inductionHypothesis =>
    exact inductionHypothesis.onward ⟨rfl, rfl⟩ (.note run.world notice)
  | @withIndex run _ index inductionHypothesis =>
    exact inductionHypothesis.onward ⟨rfl, rfl⟩ (.refl run.world)
  | fetchBatch _ tracker ids inductionHypothesis =>
    exact (inductionHypothesis.fetchBatch tracker ids).2

end Run

/-! ## Complete batches -/

/-- In every run that a start with nothing in memory becomes, by whatever operations and for any
cache files and trackers: a request is answered with the record in cache files for each issue that
they know and with a record about each other one; and where a record comes from neither cache files
nor an answer of the tracker to a call for these other issues, made now or for an equal request
before, it is a fallback record for one of them. Cache files are read before the first request, so
that the memory of a start is empty. -/
theorem requests_are_answered_in_full
    {sources : IssueSources σ} {start run : Run σ}
    (fresh : start.session.remembered = []) (proceeds : start.Proceeds sources run)
    (tracker : Tracker) (ids : List String) :
    start.IsBatch sources (run.fetchBatch sources tracker ids).2 tracker ids
      (run.fetchBatch sources tracker ids).1 :=
  ((proceeds.remembersBatches fresh).fetchBatch tracker ids).1

/-- A record made up while the tracker could not be reached comes from memory later on, when one
record of another request comes from the cache and one from the tracker. -/
theorem requests_are_answered_in_full_cachedStart :
    let run := cachedStart.performAll shakySources [.resolve]
    let batch (ids : List String) := run.fetchBatch shakySources .bugzilla ids
    (∀ ids, cachedStart.IsBatch shakySources (batch ids).2 .bugzilla ids (batch ids).1) ∧
      (batch ["7"]).1.map (fun record => (record.id, record.error)) = [("7", some "unreachable")] ∧
      (batch ["9", "5"]).1.map (fun record => (record.id, record.error)) =
        [("5", none), ("9", none)] ∧
      callsOf .bugzilla (batch ["7"]).2.world.journal = callsOf .bugzilla run.world.journal := by
  intro run batch
  have proceeds : cachedStart.Proceeds shakySources run := Run.Proceeds.unchanged.performAll _
  refine ⟨fun ids => requests_are_answered_in_full rfl proceeds .bugzilla ids, ?_, ?_, ?_⟩
  · decide +kernel
  · decide +kernel
  · decide +kernel

end TestGate
