import TestGate.Proofs.SortedMap
import TestGate.Resolver

/-!
What a fetch delivers. A `Supply` says what is known about the sources of records: of cache files,
of earlier requests and of what the trackers may answer. Main statement: whatever way the records of
a request come, they are about the issues asked for and no others, every issue asked for has one,
and all of them are as the supply promises.
-/

namespace TestGate

open Issue

/-- A list parted by a test has the same members. -/
theorem mem_parted
    {α : Type} (items : List α) (test : α → Bool) (item : α) :
    item ∈ items ↔ item ∈ (items.filter fun each => !test each) ++ items.filter test := by
  rw [List.mem_append, List.mem_filter, List.mem_filter]
  cases test item <;> simp

/-- With one record made up for each id that is left out, there is a record about every id. -/
theorem exists_mem_of_unanswered
    {records : List Record} {ids : List String} {make : String → Record}
    (about : ∀ id, (make id).id = id) {id : String} (inIds : id ∈ ids) :
    ∃ record ∈ records ++ (Run.unanswered records ids).map make, record.id = id := by
  by_cases answered : ∃ record ∈ records, record.id = id
  · obtain ⟨record, member, same⟩ := answered
    exact ⟨record, List.mem_append_left _ member, same⟩
  · have missing : id ∈ Run.unanswered records ids := by
      refine List.mem_filter.mpr ⟨inIds, ?_⟩
      simpa using answered
    exact ⟨make id, List.mem_append_right _ (List.mem_map_of_mem missing), about id⟩

/-- Records as they come for the ids of a request: about these ids only, about each of them, and all
of them good. -/
structure Delivery
    (Good : Reference → Record → Prop) (tracker : Tracker) (ids : List String)
    (records : List Record) :
    Prop where
  asked : ∀ record ∈ records, record.id ∈ ids
  good : ∀ record ∈ records, Good ⟨tracker, record.id⟩ record
  complete : ∀ id ∈ ids, ∃ record ∈ records, record.id = id

namespace Delivery

variable {Good : Reference → Record → Prop} {tracker : Tracker} {ids : List String}

/-- What is delivered depends on which ids are asked for, and not on their order. -/
theorem congr
    {others : List String} {records : List Record}
    (delivery : Delivery Good tracker ids records)
    (same : ∀ id, id ∈ others ↔ id ∈ ids) :
    Delivery Good tracker others records where
  asked record member := (same _).mpr (delivery.asked record member)
  good := delivery.good
  complete id member := delivery.complete id ((same id).mp member)

theorem append
    {front back : List String} {first second : List Record}
    (early : Delivery Good tracker front first) (late : Delivery Good tracker back second) :
    Delivery Good tracker (front ++ back) (first ++ second) where
  asked record member := by
    rcases List.mem_append.mp member with inFirst | inSecond
    · exact List.mem_append_left _ (early.asked record inFirst)
    · exact List.mem_append_right _ (late.asked record inSecond)
  good record member := by
    rcases List.mem_append.mp member with inFirst | inSecond
    · exact early.good record inFirst
    · exact late.good record inSecond
  complete id member := by
    rcases List.mem_append.mp member with inFront | inBack
    · obtain ⟨record, inFirst, same⟩ := early.complete id inFront
      exact ⟨record, List.mem_append_left _ inFirst, same⟩
    · obtain ⟨record, inSecond, same⟩ := late.complete id inBack
      exact ⟨record, List.mem_append_right _ inSecond, same⟩

/-- One record for each id. -/
theorem of_map
    {make : String → Record}
    (about : ∀ id ∈ ids, (make id).id = id) (good : ∀ id ∈ ids, Good ⟨tracker, id⟩ (make id)) :
    Delivery Good tracker ids (ids.map make) where
  asked record member := by
    obtain ⟨id, inIds, rfl⟩ := List.mem_map.mp member
    rwa [about id inIds]
  good record member := by
    obtain ⟨id, inIds, rfl⟩ := List.mem_map.mp member
    rw [about id inIds]
    exact good id inIds
  complete id member := ⟨make id, List.mem_map_of_mem member, about id member⟩

/-- Records about ids of a request, made up by one for each id about which there is none. -/
theorem fill
    {records : List Record} (make : String → Record)
    (asked : ∀ record ∈ records, record.id ∈ ids)
    (good : ∀ record ∈ records, Good ⟨tracker, record.id⟩ record)
    (about : ∀ id, (make id).id = id)
    (missingGood : ∀ id ∈ Run.unanswered records ids, Good ⟨tracker, id⟩ (make id)) :
    Delivery Good tracker ids (records ++ (Run.unanswered records ids).map make) where
  asked record member := by
    rcases List.mem_append.mp member with found | made
    · exact asked record found
    · obtain ⟨id, missing, rfl⟩ := List.mem_map.mp made
      rw [about]
      exact (List.mem_filter.mp missing).1
  good record member := by
    rcases List.mem_append.mp member with found | made
    · exact good record found
    · obtain ⟨id, missing, rfl⟩ := List.mem_map.mp made
      rw [about]
      exact missingGood id missing
  complete _ inIds := exists_mem_of_unanswered about inIds

end Delivery

variable {σ : Type}

/-! ## Repeated calls -/

theorem exists_reply_of_attemptFetch
    {source : IssueSource σ} {tracker : Tracker} {policy : RetryPolicy} {ids : List String}
    {more attempt : Nat} {world : World σ} {records : List Record}
    (outcome : (attemptFetch source tracker policy ids more attempt world).1 = .ok records) :
    ∃ memory, (source.fetch ids memory).1.outcome = .ok records := by
  induction more generalizing attempt world with
  | zero => exact ⟨world.memory, outcome⟩
  | succ more inductionHypothesis =>
    rw [attemptFetch] at outcome
    split at outcome
    · rename_i answered after asked
      cases outcome
      exact ⟨world.memory, congrArg Prod.fst asked⟩
    · exact inductionHypothesis outcome

/-- What is delivered in the end is the reply to a call for the same ids. -/
theorem exists_reply_of_fetchWithRetry
    {source : IssueSource σ} {tracker : Tracker} {policy : RetryPolicy} {ids : List String}
    {world : World σ} {records : List Record}
    (outcome : (fetchWithRetry source tracker policy ids world).1 = .ok records) :
    ∃ memory, (source.fetch ids memory).1.outcome = .ok records :=
  exists_reply_of_attemptFetch outcome

namespace Run

/-! ## What fetching leaves alone -/

theorem fetchRemote_session
    (sources : IssueSources σ) (tracker : Tracker) (ids : List String) (run : Run σ) :
    (run.fetchRemote sources tracker ids).2.session = run.session := by
  simp only [fetchRemote]
  split
  · rfl
  · split <;> rfl

/-- A look-up leaves what making sure of the issue leaves. -/
theorem lookUp_run
    {α : Type} (sources : IssueSources σ) (question : Session → Reference → Except Failure α)
    (issue : Reference) (run : Run σ) :
    (run.lookUp sources question issue).2 = (run.ensure sources issue).2 := by
  rw [lookUp]
  generalize run.ensure sources issue = result
  obtain ⟨outcome, after⟩ := result
  cases outcome with
  | ok done => rfl
  | error failure => rfl

/-! ## The ways in which a request is answered -/

/-- The records that cache files hold for some ids. -/
def stocked (run : Run σ) (tracker : Tracker) (ids : List String) : List Record :=
  ids.filterMap fun id => run.session.cached.find? ⟨tracker, id⟩

/-- The ids for which cache files hold no record. -/
def missing (run : Run σ) (tracker : Tracker) (ids : List String) : List String :=
  ids.filter fun id => (run.session.cached.find? ⟨tracker, id⟩).isNone

def remember (run : Run σ) (tracker : Tracker) (ids : List String) (records : List Record) :
    Run σ :=
  { run with
    session :=
      { run.session with remembered := ((tracker, ids), records) :: run.session.remembered } }

/-- The replies to a request: none if nothing is wanted, those to an equal request made before, or
records from cache files with those that the tracker is asked for. -/
inductive Replies (sources : IssueSources σ) (tracker : Tracker) (wanted : List String)
    (run : Run σ) :
    List Record × Run σ → Prop
  | nothing (noneWanted : wanted = []) : Replies sources tracker wanted run ([], run)
  | again {records : List Record}
      (earlier : ((tracker, wanted), records) ∈ run.session.remembered) :
      Replies sources tracker wanted run (records, run.note (.remembered tracker wanted))
  | fromStock (noneMissing : run.missing tracker wanted = []) :
      Replies sources tracker wanted run
        (run.stocked tracker wanted,
          run.remember tracker wanted (run.stocked tracker wanted))
  | fromTracker {fetched : List Record} {after : Run σ}
      (someMissing : run.missing tracker wanted ≠ []) (sameSession : after.session = run.session)
      (asked : run.fetchRemote sources tracker (run.missing tracker wanted) = (fetched, after)) :
      Replies sources tracker wanted run
        (run.stocked tracker wanted ++ fetched,
          after.remember tracker wanted (run.stocked tracker wanted ++ fetched))

theorem fetchBatch_replies
    (sources : IssueSources σ) (tracker : Tracker) (ids : List String) (run : Run σ) :
    Replies sources tracker (SortedMap.distinct ids) run (run.fetchBatch sources tracker ids) := by
  rw [fetchBatch]
  by_cases noneWanted : (SortedMap.distinct ids).isEmpty = true
  · rw [if_pos noneWanted]
    exact .nothing (List.isEmpty_iff.mp noneWanted)
  · rw [if_neg noneWanted]
    cases earlier : run.session.remembered.lookup (tracker, SortedMap.distinct ids) with
    | some records =>
      obtain ⟨front, back, split, _⟩ := List.lookup_eq_some_iff.mp earlier
      exact .again (by simp [split])
    | none =>
      by_cases noneMissing : (run.missing tracker (SortedMap.distinct ids)).isEmpty = true
      · have replied : Replies sources tracker (SortedMap.distinct ids) run _ :=
          .fromStock (List.isEmpty_iff.mp noneMissing)
        simp only
        rw [missing] at noneMissing
        rw [if_pos noneMissing]
        rw [← List.append_nil (run.stocked _ _)] at replied
        exact replied
      · have sameSession := fetchRemote_session sources tracker
          (run.missing tracker (SortedMap.distinct ids)) run
        cases asked :
          run.fetchRemote sources tracker (run.missing tracker (SortedMap.distinct ids)) with
        | mk fetched after =>
          rw [asked] at sameSession
          have replied :=
            Replies.fromTracker (mt List.isEmpty_iff.mpr noneMissing) sameSession asked
          simp only
          rw [missing] at noneMissing asked
          rw [if_neg noneMissing, asked]
          exact replied

/-- A fetch changes nothing in the session but what it remembers. -/
theorem fetchBatch_session
    (sources : IssueSources σ) (tracker : Tracker) (ids : List String) (run : Run σ) :
    ∃ remembered,
      (run.fetchBatch sources tracker ids).2.session =
        { run.session with remembered := remembered } := by
  have replies := fetchBatch_replies sources tracker ids run
  revert replies
  generalize run.fetchBatch sources tracker ids = result
  intro replies
  cases replies with
  | nothing noneWanted => exact ⟨run.session.remembered, rfl⟩
  | again earlier => exact ⟨run.session.remembered, rfl⟩
  | fromStock noneMissing => exact ⟨_, rfl⟩
  | fromTracker someMissing sameSession asked =>
    rw [remember, sameSession]
    exact ⟨_, rfl⟩

theorem fetchBatch_index
    (sources : IssueSources σ) (tracker : Tracker) (ids : List String) (run : Run σ) :
    (run.fetchBatch sources tracker ids).2.session.index = run.session.index := by
  obtain ⟨remembered, same⟩ := fetchBatch_session sources tracker ids run
  rw [same]

theorem fetchSingle_index
    (sources : IssueSources σ) (issue : Reference) (run : Run σ) :
    (run.fetchSingle sources issue).2.session.index = run.session.index :=
  fetchBatch_index sources issue.tracker [issue.id] run

end Run

/-! ## Supplies -/

/-- What is known about where records come from: the version of the server, the records from cache
files, what holds of each record that is fetched for an issue, which issues may be fetched, and what
holds of the world all the time. -/
structure Supply (sources : IssueSources σ) where
  version : Version
  stock : SortedMap Reference Record
  Good : Reference → Record → Prop
  Askable : Reference → Prop
  Calm : World σ → Prop
  stocked : ∀ {issue record}, stock.find? issue = some record →
    record.id = issue.id ∧ Good issue record
  calm_note : ∀ {world} notice, Calm world → Calm (world.note notice)
  remote : ∀ {tracker ids} (run : Run σ), ids ≠ [] →
    (∀ id ∈ ids, Askable ⟨tracker, id⟩ ∧ stock.find? ⟨tracker, id⟩ = none) → Calm run.world →
      Delivery Good tracker ids (run.fetchRemote sources tracker ids).1 ∧
        Calm (run.fetchRemote sources tracker ids).2.world

namespace Supply

variable {sources : IssueSources σ}

/-- Whether a run lives on a supply: its cache is the stock, and all that it remembers was
delivered. -/
structure Feeds (supply : Supply sources) (run : Run σ) : Prop where
  versioned : run.session.serverVersion = supply.version
  cached : run.session.cached = supply.stock
  remembered : ∀ tracker wanted records,
    ((tracker, wanted), records) ∈ run.session.remembered →
      Delivery supply.Good tracker wanted records
  calm : supply.Calm run.world

namespace Feeds

variable {supply : Supply sources} {run : Run σ}

theorem withIndex
    (feeds : supply.Feeds run) (index : Index) :
    supply.Feeds (run.withIndex index) :=
  ⟨feeds.versioned, feeds.cached, feeds.remembered, feeds.calm⟩

theorem note
    (feeds : supply.Feeds run) (notice : Notice) :
    supply.Feeds (run.note notice) :=
  ⟨feeds.versioned, feeds.cached, feeds.remembered, supply.calm_note notice feeds.calm⟩

theorem remember
    {tracker : Tracker} {wanted : List String} {records : List Record}
    (feeds : supply.Feeds run) (delivery : Delivery supply.Good tracker wanted records) :
    supply.Feeds (run.remember tracker wanted records) where
  versioned := feeds.versioned
  cached := feeds.cached
  remembered other otherWanted otherRecords member := by
    rcases List.mem_cons.mp member with same | earlier
    · cases same
      exact delivery
    · exact feeds.remembered other otherWanted otherRecords earlier
  calm := feeds.calm

/-- The records from cache files are delivered as they are. -/
theorem stocked
    (feeds : supply.Feeds run) (tracker : Tracker) (ids : List String) :
    Delivery supply.Good tracker
      (ids.filter fun id => !(run.session.cached.find? ⟨tracker, id⟩).isNone)
      (run.stocked tracker ids) where
  asked record member := by
    obtain ⟨id, inIds, found⟩ := List.mem_filterMap.mp member
    obtain ⟨about, _⟩ := supply.stocked (feeds.cached ▸ found)
    rw [about]
    exact List.mem_filter.mpr ⟨inIds, by simp [found]⟩
  good record member := by
    obtain ⟨id, _, found⟩ := List.mem_filterMap.mp member
    obtain ⟨about, good⟩ := supply.stocked (feeds.cached ▸ found)
    rw [about]
    exact good
  complete id member := by
    obtain ⟨inIds, present⟩ := List.mem_filter.mp member
    obtain ⟨record, found⟩ := Option.isSome_iff_exists.mp (by simpa using present)
    obtain ⟨about, _⟩ := supply.stocked (feeds.cached ▸ found)
    exact ⟨record, List.mem_filterMap.mpr ⟨id, inIds, found⟩, about⟩

theorem fetchRemote
    {ids : List String}
    (feeds : supply.Feeds run) (tracker : Tracker) (nonempty : ids ≠ [])
    (missing : ∀ id ∈ ids,
      supply.Askable ⟨tracker, id⟩ ∧ run.session.cached.find? ⟨tracker, id⟩ = none) :
    Delivery supply.Good tracker ids (run.fetchRemote sources tracker ids).1 ∧
      supply.Feeds (run.fetchRemote sources tracker ids).2 := by
  rw [feeds.cached] at missing
  obtain ⟨delivery, calm⟩ := supply.remote run nonempty missing feeds.calm
  refine ⟨delivery, ?_, ?_, ?_, calm⟩
  · rw [Run.fetchRemote_session, feeds.versioned]
  · rw [Run.fetchRemote_session, feeds.cached]
  · rw [Run.fetchRemote_session]
    exact feeds.remembered

/-- What a request is answered with, and that the run still lives on the supply. -/
theorem fetchBatch
    {tracker : Tracker} {ids : List String}
    (feeds : supply.Feeds run) (askable : ∀ id ∈ ids, supply.Askable ⟨tracker, id⟩) :
    Delivery supply.Good tracker ids (run.fetchBatch sources tracker ids).1 ∧
      supply.Feeds (run.fetchBatch sources tracker ids).2 := by
  have sameIds : ∀ id, id ∈ ids ↔ id ∈ SortedMap.distinct ids := fun id =>
    (SortedMap.mem_distinct ids id).symm
  have replies := Run.fetchBatch_replies sources tracker ids run
  revert replies
  generalize run.fetchBatch sources tracker ids = result
  intro replies
  cases replies with
  | nothing noneWanted =>
    refine ⟨⟨by simp, by simp, fun id member => ?_⟩, feeds⟩
    rw [sameIds, noneWanted] at member
    cases member
  | again earlier => exact ⟨(feeds.remembered _ _ _ earlier).congr sameIds, feeds.note _⟩
  | fromStock noneMissing =>
    have allStocked : ∀ id, id ∈ SortedMap.distinct ids ↔
        id ∈ (SortedMap.distinct ids).filter fun id =>
          !(run.session.cached.find? ⟨tracker, id⟩).isNone := by
      intro id
      rw [List.mem_filter]
      rw [Run.missing, List.filter_eq_nil_iff] at noneMissing
      exact ⟨fun member => ⟨member, by simp [noneMissing id member]⟩, And.left⟩
    have delivery := (feeds.stocked tracker (SortedMap.distinct ids)).congr allStocked
    exact ⟨delivery.congr sameIds, feeds.remember delivery⟩
  | fromTracker someMissing sameSession asked =>
    have remote := feeds.fetchRemote tracker someMissing <| by
      intro id member
      obtain ⟨inDistinct, blank⟩ := List.mem_filter.mp member
      exact ⟨askable id ((sameIds id).mpr inDistinct), by simpa using blank⟩
    rw [asked] at remote
    have delivery := ((feeds.stocked tracker (SortedMap.distinct ids)).append remote.1).congr
      (mem_parted _ _)
    exact ⟨delivery.congr sameIds, remote.2.remember delivery⟩

/-- The record that is fetched for a single issue. -/
theorem fetchSingle
    {issue : Reference}
    (feeds : supply.Feeds run) (askable : supply.Askable issue) :
    supply.Good issue (run.fetchSingle sources issue).1 ∧
      supply.Feeds (run.fetchSingle sources issue).2 := by
  have askables : ∀ id ∈ [issue.id], supply.Askable ⟨issue.tracker, id⟩ := by
    intro id member
    rw [List.mem_singleton.mp member]
    exact askable
  obtain ⟨delivery, further⟩ := feeds.fetchBatch askables
  refine ⟨?_, further⟩
  obtain ⟨record, member, same⟩ := delivery.complete issue.id List.mem_cons_self
  have isFound :
      ((run.fetchBatch sources issue.tracker [issue.id]).1.find?
        fun record => record.id == issue.id).isSome = true := by
    rw [List.find?_isSome]
    exact ⟨record, member, beq_iff_eq.mpr same⟩
  obtain ⟨first, found⟩ := Option.isSome_iff_exists.mp isFound
  have about : first.id = issue.id := by simpa using List.find?_some found
  have good := delivery.good first (List.mem_of_find?_eq_some found)
  rw [about] at good
  simp only [Run.fetchSingle, found, Option.getD_some]
  exact good

end Feeds

end Supply

end TestGate
