import Mathlib.Data.List.Sort
import TestGate.Proofs.LastingVerdicts
import TestGate.Proofs.Replay

/-!
What the resolver asks for. All that it does is made of requests, changes of the index and notices.
Main statement: whatever is carried out, the trackers are only asked for what is due, nobody waits
but between two attempts at one call, and an equal request is answered as before without a call.
-/

namespace TestGate

open Issue

variable {σ : Type}

/-! ## Orderly events -/

/-- The calls among events, each with its tracker. -/
def requestsOf (events : List Event) : List (Tracker × List String) :=
  events.filterMap fun
    | .asked tracker ids => some (tracker, ids)
    | _ => none

theorem requestsOf_append
    (front back : List Event) :
    requestsOf (front ++ back) = requestsOf front ++ requestsOf back :=
  List.filterMap_append

theorem requestsOf_noted
    (notices : List Notice) :
    requestsOf (notices.map .noted) = [] := by
  simp [requestsOf, List.filterMap_map]

theorem requestsOf_asked
    (tracker : Tracker) (ids : List String) (notices : List Notice) :
    requestsOf (.asked tracker ids :: notices.map .noted) = [(tracker, ids)] :=
  congrArg _ (requestsOf_noted notices)

/-- Whether a tracker may be asked for some ids: it has credentials, and the ids rise strictly, are
at least one, and are not in a cache. -/
structure IsDue (sources : IssueSources σ) (cached : SortedMap Reference Record)
    (request : Tracker × List String) : Prop where
  allowed : (sources request.1).hasCredentials = true
  nonempty : request.2 ≠ []
  increasing : request.2.Pairwise (· < ·)
  missing : ∀ id ∈ request.2, cached.find? ⟨request.1, id⟩ = none

/-- Whether all calls among events are due, and each wait stands between two attempts at one
call. -/
structure Orderly (sources : IssueSources σ) (cached : SortedMap Reference Record)
    (events : List Event) : Prop where
  due : ∀ request ∈ requestsOf events, IsDue sources cached request
  waits : ∀ front seconds back, events = front ++ .waited seconds :: back →
    ∃ request, (requestsOf front).getLast? = some request ∧
      (requestsOf back).head? = some request

namespace Orderly

variable {sources : IssueSources σ} {cached : SortedMap Reference Record} {front back : List Event}

theorem noted
    (sources : IssueSources σ) (cached : SortedMap Reference Record) (notices : List Notice) :
    Orderly sources cached (notices.map .noted) where
  due request member := by
    rw [requestsOf_noted] at member
    cases member
  waits front seconds back split := by
    have member : Event.waited seconds ∈ notices.map Event.noted := by simp [split]
    simp at member

theorem append
    (early : Orderly sources cached front) (late : Orderly sources cached back) :
    Orderly sources cached (front ++ back) where
  due request member := by
    rw [requestsOf_append] at member
    exact (List.mem_append.mp member).elim (early.due request) (late.due request)
  waits before seconds after split := by
    rcases List.append_eq_append_iff.mp split with ⟨between, rfl, rest⟩ | ⟨between, rfl, rest⟩
    · obtain ⟨request, isLast, isFirst⟩ := late.waits between seconds after rest
      exact ⟨request, by simp [requestsOf_append, isLast], isFirst⟩
    · cases between with
      | nil =>
        -- no wait comes before all calls
        obtain ⟨request, isLast, _⟩ := late.waits [] seconds after rest.symm
        cases isLast
      | cons event between =>
        obtain ⟨rfl, rfl⟩ := List.cons.inj rest
        obtain ⟨request, isLast, isFirst⟩ := early.waits before seconds between rfl
        exact ⟨request, isLast, by simp [requestsOf_append, isFirst]⟩

theorem asked
    {tracker : Tracker} {ids : List String}
    (due : IsDue sources cached (tracker, ids)) (notices : List Notice) :
    Orderly sources cached (.asked tracker ids :: notices.map .noted) where
  due request member := by
    rw [requestsOf_asked] at member
    exact List.mem_singleton.mp member ▸ due
  waits front seconds back split := by
    have member : Event.waited seconds ∈ Event.asked tracker ids :: notices.map Event.noted := by
      simp [split]
    simp at member

/-- A wait may be put between two attempts at one call. -/
theorem waited
    {request : Tracker × List String}
    (early : Orderly sources cached front) (isLast : (requestsOf front).getLast? = some request)
    (late : Orderly sources cached back) (isFirst : (requestsOf back).head? = some request)
    (seconds : Nat) :
    Orderly sources cached (front ++ .waited seconds :: back) where
  due other member := by
    have same : requestsOf (front ++ .waited seconds :: back) = requestsOf (front ++ back) := by
      simp [requestsOf]
    rw [same] at member
    exact (early.append late).due other member
  waits before pause after split := by
    rcases List.append_eq_append_iff.mp split with ⟨between, rfl, rest⟩ | ⟨between, rfl, rest⟩
    · cases between with
      | nil =>
        obtain ⟨_, rfl⟩ := List.cons.inj rest
        exact ⟨request, by simpa using isLast, isFirst⟩
      | cons event between =>
        obtain ⟨rfl, rfl⟩ := List.cons.inj rest
        obtain ⟨other, otherLast, otherFirst⟩ := late.waits between pause after rfl
        have otherLater :
            (requestsOf (front ++ .waited seconds :: between)).getLast? = some other := by
          have rejoined : requestsOf (front ++ .waited seconds :: between) =
              requestsOf front ++ requestsOf between :=
            requestsOf_append front (.waited seconds :: between)
          rw [rejoined, List.getLast?_append, otherLast, Option.some_or]
        exact ⟨other, otherLater, otherFirst⟩
    · cases between with
      | nil =>
        obtain ⟨_, rfl⟩ := List.cons.inj rest
        exact ⟨request, by simpa using isLast, isFirst⟩
      | cons event between =>
        obtain ⟨rfl, rfl⟩ := List.cons.inj rest
        obtain ⟨other, otherLast, otherFirst⟩ := early.waits before pause between rfl
        exact ⟨other, otherLast, by simp [requestsOf_append, otherFirst]⟩

end Orderly

/-- Whether only orderly events lie between two states of the world. -/
def World.Orderly (sources : IssueSources σ) (cached : SortedMap Reference Record)
    (before after : World σ) : Prop :=
  ∃ events, after.journal = before.journal ++ events ∧ TestGate.Orderly sources cached events

namespace World.Orderly

variable {sources : IssueSources σ} {cached : SortedMap Reference Record}

theorem refl
    (world : World σ) :
    World.Orderly sources cached world world :=
  ⟨[], (List.append_nil _).symm, .noted sources cached []⟩

theorem trans
    {first second third : World σ}
    (early : World.Orderly sources cached first second)
    (late : World.Orderly sources cached second third) :
    World.Orderly sources cached first third := by
  obtain ⟨front, journal, frontOrderly⟩ := early
  obtain ⟨back, laterJournal, backOrderly⟩ := late
  refine ⟨front ++ back, ?_, frontOrderly.append backOrderly⟩
  rw [laterJournal, journal, List.append_assoc]

theorem noteAll
    (world : World σ) (notices : List Notice) :
    World.Orderly sources cached world (world.record (notices.map .noted)) :=
  ⟨notices.map .noted, rfl, .noted sources cached notices⟩

theorem note
    (world : World σ) (notice : Notice) :
    World.Orderly sources cached world (world.note notice) :=
  noteAll world [notice]

end World.Orderly

/-! ## Calls -/

section Calls

variable (sources : IssueSources σ) {cached : SortedMap Reference Record}
variable {tracker : Tracker} {ids : List String}

theorem attemptFetch_orderly
    (due : IsDue sources cached (tracker, ids)) (policy : RetryPolicy) (more attempt : Nat)
    (world : World σ) :
    ∃ events,
      (attemptFetch (sources tracker) tracker policy ids more attempt world).2.journal =
          world.journal ++ events ∧
        Orderly sources cached events ∧ (requestsOf events).head? = some (tracker, ids) := by
  induction more generalizing attempt world with
  | zero => exact ⟨_, rfl, .asked due _, rfl⟩
  | succ more inductionHypothesis =>
    have asked : ∃ notices : List Notice, (world.ask (sources tracker) tracker ids).2.journal =
        world.journal ++ (.asked tracker ids :: notices.map .noted) :=
      ⟨_, rfl⟩
    rw [attemptFetch]
    revert asked
    generalize world.ask (sources tracker) tracker ids = reply
    obtain ⟨outcome, after⟩ := reply
    rintro ⟨notices, journal⟩
    replace journal : after.journal =
        world.journal ++ (.asked tracker ids :: notices.map .noted) := journal
    cases outcome with
    | ok records => exact ⟨_, journal, .asked due notices, rfl⟩
    | error error =>
      let retrying : Notice := .retrying tracker attempt policy.attempts error policy.delay
      obtain ⟨later, laterJournal, laterOrderly, isFirst⟩ := inductionHypothesis (attempt + 1)
        (after.record [.noted retrying, .waited policy.delay])
      -- the failed attempt and its notices come first, then the wait, then all other attempts
      have first := Orderly.asked due (notices ++ [retrying])
      have isLast := congrArg List.getLast? (requestsOf_asked tracker ids (notices ++ [retrying]))
      refine ⟨_, ?_, first.waited isLast laterOrderly isFirst policy.delay, rfl⟩
      rw [laterJournal]
      simp [World.record, journal]

theorem fetchRemote_orderly
    (nonempty : ids ≠ []) (increasing : ids.Pairwise (· < ·))
    (missing : ∀ id ∈ ids, cached.find? ⟨tracker, id⟩ = none) (run : Run σ) :
    World.Orderly sources cached run.world (run.fetchRemote sources tracker ids).2.world := by
  rw [Run.fetchRemote]
  by_cases allowed : (sources tracker).hasCredentials = true
  · have called : World.Orderly sources cached run.world (run.note (.calling tracker ids)).world :=
      .note run.world _
    have due : IsDue sources cached (tracker, ids) := ⟨allowed, nonempty, increasing, missing⟩
    obtain ⟨events, journal, orderly, _⟩ :=
      attemptFetch_orderly sources due run.session.policy (run.session.policy.attempts - 1) 1
        (run.note (.calling tracker ids)).world
    have fetched := called.trans ⟨events, journal, orderly⟩
    simp only [allowed, Bool.not_true, Bool.false_eq_true, if_false]
    revert fetched
    rw [← fetchWithRetry]
    rw [show (run.note (.calling tracker ids)).session.policy = run.session.policy from rfl]
    generalize fetchWithRetry (sources tracker) tracker run.session.policy ids
      (run.note (.calling tracker ids)).world = reply
    obtain ⟨outcome, after⟩ := reply
    intro fetched
    cases outcome with
    | error error => exact fetched.trans (.note after _)
    | ok records =>
      let missed : List Notice := (Run.unanswered records ids).map (.notFound tracker)
      have reported : World.Orderly sources cached after (after.record (missed.map .noted)) :=
        .noteAll after missed
      rw [List.map_map] at reported
      exact fetched.trans reported
  · simp only [allowed, Bool.not_false, if_true]
    exact .note run.world _

/-- A tracker without credentials is not asked. -/
theorem isQuiet_fetchRemote
    (forbidden : (sources tracker).hasCredentials = false) (ids : List String) (run : Run σ) :
    World.IsQuiet run.world (run.fetchRemote sources tracker ids).2.world := by
  simp only [Run.fetchRemote, forbidden, Bool.not_false, if_true]
  exact World.isQuiet_noteAll run.world [_]

end Calls

/-! ## Requests that are made again -/

theorem SortedMap.pairwise_distinct
    (ids : List String) :
    (SortedMap.distinct ids).Pairwise (· < ·) := by
  rw [SortedMap.distinct, SortedMap.keys, List.pairwise_map]
  exact (SortedMap.increasing _).imp fun below => compareOfLessAndEq_eq_lt.mp below

/-- Order and repetitions do not count. -/
theorem SortedMap.distinct_congr
    {left right : List String}
    (same : ∀ id, id ∈ left ↔ id ∈ right) :
    SortedMap.distinct left = SortedMap.distinct right :=
  (pairwise_distinct left).eq_of_mem_iff (pairwise_distinct right) fun {id} => by
    rw [mem_distinct, mem_distinct, same]

namespace Run

variable (sources : IssueSources σ) (tracker : Tracker)

theorem fetchBatch_orderly
    (ids : List String) (run : Run σ) :
    World.Orderly sources run.session.cached run.world
      (run.fetchBatch sources tracker ids).2.world := by
  have increasing := SortedMap.pairwise_distinct ids
  have replies := fetchBatch_replies sources tracker ids run
  revert replies
  generalize run.fetchBatch sources tracker ids = result
  intro replies
  cases replies with
  | nothing noneWanted => exact .refl run.world
  | again earlier => exact .note run.world _
  | fromStock noneMissing => exact .refl run.world
  | fromTracker someMissing sameSession asked =>
    have missing : ∀ id ∈ run.missing tracker (SortedMap.distinct ids),
        run.session.cached.find? ⟨tracker, id⟩ = none := fun id member => by
      simpa using (List.mem_filter.mp member).2
    have orderly := fetchRemote_orderly sources someMissing (increasing.filter _) missing run
    rw [asked] at orderly
    exact orderly

/-- A request to a tracker without credentials makes no call. -/
theorem isQuiet_fetchBatch
    {tracker : Tracker}
    (forbidden : (sources tracker).hasCredentials = false) (ids : List String) (run : Run σ) :
    World.IsQuiet run.world (run.fetchBatch sources tracker ids).2.world := by
  have replies := fetchBatch_replies sources tracker ids run
  revert replies
  generalize run.fetchBatch sources tracker ids = result
  intro replies
  cases replies with
  | nothing noneWanted => exact .refl run.world
  | again earlier => exact World.isQuiet_noteAll run.world [_]
  | fromStock noneMissing => exact .refl run.world
  | fromTracker someMissing sameSession asked =>
    have quiet := isQuiet_fetchRemote sources forbidden
      (run.missing tracker (SortedMap.distinct ids)) run
    rw [asked] at quiet
    exact quiet

/-- Whether a run remembers what a request was answered with. -/
def Remembers (run : Run σ) (tracker : Tracker) (wanted : List String) (records : List Record) :
    Prop :=
  if wanted = [] then records = []
  else run.session.remembered.lookup (tracker, wanted) = some records

theorem remembers_fetchBatch
    (ids : List String) (run : Run σ) :
    (run.fetchBatch sources tracker ids).2.Remembers tracker (SortedMap.distinct ids)
      (run.fetchBatch sources tracker ids).1 := by
  rw [Remembers, fetchBatch]
  by_cases noneWanted : SortedMap.distinct ids = []
  · simp [noneWanted]
  · have someWanted : (SortedMap.distinct ids).isEmpty = false := by simpa using noneWanted
    simp only [noneWanted, someWanted, Bool.false_eq_true, if_false]
    cases earlier : run.session.remembered.lookup (tracker, SortedMap.distinct ids) with
    | some records => exact earlier
    | none => simp

namespace Remembers

variable {sources} {tracker : Tracker} {wanted : List String} {records : List Record} {run : Run σ}

/-- What is remembered is not overwritten: another request is remembered beside it, and an equal
one is not made. -/
theorem fetchBatch
    (remembers : run.Remembers tracker wanted records) (other : Tracker) (ids : List String) :
    (run.fetchBatch sources other ids).2.Remembers tracker wanted records := by
  rw [Remembers] at remembers ⊢
  split
  · rename_i noneWanted
    rwa [if_pos noneWanted] at remembers
  · rename_i someWanted
    rw [if_neg someWanted] at remembers
    rw [Run.fetchBatch]
    split
    · exact remembers
    · cases earlier : run.session.remembered.lookup (other, SortedMap.distinct ids) with
      | some found => exact remembers
      | none =>
        have different : ((tracker, wanted) == (other, SortedMap.distinct ids)) = false := by
          refine beq_eq_false_iff_ne.mpr fun same => ?_
          rw [← same, remembers] at earlier
          cases earlier
        simp only
        have sameSession : ∀ ids : List String,
            (if ids.isEmpty then ([], run) else run.fetchRemote sources other ids).2.session =
              run.session := by
          intro ids
          split
          · rfl
          · exact fetchRemote_session sources other ids run
        rw [List.lookup_cons, different, sameSession]
        exact remembers

/-- An equal request is answered from memory. -/
theorem again
    {ids : List String}
    (remembers : run.Remembers tracker (SortedMap.distinct ids) records) :
    (run.fetchBatch sources tracker ids).1 = records ∧
      World.IsQuiet run.world (run.fetchBatch sources tracker ids).2.world := by
  rw [Remembers] at remembers
  rw [Run.fetchBatch]
  by_cases noneWanted : SortedMap.distinct ids = []
  · rw [if_pos noneWanted] at remembers
    simp only [noneWanted, List.isEmpty_nil, if_true]
    exact ⟨remembers.symm, .refl run.world⟩
  · rw [if_neg noneWanted] at remembers
    have someWanted : (SortedMap.distinct ids).isEmpty = false := by simpa using noneWanted
    simp only [someWanted, Bool.false_eq_true, if_false, remembers]
    exact ⟨trivial, World.isQuiet_noteAll run.world [_]⟩

end Remembers

/-! ## What a run is made of -/

/-- The runs that a run becomes by requests, changes of the index and notices. -/
inductive Proceeds (sources : IssueSources σ) (start : Run σ) : Run σ → Prop
  | unchanged : Proceeds sources start start
  | note {run : Run σ} (proceeds : Proceeds sources start run) (notice : Notice) :
      Proceeds sources start (run.note notice)
  | withIndex {run : Run σ} (proceeds : Proceeds sources start run) (index : Index) :
      Proceeds sources start (run.withIndex index)
  | fetchBatch {run : Run σ} (proceeds : Proceeds sources start run) (tracker : Tracker)
      (ids : List String) :
      Proceeds sources start (run.fetchBatch sources tracker ids).2

namespace Proceeds

variable {sources} {start run : Run σ}

/-- The cache stays, and only orderly events come to the journal. -/
theorem orderly
    (proceeds : start.Proceeds sources run) :
    run.session.cached = start.session.cached ∧
      World.Orderly sources start.session.cached start.world run.world := by
  induction proceeds with
  | unchanged => exact ⟨rfl, .refl start.world⟩
  | note _ notice inductionHypothesis =>
    exact ⟨inductionHypothesis.1, inductionHypothesis.2.trans (.note _ notice)⟩
  | withIndex _ _ inductionHypothesis => exact inductionHypothesis
  | @fetchBatch run _ tracker ids inductionHypothesis =>
    obtain ⟨sameCache, earlier⟩ := inductionHypothesis
    obtain ⟨_, session⟩ := fetchBatch_session sources tracker ids run
    have later := fetchBatch_orderly sources tracker ids run
    rw [sameCache] at later
    exact ⟨by rw [session, ← sameCache], earlier.trans later⟩

theorem remembers
    {tracker : Tracker} {wanted : List String} {records : List Record}
    (proceeds : start.Proceeds sources run) (remembers : start.Remembers tracker wanted records) :
    run.Remembers tracker wanted records := by
  induction proceeds with
  | unchanged => exact remembers
  | note _ _ inductionHypothesis => exact inductionHypothesis
  | withIndex _ _ inductionHypothesis => exact inductionHypothesis
  | fetchBatch _ other ids inductionHypothesis => exact inductionHypothesis.fetchBatch other ids

/-! ## Operations -/

theorem ensureTarget
    (proceeds : start.Proceeds sources run) (issue : Reference) :
    start.Proceeds sources (run.ensureTarget sources issue) := by
  rw [Run.ensureTarget]
  split
  · exact proceeds
  · exact ((proceeds.note _).fetchBatch issue.tracker [issue.id]).withIndex _

theorem fetchTargets
    (proceeds : start.Proceeds sources run) (tracker : Tracker) :
    start.Proceeds sources (run.fetchTargets sources tracker) :=
  fetchTargets_induction sources tracker run proceeds fun _ _ id _ onward =>
    onward.ensureTarget ⟨tracker, id⟩

theorem fetchClones
    (proceeds : start.Proceeds sources run) :
    start.Proceeds sources (run.fetchClones sources) := by
  simp only [Run.fetchClones]
  split
  · exact proceeds
  · exact (proceeds.fetchBatch .bugzilla _).withIndex _

theorem gather
    (proceeds : start.Proceeds sources run) (tracker : Tracker) (pending : List Reference) :
    start.Proceeds sources (run.gather sources tracker pending) := by
  have begun := ((proceeds.note (.resolving tracker pending.length)).fetchBatch tracker
    (pending.map Reference.id)).withIndex
  simp only [Run.gather]
  cases tracker with
  | jira => exact (begun _).fetchTargets .jira
  | bugzilla => exact ((begun _).fetchTargets .bugzilla).fetchClones

theorem resolveTracker
    (proceeds : start.Proceeds sources run) (tracker : Tracker) :
    start.Proceeds sources (run.resolveTracker sources tracker).2 := by
  have gathered := proceeds.gather tracker (run.session.pending tracker)
  rcases resolveTracker_cases sources tracker run with
    ⟨_, same⟩ | ⟨_, _, same⟩ | ⟨session, judging, same⟩
  · rwa [same]
  · rwa [same]
  · obtain ⟨verdicts, rfl, _⟩ := Session.exists_verdicts_of_judge judging
    rw [same]
    exact gathered.withIndex _

theorem resolveTrackers
    (proceeds : start.Proceeds sources run) (trackers : List Tracker) :
    start.Proceeds sources (Run.resolveTrackers sources trackers run).2 := by
  induction trackers generalizing run with
  | nil => exact proceeds
  | cons tracker trackers inductionHypothesis =>
    have first := proceeds.resolveTracker tracker
    rcases resolveTrackers_cases sources tracker trackers run with
      ⟨middle, step, same⟩ | ⟨_, middle, step, same⟩
    · rw [step] at first
      rw [same]
      exact inductionHypothesis first
    · rw [step] at first
      rwa [same]

theorem ask
    (proceeds : start.Proceeds sources run) (query : Query) :
    start.Proceeds sources (run.ask sources query).2 := by
  rw [ask_run, Run.ensure]
  split
  · exact proceeds
  · exact (proceeds.withIndex _).resolveTracker query.issue.tracker

theorem perform
    (proceeds : start.Proceeds sources run) (operation : Operation) :
    start.Proceeds sources (run.perform sources operation) := by
  cases operation with
  | resolve => exact proceeds.resolveTrackers Tracker.all
  | ask query => exact proceeds.ask query
  | markDeselected issue => exact proceeds.withIndex _

theorem performAll
    (proceeds : start.Proceeds sources run) (operations : List Operation) :
    start.Proceeds sources (run.performAll sources operations) := by
  induction operations generalizing run with
  | nil => exact proceeds
  | cons operation rest inductionHypothesis => exact inductionHypothesis (proceeds.perform operation)

end Proceeds

end Run

/-! ## The discipline of requests -/

/-- From any state of the resolver, whatever the trackers answer: operations are made of requests,
changes of the index and notices. At each moment all calls so far were due, and all waits were
between two attempts at one call. A tracker without credentials is never called. Once a request has
been answered, all that follows leaves the answer as it is, and an equal request gets it without a
call. -/
theorem requests_are_made_once
    {σ : Type} (sources : IssueSources σ) (start : Run σ) :
    (∀ operations, start.Proceeds sources (start.performAll sources operations)) ∧
      ∀ run, start.Proceeds sources run →
        World.Orderly sources start.session.cached start.world run.world ∧
          ∀ tracker ids,
            ((sources tracker).hasCredentials = false →
              World.IsQuiet run.world (run.fetchBatch sources tracker ids).2.world) ∧
            ∀ later again,
              (run.fetchBatch sources tracker ids).2.Proceeds sources later →
                (∀ id, id ∈ again ↔ id ∈ ids) →
                  (later.fetchBatch sources tracker again).1 =
                      (run.fetchBatch sources tracker ids).1 ∧
                    World.IsQuiet later.world (later.fetchBatch sources tracker again).2.world := by
  refine ⟨Run.Proceeds.unchanged.performAll, fun run proceeds => ⟨proceeds.orderly.2, ?_⟩⟩
  intro tracker ids
  refine ⟨fun forbidden => Run.isQuiet_fetchBatch sources forbidden ids run, ?_⟩
  intro later again onward sameIds
  have answered := Run.remembers_fetchBatch sources tracker ids run
  have remembered := onward.remembers answered
  rw [← SortedMap.distinct_congr sameIds] at remembered
  exact remembered.again

/-- A Bugzilla that cannot be reached at first and then knows all issues, and a Jira without
credentials. -/
def shakySources : IssueSources Nat
  | .bugzilla =>
    { hasCredentials := true
      fetch := fun ids calls =>
        ({ outcome :=
            if calls < 2 then .error "unreachable" else .ok (ids.map fun id => { id := id }) },
          calls + 1) }
  | .jira => { hasCredentials := false, fetch := fun _ calls => ({ outcome := .ok [] }, calls) }

/-- A run about an issue of each tracker; another issue is in its cache. -/
def cachedStart : Run Nat where
  session :=
    { serverVersion := Version.zero
      policy := { maxAttempts := 2 }
      index := Index.ofIssues [⟨.bugzilla, "7"⟩, ⟨.jira, "A-1"⟩]
      cached := .ofList [(⟨.bugzilla, "5"⟩, { id := "5" })] }
  world := { memory := 0 }

theorem requests_are_made_once_cachedStart :
    let first := cachedStart.fetchBatch shakySources .bugzilla ["9", "5", "9"]
    let later := first.2.performAll shakySources [.resolve, .ask (.isOpen ⟨.jira, "A-2"⟩)]
    let second := later.fetchBatch shakySources .bugzilla ["5", "9"]
    second.1 = first.1 ∧ second.1.map Record.isFallback = [false, true] ∧
      callsOf .bugzilla second.2.world.journal = [["9"], ["9"], ["7"]] ∧
        callsOf .jira second.2.world.journal = [] ∧ waitsOf second.2.world.journal = [20] ∧
          World.Orderly shakySources cachedStart.session.cached cachedStart.world later.world ∧
            World.IsQuiet later.world (later.fetchBatch shakySources .jira ["A-3"]).2.world := by
  intro first later second
  have onward : first.2.Proceeds shakySources later :=
    (requests_are_made_once shakySources first.2).1 _
  obtain ⟨same, quiet⟩ := ((requests_are_made_once shakySources cachedStart).2 cachedStart
    .unchanged).2 .bugzilla ["9", "5", "9"] |>.2 later ["5", "9"] onward (by simp [or_comm])
  have reached : cachedStart.Proceeds shakySources later :=
    (Run.Proceeds.unchanged.fetchBatch .bugzilla ["9", "5", "9"]).performAll _
  obtain ⟨orderly, ofLater⟩ := (requests_are_made_once shakySources cachedStart).2 later reached
  refine ⟨same, ?_, ?_, ?_, ?_, orderly, (ofLater .jira ["A-3"]).1 rfl⟩
  · rw [same]
    decide +kernel
  · rw [quiet.calls]
    decide +kernel
  · rw [quiet.calls]
    decide +kernel
  · rw [quiet.waits]
    decide +kernel

end TestGate
