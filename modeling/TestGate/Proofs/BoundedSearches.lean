import TestGate.Proofs.IndexSteps
import TestGate.Proofs.RunSteps

/-!
How much a search for targets asks for, whatever the trackers answer. The search is taken apart into
rounds: each takes an issue from a queue, and puts in the one that its record leads to. Main
statement: the rounds come to an end, and for each duplicate that there was at first at most
`longestChain` issues are looked up, none of them twice.
-/

namespace TestGate

open Issue

variable {σ : Type}

/-! ## Single look-ups -/

theorem Run.find?_fetchTarget
    (sources : IssueSources σ) (tracker : Tracker) (run : Run σ) (id : String) :
    ∃ record, ∀ other, (run.fetchTarget sources tracker id).session.index.find? other =
      if other = ⟨tracker, id⟩ then
        let entry := (run.session.index.find? ⟨tracker, id⟩).getD {}
        some { entry with isDuplicateTarget := entry.usedIn.isEmpty, data := some record }
      else
        run.session.index.find? other := by
  obtain ⟨record, after, _, _, same⟩ := Run.fetchTarget_eq sources tracker run id
  refine ⟨record, fun other => ?_⟩
  rw [same]
  exact Index.find?_update run.session.index ⟨tracker, id⟩ other _

/-- Whether an entry is there only because a duplicate leads to its issue. -/
structure Issue.Entry.IsTarget (entry : Entry) : Prop where
  known : entry.data.isSome = true
  unused : entry.usedIn = []
  marked : entry.isDuplicateTarget = true

/-- What look-ups add to an index: entries of targets, for issues that are looked up. -/
theorem Run.isTarget_of_lookUps
    (sources : IssueSources σ) (tracker : Tracker) {issue : Reference} {ids : List String}
    {run : Run σ}
    (before : ∀ entry, run.session.index.find? issue = some entry → entry.IsTarget) :
    ∀ entry,
      (ids.foldl (Run.fetchTarget sources tracker) run).session.index.find? issue = some entry →
        entry.IsTarget := by
  induction ids generalizing run with
  | nil => exact before
  | cons id rest inductionHypothesis =>
    apply inductionHypothesis
    intro entry found
    obtain ⟨record, entries⟩ := run.find?_fetchTarget sources tracker id
    rw [entries] at found
    by_cases isLookedUp : issue = ⟨tracker, id⟩
    · rw [if_pos isLookedUp] at found
      have noUses : ((run.session.index.find? ⟨tracker, id⟩).getD {}).usedIn = [] := by
        rw [← isLookedUp]
        cases earlier : run.session.index.find? issue with
        | none => rfl
        | some other => exact (before other earlier).unused
      cases found
      exact ⟨rfl, noUses, by simp [noUses]⟩
    · rw [if_neg isLookedUp] at found
      exact before entry found

theorem Run.find?_lookUps_of_not_mem
    (sources : IssueSources σ) (tracker : Tracker) {issue : Reference} {ids : List String}
    (run : Run σ) (others : ∀ id ∈ ids, issue ≠ ⟨tracker, id⟩) :
    (ids.foldl (Run.fetchTarget sources tracker) run).session.index.find? issue =
      run.session.index.find? issue := by
  induction ids generalizing run with
  | nil => rfl
  | cons id rest inductionHypothesis =>
    obtain ⟨record, entries⟩ := run.find?_fetchTarget sources tracker id
    rw [List.foldl_cons,
      inductionHypothesis _ fun other member => others other (List.mem_cons_of_mem id member),
      entries, if_neg (others id List.mem_cons_self)]

/-! ## Rounds -/

/-- A search for targets under way. The queue holds the issues to look at, the next one first, and
how far behind a duplicate each of them lies. -/
structure TargetSearch (σ : Type) where
  queue : List (String × Nat)
  seen : List String
  run : Run σ

namespace TargetSearch

/-- A search starts behind the duplicates that are known, the last one first. -/
def start (tracker : Tracker) (run : Run σ) : TargetSearch σ where
  queue := (run.session.duplicateTargets tracker).reverse.map fun id => (id, 1)
  seen := []
  run := run

/-- Whether a search passes by an issue, which lies too far behind or has been seen. -/
def PassesBy (search : TargetSearch σ) (id : String) (depth : Nat) : Prop :=
  Index.longestChain < depth ∨ id ∈ search.seen

instance (search : TargetSearch σ) (id : String) (depth : Nat) :
    Decidable (search.PassesBy id depth) :=
  inferInstanceAs (Decidable (_ ∨ _))

variable (sources : IssueSources σ) (tracker : Tracker)

/-- A round of a search: it takes the next issue and, unless it passes it by, makes sure of its
record and puts the issue that this leads to next. -/
def round? (search : TargetSearch σ) : Option (TargetSearch σ) :=
  match search.queue with
  | [] => none
  | (id, depth) :: queue =>
    if search.PassesBy id depth then
      some { search with queue := queue }
    else
      let run := search.run.ensureTarget sources ⟨tracker, id⟩
      some
        { queue := (run.session.index.link? tracker id).toList.map (·, depth + 1) ++ queue
          seen := id :: search.seen
          run := run }

/-- The issue that the next round looks up, if it looks one up. -/
def lookUp? (search : TargetSearch σ) : Option String :=
  match search.queue with
  | [] => none
  | (id, depth) :: _ =>
    if search.PassesBy id depth ∨ (search.run.session.index.record? ⟨tracker, id⟩).isSome then none
    else some id

/-- How many issues a search may still look at. -/
def budget (search : TargetSearch σ) : Nat :=
  search.queue.foldr (fun place rest => (Index.longestChain + 1 - place.2) + rest) 0

/-- What the issues in the queue come to when they are chased one after another. -/
def chased (search : TargetSearch σ) : List String × Run σ :=
  search.queue.foldl
    (fun state place =>
      state.2.chase sources tracker (Index.longestChain + 1 - place.2) place.1 state.1)
    (search.seen, search.run)

variable {sources tracker} {search next : TargetSearch σ}

/-- A round passes an issue by, or looks at it. -/
theorem round?_cases
    (round : search.round? sources tracker = some next) :
    ∃ id depth queue, search.queue = (id, depth) :: queue ∧
      (search.PassesBy id depth ∧ next = { search with queue := queue } ∨
        ¬ search.PassesBy id depth ∧ ∃ run,
          run = search.run.ensureTarget sources ⟨tracker, id⟩ ∧
            next =
              { queue := (run.session.index.link? tracker id).toList.map (·, depth + 1) ++ queue
                seen := id :: search.seen
                run := run }) := by
  rw [round?] at round
  split at round
  · cases round
  · rename_i id depth queue isQueue
    refine ⟨id, depth, queue, isQueue, ?_⟩
    by_cases passes : search.PassesBy id depth
    · rw [if_pos passes] at round
      exact Or.inl ⟨passes, (Option.some.inj round).symm⟩
    · rw [if_neg passes] at round
      exact Or.inr ⟨passes, _, rfl, (Option.some.inj round).symm⟩

/-- Only an empty queue ends a search. -/
theorem queue_of_ends
    (ends : search.round? sources tracker = none) :
    search.queue = [] := by
  rw [round?] at ends
  split at ends
  · assumption
  · split at ends <;> cases ends

theorem not_mem_seen_of_lookUp?
    {id : String}
    (looksUp : search.lookUp? tracker = some id) :
    id ∉ search.seen := by
  rw [lookUp?] at looksUp
  split at looksUp
  · cases looksUp
  · split at looksUp
    · cases looksUp
    · rename_i goesOn
      cases looksUp
      exact fun seen => goesOn (Or.inl (Or.inr seen))

/-- What is looked up is seen afterwards, and nothing seen is forgotten. -/
theorem seen_of_round?
    (round : search.round? sources tracker = some next) :
    (search.lookUp? tracker).toList ++ search.seen ⊆ next.seen := by
  obtain ⟨id, depth, queue, isQueue, ⟨passes, rfl⟩ | ⟨passes, run, _, rfl⟩⟩ := round?_cases round
  · simp [lookUp?, isQueue, passes]
  · have onlyThis : (search.lookUp? tracker).toList ⊆ [id] := by
      rw [lookUp?, isQueue]
      simp only
      split <;> simp
    intro other member
    rcases List.mem_append.mp member with looksUp | seen
    · rw [List.mem_singleton.mp (onlyThis looksUp)]
      exact List.mem_cons_self
    · exact List.mem_cons_of_mem id seen

/-- A round does what its look-up does. -/
theorem run_of_round?
    (round : search.round? sources tracker = some next) :
    next.run =
      (search.lookUp? tracker).toList.foldl (Run.fetchTarget sources tracker) search.run := by
  obtain ⟨id, depth, queue, isQueue, ⟨passes, rfl⟩ | ⟨passes, run, isRun, rfl⟩⟩ :=
    round?_cases round
  · simp [lookUp?, isQueue, passes]
  · rw [isRun, Run.ensureTarget_eq, lookUp?, isQueue]
    by_cases known : (search.run.session.index.record? ⟨tracker, id⟩).isSome = true
    · simp [known]
    · simp [passes, known]

/-- A round takes from the budget what it looks up, and from the budget or the queue in any case. -/
theorem budget_of_round?
    (round : search.round? sources tracker = some next) :
    next.budget + (search.lookUp? tracker).toList.length ≤ search.budget ∧
      next.budget + next.queue.length < search.budget + search.queue.length := by
  obtain ⟨id, depth, queue, isQueue, ⟨passes, rfl⟩ | ⟨passes, run, _, rfl⟩⟩ := round?_cases round
  · have noLookUp : search.lookUp? tracker = none := by simp [lookUp?, isQueue, passes]
    simp only [budget, isQueue, noLookUp, List.foldr_cons, List.length_cons, Option.toList_none,
      List.length_nil]
    omega
  · have atMostOne : (search.lookUp? tracker).toList.length ≤ 1 := by
      cases search.lookUp? tracker <;> simp
    have inReach : depth ≤ Index.longestChain := by
      rw [PassesBy, not_or] at passes
      omega
    -- what is put into the queue lies one link further behind than what is taken from it
    cases run.session.index.link? tracker id with
    | none =>
      simp only [budget, isQueue, Option.toList_none, List.map_nil, List.nil_append,
        List.foldr_cons, List.length_cons]
      omega
    | some target =>
      simp only [budget, isQueue, Option.toList_some, List.map_cons, List.map_nil,
        List.cons_append, List.nil_append, List.foldr_cons, List.length_cons]
      omega

/-- A round leaves what the queue comes to as it is. -/
theorem chased_of_round?
    (round : search.round? sources tracker = some next) :
    next.chased sources tracker = search.chased sources tracker := by
  obtain ⟨id, depth, queue, isQueue, ⟨passes, rfl⟩ | ⟨passes, run, isRun, rfl⟩⟩ :=
    round?_cases round
  · have nothing : search.run.chase sources tracker (Index.longestChain + 1 - depth) id search.seen =
        (search.seen, search.run) := by
      rcases passes with tooFar | old
      · rw [show Index.longestChain + 1 - depth = 0 by omega, Run.chase]
      · exact Run.chase_of_mem sources _ old
    rw [chased, chased, isQueue, List.foldl_cons, nothing]
  · rw [PassesBy, not_or] at passes
    have more : Index.longestChain + 1 - depth = Index.longestChain + 1 - (depth + 1) + 1 := by
      omega
    subst isRun
    rw [chased, chased, isQueue, List.foldl_cons, List.foldl_append, more]
    cases link :
        (search.run.ensureTarget sources ⟨tracker, id⟩).session.index.link? tracker id with
    | none =>
      rw [Run.chase_of_end sources _ passes.2 link]
      rfl
    | some target =>
      rw [Run.chase_of_link sources _ passes.2 link]
      rfl

/-! ## Whole searches -/

theorem chased_start
    (sources : IssueSources σ) (tracker : Tracker) (run : Run σ) :
    ((start tracker run).chased sources tracker).2 = run.fetchTargets sources tracker := by
  rw [chased, start, List.foldl_map]
  rfl

theorem budget_start
    (tracker : Tracker) (run : Run σ) :
    (start tracker run).budget =
      Index.longestChain * (run.session.duplicateTargets tracker).length := by
  rw [budget, start, List.foldr_map, ← List.length_reverse]
  induction (run.session.duplicateTargets tracker).reverse with
  | nil => rfl
  | cons id rest inductionHypothesis =>
    rw [List.foldr_cons, inductionHypothesis, List.length_cons, Nat.mul_succ, Nat.add_comm]
    rfl

/-- The rounds of a search come to an end. -/
theorem exists_trail
    (sources : IssueSources σ) (tracker : Tracker) (search : TargetSearch σ) :
    ∃ states, Trail (round? sources tracker) search states ∧
      states.length ≤ search.budget + search.queue.length + 1 := by
  -- a round that leaves the budget as it is makes the queue shorter
  induction measure : search.budget + search.queue.length using Nat.strongRecOn
    generalizing search with
  | ind size inductionHypothesis =>
    cases round : search.round? sources tracker with
    | none => exact ⟨[search], .last round, by simp⟩
    | some next =>
      have less := (budget_of_round? round).2
      obtain ⟨states, trail, short⟩ := inductionHypothesis _ (by omega) next rfl
      refine ⟨search :: states, .link round trail, ?_⟩
      rw [List.length_cons]
      omega

/-- The issues that are looked up in the rounds of a search, in turn. -/
def lookUps (tracker : Tracker) (states : List (TargetSearch σ)) : List String :=
  states.filterMap (lookUp? tracker)

theorem lookUps_cons
    (tracker : Tracker) (search : TargetSearch σ) (rest : List (TargetSearch σ)) :
    lookUps tracker (search :: rest) = (search.lookUp? tracker).toList ++ lookUps tracker rest := by
  rw [lookUps, List.filterMap_cons]
  cases search.lookUp? tracker <;> rfl

theorem lookUps_of_ends
    (ends : search.round? sources tracker = none) :
    lookUps tracker [search] = [] := by
  simp [lookUps, lookUp?, queue_of_ends ends]

variable {states : List (TargetSearch σ)}

/-- What is looked up in a search has not been seen before and is looked up once. -/
theorem lookUps_nodup
    (trail : Trail (round? sources tracker) search states) :
    (lookUps tracker states).Nodup ∧ ∀ id ∈ lookUps tracker states, id ∉ search.seen := by
  induction trail with
  | last ends =>
    rw [lookUps_of_ends ends]
    exact ⟨List.nodup_nil, nofun⟩
  | @link search next rest round _ inductionHypothesis =>
    obtain ⟨restNodup, restUnseen⟩ := inductionHypothesis
    have grows := seen_of_round? round
    rw [lookUps_cons]
    constructor
    · refine List.nodup_append.mpr ⟨?_, restNodup, ?_⟩
      · cases search.lookUp? tracker <;> simp
      · rintro id looksUp _ again rfl
        exact restUnseen id again (grows (List.mem_append_left _ looksUp))
    · intro id member
      rcases List.mem_append.mp member with looksUp | inRest
      · exact not_mem_seen_of_lookUp? (Option.mem_toList.mp looksUp)
      · exact fun seen => restUnseen id inRest (grows (List.mem_append_right _ seen))

theorem lookUps_length
    (trail : Trail (round? sources tracker) search states) :
    (lookUps tracker states).length ≤ search.budget := by
  induction trail with
  | last ends =>
    rw [lookUps_of_ends ends]
    exact Nat.zero_le _
  | link round _ inductionHypothesis =>
    have spent := (budget_of_round? round).1
    rw [lookUps_cons, List.length_append]
    omega

/-- A search does what its look-ups do, and ends as chasing the issues in its queue does. -/
theorem run_of_trail
    (trail : Trail (round? sources tracker) search states) :
    ∃ last, states.getLast? = some last ∧ last.queue = [] ∧
      last.run = (search.chased sources tracker).2 ∧
        last.run = (lookUps tracker states).foldl (Run.fetchTarget sources tracker) search.run := by
  induction trail with
  | @last search ends =>
    have empty := queue_of_ends ends
    refine ⟨search, rfl, empty, ?_, ?_⟩
    · rw [chased, empty]
      rfl
    · rw [lookUps_of_ends ends]
      rfl
  | @link search next rest round trail inductionHypothesis =>
    obtain ⟨last, isLast, empty, chasedTo, lookedUp⟩ := inductionHypothesis
    refine ⟨last, ?_, empty, ?_, ?_⟩
    · rw [List.getLast?_cons_of_ne_nil trail.ne_nil, isLast]
    · rw [chasedTo, chased_of_round? round]
    · rw [lookedUp, run_of_round? round, lookUps_cons, List.foldl_append]

end TargetSearch

/-- The number of issues of a tracker that are known to be duplicates of others. -/
def Issue.Index.duplicateCount (index : Index) (tracker : Tracker) : Nat :=
  (index.ofTracker tracker).countP fun (_, entry) =>
    (entry.data.bind fun record => record.duplicated? tracker).isSome

theorem Session.length_duplicateTargets
    (session : Session) (tracker : Tracker) :
    (session.duplicateTargets tracker).length = session.index.duplicateCount tracker :=
  List.length_filterMap_eq_countP

/-- Whatever the trackers answer, a search for targets ends. For each duplicate that is known at
first it looks up at most 16 issues, none of them twice, and nothing but these look-ups changes the
run. An issue that the index did not hold before is one of them; it has a record, no test uses it,
and it is marked as a target. -/
theorem fetchTargets_bounded
    (sources : IssueSources σ) (tracker : Tracker) (run : Run σ) :
    let duplicates := run.session.index.duplicateCount tracker
    let after := run.fetchTargets sources tracker
    ∃ states last,
      Trail (TargetSearch.round? sources tracker) (.start tracker run) states ∧
        states.length ≤ 17 * duplicates + 1 ∧
        states.getLast? = some last ∧ last.queue = [] ∧ last.run = after ∧
        let lookUps := TargetSearch.lookUps tracker states
        lookUps.Nodup ∧ lookUps.length ≤ 16 * duplicates ∧
          after = lookUps.foldl (Run.fetchTarget sources tracker) run ∧
          ∀ issue entry, run.session.index.find? issue = none →
            after.session.index.find? issue = some entry →
              (∃ id ∈ lookUps, issue = ⟨tracker, id⟩) ∧ entry.data.isSome = true ∧
                entry.usedIn = [] ∧ entry.isDuplicateTarget = true := by
  intro duplicates after
  have count := run.session.length_duplicateTargets tracker
  have budget : (TargetSearch.start tracker run).budget = 16 * duplicates := by
    rw [TargetSearch.budget_start, count]
    rfl
  have queue : (TargetSearch.start tracker run).queue.length = duplicates := by
    simp [TargetSearch.start, count, duplicates]
  obtain ⟨states, trail, short⟩ :=
    TargetSearch.exists_trail sources tracker (.start tracker run)
  obtain ⟨last, isLast, empty, chasedTo, lookedUp⟩ := TargetSearch.run_of_trail trail
  rw [TargetSearch.chased_start] at chasedTo
  have sameEnd : after = (TargetSearch.lookUps tracker states).foldl
      (Run.fetchTarget sources tracker) run := chasedTo.symm.trans lookedUp
  refine ⟨states, last, trail, by omega, isLast, empty, chasedTo,
    (TargetSearch.lookUps_nodup trail).1, ?_, sameEnd, ?_⟩
  · exact budget ▸ TargetSearch.lookUps_length trail
  · intro issue entry absent found
    rw [sameEnd] at found
    have isTarget := Run.isTarget_of_lookUps sources tracker
      (fun other present => by simp [absent] at present) entry found
    refine ⟨?_, isTarget.known, isTarget.unused, isTarget.marked⟩
    by_contra notLookedUp
    rw [Run.find?_lookUps_of_not_mem, absent] at found
    · cases found
    · exact fun id member same => notLookedUp ⟨id, member, same⟩

/-- A tracker that answers every question with a duplicate of an issue that is not known yet. -/
def endlessDuplicates : IssueSources Unit := fun _ =>
  { hasCredentials := true
    fetch := fun ids memory =>
      let records := ids.map fun id : String =>
        { id := id, resolution := "DUPLICATE", duplicateOf := some (id ++ "+") }
      (⟨.ok records, []⟩, memory) }

/-- A run that knows about one duplicate. -/
def oneDuplicate : Run Unit where
  session :=
    { serverVersion := .zero, policy := .once
      index := SortedMap.empty.insert ⟨.bugzilla, "1"⟩
        { data := some { id := "1", resolution := "DUPLICATE", duplicateOf := some "2" } } }
  world := { memory := () }

/-- The bound is attained. -/
example :
    (callsOf .bugzilla
      (oneDuplicate.fetchTargets endlessDuplicates .bugzilla).world.journal).length = 16 := by
  decide +kernel

end TestGate
