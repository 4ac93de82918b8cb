import TestGate.Duplicates
import TestGate.Proofs.Trail

/-!
The walk along duplicates as a trail. Main statements: the walk from an issue succeeds exactly when
its trail through the index holds at most `longestChain` issues, and then gives the record at the
end of the trail; and a change of records that keeps their links changes no walk but for the record
that it ends at.
-/

namespace TestGate.Issue.Index

/-! ## Links -/

/-- The id that the record of an issue of a tracker duplicates. -/
def link? (index : Index) (tracker : Tracker) (id : String) : Option String :=
  (index.record? ⟨tracker, id⟩).bind fun record => record.duplicated? tracker

/-- The same, if the index knows something about the issue that is duplicated. -/
def follow? (index : Index) (tracker : Tracker) (id : String) : Option String :=
  (index.link? tracker id).filter fun next => (index.record? ⟨tracker, next⟩).isSome

/-- Whether every link of a tracker leads to a record. -/
def Closed (index : Index) (tracker : Tracker) : Prop :=
  ∀ id next, index.link? tracker id = some next →
    (index.record? ⟨tracker, next⟩).isSome = true

theorem link?_of_record?
    {index : Index} {tracker : Tracker} {id : String} {record : Record}
    (known : index.record? ⟨tracker, id⟩ = some record) :
    index.link? tracker id = record.duplicated? tracker := by
  rw [link?, known, Option.bind_some]

theorem record?_of_link?
    {index : Index} {tracker : Tracker} {id next : String}
    (leads : index.link? tracker id = some next) :
    ∃ record, index.record? ⟨tracker, id⟩ = some record ∧
      record.duplicated? tracker = some next :=
  Option.bind_eq_some_iff.mp leads

theorem follow?_eq_some_iff
    {index : Index} {tracker : Tracker} {id next : String} :
    index.follow? tracker id = some next ↔
      index.link? tracker id = some next ∧
        (index.record? ⟨tracker, next⟩).isSome = true := by
  rw [follow?, Option.filter_eq_some_iff]

/-- In a closed index every link can be followed. -/
theorem Closed.follow?_eq
    {index : Index} {tracker : Tracker}
    (closed : index.Closed tracker) :
    index.follow? tracker = index.link? tracker := by
  funext id
  apply Option.ext
  intro next
  rw [follow?_eq_some_iff]
  exact ⟨And.left, fun leads => ⟨leads, closed id next leads⟩⟩

/-- Whoever can make steps along links can follow all of them but the last. -/
theorem canStep_follow?
    {index : Index} {tracker : Tracker} {count : Nat} {id : String}
    (steps : CanStep (index.link? tracker) (count + 1) id) :
    CanStep (index.follow? tracker) count id := by
  induction count generalizing id with
  | zero => trivial
  | succ count inductionHypothesis =>
    obtain ⟨next, leads, onward⟩ := steps
    obtain ⟨beyond, further, rest⟩ := onward
    obtain ⟨record, known, _⟩ := record?_of_link? further
    exact ⟨next, follow?_eq_some_iff.mpr ⟨leads, by rw [known]; rfl⟩,
      inductionHypothesis ⟨beyond, further, rest⟩⟩

/-! ## The walk -/

theorem successor?_eq
    (index : Index) (tracker : Tracker) {id : String} {record : Record}
    (known : index.record? ⟨tracker, id⟩ = some record) :
    index.successor? tracker record =
      (index.follow? tracker id).bind fun next =>
        (index.record? ⟨tracker, next⟩).map fun found => (⟨tracker, next⟩, found) := by
  rw [successor?, follow?, link?_of_record? known]
  cases record.duplicated? tracker with
  | none => rfl
  | some next =>
    cases found : index.record? ⟨tracker, next⟩ <;> simp [Option.filter, found]

theorem successor?_of_follow?
    {index : Index} {tracker : Tracker} {id next : String} {record : Record}
    (known : index.record? ⟨tracker, id⟩ = some record)
    (leads : index.follow? tracker id = some next) :
    ∃ found, index.record? ⟨tracker, next⟩ = some found ∧
      index.successor? tracker record = some (⟨tracker, next⟩, found) := by
  obtain ⟨found, nextKnown⟩ := Option.isSome_iff_exists.mp (follow?_eq_some_iff.mp leads).2
  refine ⟨found, nextKnown, ?_⟩
  rw [successor?_eq index tracker known, leads, Option.bind_some, nextKnown, Option.map_some]

theorem walk_of_ends
    {index : Index} {start : Reference} {id : String} {record : Record}
    (known : index.record? ⟨start.tracker, id⟩ = some record)
    (ends : index.follow? start.tracker id = none) (more : Nat) (passed : List Reference) :
    index.walk start more passed record = .ok record := by
  have noSuccessor : index.successor? start.tracker record = none := by
    rw [successor?_eq index start.tracker known, ends, Option.bind_none]
  cases more <;> rw [walk, noSuccessor]

theorem walk_of_trail
    {index : Index} {start : Reference} {more : Nat} {passed : List Reference} {id : String}
    {record : Record} {nodes : List String}
    (trail : Trail (index.follow? start.tracker) id nodes)
    (known : index.record? ⟨start.tracker, id⟩ = some record)
    (short : nodes.length ≤ more + 1)
    (fresh : ∀ node ∈ nodes.tail, (⟨start.tracker, node⟩ : Reference) ∉ passed) :
    ∃ last target, nodes.getLast? = some last ∧
      index.record? ⟨start.tracker, last⟩ = some target ∧
      index.walk start more passed record = .ok target := by
  induction trail generalizing more passed record with
  | @last id ends => exact ⟨id, record, rfl, known, walk_of_ends known ends more passed⟩
  | @link id next rest leads trail inductionHypothesis =>
    obtain ⟨found, nextKnown, isSuccessor⟩ := successor?_of_follow? known leads
    have nextFresh : (⟨start.tracker, next⟩ : Reference) ∉ passed :=
      fresh next trail.start_mem
    cases more with
    | zero =>
      have bound := List.length_pos_iff.mpr trail.ne_nil
      rw [List.length_cons] at short
      omega
    | succ more =>
      have restFresh :
          ∀ node ∈ rest.tail,
            (⟨start.tracker, node⟩ : Reference) ∉
              (⟨start.tracker, next⟩ : Reference) :: passed := by
        intro node member inPassed
        rcases List.mem_cons.mp inPassed with same | earlier
        · -- the trail would come back to `next`
          have equality : node = next := congrArg Reference.id same
          cases trail with
          | last => simp at member
          | link => exact (List.nodup_cons.mp (Trail.nodup (.link ‹_› ‹_›))).1 (equality ▸ member)
        · exact fresh node (List.mem_of_mem_tail member) earlier
      obtain ⟨last, target, isLast, targetKnown, outcome⟩ :=
        inductionHypothesis nextKnown (by simpa using short) restFresh
      refine ⟨last, target, ?_, targetKnown, ?_⟩
      · rw [List.getLast?_cons_of_ne_nil trail.ne_nil, isLast]
      · rw [walk, isSuccessor]
        simp only
        rw [if_neg (by simpa using nextFresh), outcome]

theorem walk_of_canStep
    {index : Index} {start : Reference} {more : Nat} {passed : List Reference} {id : String}
    {record : Record}
    (steps : CanStep (index.follow? start.tracker) (more + 1) id)
    (known : index.record? ⟨start.tracker, id⟩ = some record) :
    ∃ failure, index.walk start more passed record = .error failure := by
  induction more generalizing passed id record with
  | zero =>
    obtain ⟨next, leads, _⟩ := steps
    obtain ⟨found, _, isSuccessor⟩ := successor?_of_follow? known leads
    rw [walk, isSuccessor]
    exact ⟨_, rfl⟩
  | succ more inductionHypothesis =>
    obtain ⟨next, leads, onward⟩ := steps
    obtain ⟨found, nextKnown, isSuccessor⟩ := successor?_of_follow? known leads
    rw [walk, isSuccessor]
    simp only
    split
    · exact ⟨_, rfl⟩
    · exact inductionHypothesis onward nextKnown

/-! ## The canonical issue -/

/-- Following duplicates ends at the end of a trail that is short enough to be followed. -/
theorem canonical_of_trail
    {index : Index} {issue : Reference} {nodes : List String} {last : String} {target : Record}
    (trail : Trail (index.follow? issue.tracker) issue.id nodes)
    (short : nodes.length ≤ longestChain) (isLast : nodes.getLast? = some last)
    (known : index.record? ⟨issue.tracker, last⟩ = some target) :
    index.canonical issue = .ok (some target) := by
  obtain ⟨record, startKnown⟩ : ∃ record, index.record? issue = some record := by
    cases trail with
    | last =>
      cases isLast
      exact ⟨target, known⟩
    | link leads =>
      obtain ⟨record, startKnown, _⟩ := record?_of_link? (follow?_eq_some_iff.mp leads).1
      exact ⟨record, startKnown⟩
  have fresh : ∀ node ∈ nodes.tail, (⟨issue.tracker, node⟩ : Reference) ∉ [issue] := by
    intro node member back
    have same : node = issue.id := congrArg Reference.id (List.mem_singleton.mp back)
    cases trail with
    | last => simp at member
    | link leads rest =>
      exact (List.nodup_cons.mp (Trail.nodup (.link leads rest))).1 (same ▸ member)
  have enough : nodes.length ≤ longestChain - 1 + 1 := short
  obtain ⟨walkLast, walkTarget, walkIsLast, walkKnown, outcome⟩ :=
    walk_of_trail trail startKnown enough fresh
  rw [isLast, Option.some.injEq] at walkIsLast
  rw [← walkIsLast, known, Option.some.injEq] at walkKnown
  rw [canonical, startKnown, walkKnown]
  simp only
  rw [outcome]
  rfl

/-- Whether `target` decides about an issue: it is the record at the end of its trail, all of which
lies in the index and which is short enough to be followed. -/
def Decides (index : Index) (issue : Reference) (target : Record) : Prop :=
  ∃ nodes last,
    Trail (index.link? issue.tracker) issue.id nodes ∧ nodes.length ≤ longestChain ∧
      (∀ node ∈ nodes, (index.record? ⟨issue.tracker, node⟩).isSome = true) ∧
      nodes.getLast? = some last ∧ index.record? ⟨issue.tracker, last⟩ = some target

theorem Decides.unique
    {index : Index} {issue : Reference} {target other : Record}
    (decides : index.Decides issue target) (otherDecides : index.Decides issue other) :
    target = other := by
  obtain ⟨nodes, last, trail, _, _, isLast, known⟩ := decides
  obtain ⟨others, otherLast, otherTrail, _, _, otherIsLast, otherKnown⟩ := otherDecides
  rw [trail.unique otherTrail, otherIsLast, Option.some.injEq] at isLast
  rw [isLast, known, Option.some.injEq] at otherKnown
  exact otherKnown

/-- An issue on the way is decided by the same record. -/
theorem Decides.onward
    {index : Index} {issue : Reference} {target : Record} {next : String}
    (decides : index.Decides issue target)
    (leads : index.link? issue.tracker issue.id = some next) :
    index.Decides ⟨issue.tracker, next⟩ target := by
  obtain ⟨nodes, last, trail, short, present, isLast, known⟩ := decides
  obtain ⟨rest, rfl, nextTrail⟩ := trail.split leads
  refine ⟨rest, last, nextTrail, ?_, ?_, ?_, known⟩
  · rw [List.length_cons] at short
    omega
  · exact fun node member => present node (List.mem_cons_of_mem _ member)
  · rwa [List.getLast?_cons_of_ne_nil nextTrail.ne_nil] at isLast

/-- The record that decides about an issue decides about its own. -/
theorem Decides.last
    {index : Index} {issue : Reference} {target : Record}
    (decides : index.Decides issue target) :
    ∃ id, index.record? ⟨issue.tracker, id⟩ = some target ∧
      index.Decides ⟨issue.tracker, id⟩ target := by
  obtain ⟨nodes, last, trail, _, present, isLast, known⟩ := decides
  have ends := trail.ends_at_last isLast
  refine ⟨last, known, [last], last, .last ends, by simp [longestChain], ?_, rfl, known⟩
  intro node member
  rw [List.mem_singleton.mp member]
  exact present last (List.mem_of_getLast? isLast)

theorem Decides.follow
    {index : Index} {issue : Reference} {nodes : List String}
    (trail : Trail (index.link? issue.tracker) issue.id nodes)
    (present : ∀ node ∈ nodes, (index.record? ⟨issue.tracker, node⟩).isSome = true) :
    Trail (index.follow? issue.tracker) issue.id nodes := by
  refine trail.congr fun node member => ?_
  apply Option.ext
  intro next
  rw [follow?_eq_some_iff]
  refine ⟨And.left, fun leads => ⟨leads, ?_⟩⟩
  obtain ⟨rest, restTrail, isSuffix⟩ := trail.onward member
  obtain ⟨beyond, rfl, nextTrail⟩ := restTrail.split leads
  exact present _ (isSuffix.subset (List.mem_cons_of_mem _ nextTrail.start_mem))

theorem canonical_of_decides
    {index : Index} {issue : Reference} {target : Record}
    (decides : index.Decides issue target) :
    index.canonical issue = .ok (some target) := by
  obtain ⟨nodes, last, trail, short, present, isLast, known⟩ := decides
  exact canonical_of_trail (Decides.follow trail present) short isLast known

/-- A walk over too many links fails. -/
theorem canonical_of_canStep
    {index : Index} (issue : Reference)
    (steps : CanStep (index.follow? issue.tracker) longestChain issue.id)
    (known : (index.record? issue).isSome = true) :
    ∃ failure, index.canonical issue = .error failure := by
  obtain ⟨record, startKnown⟩ := Option.isSome_iff_exists.mp known
  have walked : ∃ failure, index.walk issue (longestChain - 1) [issue] record = .error failure :=
    walk_of_canStep steps startKnown
  obtain ⟨failure, outcome⟩ := walked
  refine ⟨failure, ?_⟩
  rw [canonical, startKnown]
  simp only
  rw [outcome]
  rfl

/-- In a closed index a record decides about an issue unless the issue has too many links. -/
theorem Closed.decides
    {index : Index} (issue : Reference)
    (closed : index.Closed issue.tracker)
    (known : (index.record? issue).isSome = true)
    (short : ¬ CanStep (index.link? issue.tracker) longestChain issue.id) :
    ∃ target, index.Decides issue target := by
  obtain ⟨nodes, trail, bound⟩ := (CanStep.not_iff _ _ _).mp short
  have present : ∀ node ∈ nodes, (index.record? ⟨issue.tracker, node⟩).isSome = true := by
    clear bound
    have startKnown : (index.record? ⟨issue.tracker, issue.id⟩).isSome = true := known
    revert startKnown
    generalize issue.id = id at trail
    induction trail with
    | last => simp
    | link leads _ inductionHypothesis =>
      intro startKnown node member
      rcases List.mem_cons.mp member with rfl | inRest
      · exact startKnown
      · exact inductionHypothesis (closed _ _ leads) node inRest
  obtain ⟨last, isLast⟩ := trail.exists_last
  obtain ⟨target, targetKnown⟩ :=
    Option.isSome_iff_exists.mp (present last (List.mem_of_getLast? isLast))
  exact ⟨target, nodes, last, trail, bound, present, isLast, targetKnown⟩

/-! ## Walks through changed records -/

section Changed

variable {before after : Index} {change : Reference → Record → Record}

theorem record?_of_successor?
    {tracker : Tracker} {record next : Record} {issue : Reference}
    (leads : before.successor? tracker record = some (issue, next)) :
    issue.tracker = tracker ∧ before.record? issue = some next := by
  rw [successor?] at leads
  cases duplicated : record.duplicated? tracker with
  | none =>
    rw [duplicated] at leads
    cases leads
  | some id =>
    rw [duplicated] at leads
    obtain ⟨found, known, same⟩ := Option.map_eq_some_iff.mp leads
    cases same
    exact ⟨rfl, known⟩

theorem link?_of_changed
    {tracker : Tracker}
    (same : ∀ issue, issue.tracker = tracker →
      after.record? issue = (before.record? issue).map (change issue))
    (sameLink : ∀ issue record tracker,
      (change issue record).duplicated? tracker = record.duplicated? tracker) :
    after.link? tracker = before.link? tracker := by
  funext id
  rw [link?, link?, same ⟨tracker, id⟩ rfl]
  cases before.record? ⟨tracker, id⟩ with
  | none => rfl
  | some record => exact sameLink ⟨tracker, id⟩ record tracker

/-- Changes that keep the links keep the steps of every walk. -/
theorem successor?_of_changed
    {tracker : Tracker}
    (same : ∀ issue, issue.tracker = tracker →
      after.record? issue = (before.record? issue).map (change issue))
    (sameLink : ∀ issue record tracker,
      (change issue record).duplicated? tracker = record.duplicated? tracker)
    (issue : Reference) (record : Record) :
    after.successor? tracker (change issue record) =
      (before.successor? tracker record).map fun next => (next.1, change next.1 next.2) := by
  rw [successor?, successor?, sameLink]
  cases record.duplicated? tracker with
  | none => rfl
  | some id =>
    simp only [same ⟨tracker, id⟩ rfl, Option.map_map]
    rfl

/-- A walk through changed records fails as the walk through the records did, or ends at the same
issue. -/
theorem walk_of_changed
    {start issue : Reference} {record : Record}
    (same : ∀ issue, issue.tracker = start.tracker →
      after.record? issue = (before.record? issue).map (change issue))
    (sameLink : ∀ issue record tracker,
      (change issue record).duplicated? tracker = record.duplicated? tracker)
    (more : Nat) (passed : List Reference)
    (belongs : issue.tracker = start.tracker) (known : before.record? issue = some record) :
    (∃ failure, before.walk start more passed record = .error failure ∧
        after.walk start more passed (change issue record) = .error failure) ∨
      ∃ last target, last.tracker = start.tracker ∧ before.record? last = some target ∧
        before.successor? start.tracker target = none ∧
        before.walk start more passed record = .ok target ∧
        after.walk start more passed (change issue record) = .ok (change last target) := by
  induction more generalizing issue record passed with
  | zero =>
    rw [walk, walk, successor?_of_changed same sameLink]
    cases onward : before.successor? start.tracker record with
    | none => exact Or.inr ⟨issue, record, belongs, known, onward, rfl, rfl⟩
    | some next => exact Or.inl ⟨_, rfl, rfl⟩
  | succ more inductionHypothesis =>
    rw [walk, walk, successor?_of_changed same sameLink]
    cases onward : before.successor? start.tracker record with
    | none => exact Or.inr ⟨issue, record, belongs, known, onward, rfl, rfl⟩
    | some next =>
      obtain ⟨nextBelongs, nextKnown⟩ := record?_of_successor? onward
      simp only [Option.map_some]
      by_cases again : passed.contains next.1 = true
      · rw [if_pos again, if_pos again]
        exact Or.inl ⟨_, rfl, rfl⟩
      · rw [if_neg again, if_neg again]
        exact inductionHypothesis (next.1 :: passed) nextBelongs nextKnown

theorem canonical_of_changed
    {issue : Reference} {record : Record}
    (same : ∀ other, other.tracker = issue.tracker →
      after.record? other = (before.record? other).map (change other))
    (sameLink : ∀ issue record tracker,
      (change issue record).duplicated? tracker = record.duplicated? tracker)
    (known : before.record? issue = some record) :
    (∃ failure, before.canonical issue = .error failure ∧
        after.canonical issue = .error failure) ∨
      ∃ last target, last.tracker = issue.tracker ∧ before.record? last = some target ∧
        before.successor? issue.tracker target = none ∧
        before.canonical issue = .ok (some target) ∧
        after.canonical issue = .ok (some (change last target)) := by
  have changed : after.record? issue = some (change issue record) := by
    rw [same issue rfl, known, Option.map_some]
  rcases walk_of_changed same sameLink (longestChain - 1) [issue] rfl known with
    ⟨failure, failed, failsAgain⟩ | ⟨last, target, belongs, isTarget, ends, walked, walksAgain⟩
  · apply Or.inl
    refine ⟨failure, ?_, ?_⟩
    · simp only [canonical, known, failed]
      rfl
    · simp only [canonical, changed, failsAgain]
      rfl
  · apply Or.inr
    refine ⟨last, target, belongs, isTarget, ends, ?_, ?_⟩
    · simp only [canonical, known, walked]
      rfl
    · simp only [canonical, changed, walksAgain]
      rfl

end Changed

end TestGate.Issue.Index
