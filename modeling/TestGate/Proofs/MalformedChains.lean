import Mathlib.Data.List.Chain
import Mathlib.Data.List.Nodup
import TestGate.Proofs.DuplicateWalk
import TestGate.Proofs.References
import TestGate.Proofs.Results

/-!
What following duplicates gives, whatever the links of an index are: loops, links of an issue to
itself, links to issues that nothing is known about. Main statement: an issue without a record leads
nowhere, one whose chain ends in time leads to the record at the end, and for any other one the
failure lists its chain up to the issue at which following stopped.
-/

namespace TestGate.Issue

namespace Index

/-! ## Ways along links -/

/-- Whether these ids lead link by link from an issue on, each to one that the index knows. -/
structure IsWay (index : Index) (start : Reference) (ids : List String) : Prop where
  starts : ids.head? = some start.id
  linked : ids.IsChain fun id next => index.follow? start.tracker id = some next

/-- Whether this is how far a malformed chain is followed: to an issue that is among the earlier
ones, or that is one too many. -/
structure IsMalformedChain (index : Index) (start : Reference) (ids : List String) : Prop
    extends index.IsWay start ids where
  short : ids.length ≤ 17
  distinct : ids.dropLast.Nodup
  stops : (∃ last ∈ ids.dropLast, ids.getLast? = some last) ∨ ids.length = 17

section Ways

variable {index : Index} {start : Reference} {ids : List String} {id next : String}

theorem IsWay.snoc
    (way : index.IsWay start ids) (isLast : ids.getLast? = some id)
    (leads : index.follow? start.tracker id = some next) :
    index.IsWay start (ids ++ [next]) where
  starts := by rw [List.head?_append, way.starts, Option.some_or]
  linked := by
    refine way.linked.append (.singleton next) fun last inLast first inFirst => ?_
    rw [isLast, Option.mem_some_iff] at inLast
    cases inFirst
    exact inLast ▸ leads

/-- A way becomes malformed by a link that leads back to it or makes it too long. -/
theorem IsWay.isMalformedChain
    (way : index.IsWay start (ids ++ [next])) (distinct : ids.Nodup) (short : ids.length ≤ 16)
    (stops : next ∈ ids ∨ ids.length = 16) :
    index.IsMalformedChain start (ids ++ [next]) where
  toIsWay := way
  short := by
    rw [List.length_append, List.length_singleton]
    omega
  distinct := by rwa [List.dropLast_concat]
  stops := by
    rw [List.dropLast_concat, List.getLast?_concat, List.length_append, List.length_singleton]
    exact stops.imp (fun back => ⟨next, back, rfl⟩) (congrArg (· + 1))

end Ways

/-! ## Failing walks -/

/-- The texts of issues of one tracker. -/
def textsOf (tracker : Tracker) (ids : List String) : List String :=
  ids.map fun id => Reference.toText ⟨tracker, id⟩

theorem textsOf_concat_of_passed
    (tracker : Tracker) (ids : List String) (next : String) :
    ((⟨tracker, next⟩ :: ids.reverse.map (Reference.mk tracker)).reverse.map Reference.toText) =
      textsOf tracker (ids ++ [next]) := by
  simp [textsOf, Function.comp_def]

/-- Different issues have different texts. -/
theorem nodup_textsOf
    {tracker : Tracker} {ids : List String}
    (distinct : ids.Nodup) :
    (textsOf tracker ids).Nodup :=
  distinct.map fun _ _ same => congrArg Reference.id (Reference.toText_injective same)

/-- A walk that fails has come along a malformed chain, which the failure lists. -/
theorem isMalformedChain_of_walk
    {index : Index} {start : Reference} {more : Nat} {ids : List String} {id : String}
    {record : Record} {failure : Failure}
    (way : index.IsWay start ids) (distinct : ids.Nodup) (isLast : ids.getLast? = some id)
    (room : ids.length + more = 16) (known : index.record? ⟨start.tracker, id⟩ = some record)
    (failed : index.walk start more (ids.reverse.map (Reference.mk start.tracker)) record =
      .error failure) :
    ∃ chain, index.IsMalformedChain start chain ∧
      failure = .malformedDuplicateChain start.toText (textsOf start.tracker chain) := by
  -- with each step the way gets one issue longer
  induction more generalizing ids id record with
  | zero =>
    cases leads : index.follow? start.tracker id with
    | none =>
      rw [walk_of_ends known leads] at failed
      cases failed
    | some next =>
      obtain ⟨found, _, isSuccessor⟩ := successor?_of_follow? known leads
      rw [walk, isSuccessor] at failed
      cases failed
      have further := (way.snoc isLast leads).isMalformedChain distinct (by omega) (.inr room)
      exact ⟨ids ++ [next], further, by rw [textsOf_concat_of_passed]⟩
  | succ more inductionHypothesis =>
    cases leads : index.follow? start.tracker id with
    | none =>
      rw [walk_of_ends known leads] at failed
      cases failed
    | some next =>
      obtain ⟨found, nextKnown, isSuccessor⟩ := successor?_of_follow? known leads
      have isPassed : (ids.reverse.map (Reference.mk start.tracker)).contains
          ⟨start.tracker, next⟩ = true ↔ next ∈ ids := by
        simp
      rw [walk, isSuccessor] at failed
      simp only at failed
      by_cases back : next ∈ ids
      · rw [if_pos (isPassed.mpr back)] at failed
        cases failed
        have further := (way.snoc isLast leads).isMalformedChain distinct (by omega) (.inl back)
        exact ⟨ids ++ [next], further, by rw [textsOf_concat_of_passed]⟩
      · rw [if_neg (mt isPassed.mp back)] at failed
        have stillDistinct : (ids ++ [next]).Nodup :=
          List.nodup_append.mpr ⟨distinct, List.nodup_singleton next, by
            intro other inIds last isNext same
            exact back (List.mem_singleton.mp isNext ▸ same ▸ inIds)⟩
        have stillRoom : (ids ++ [next]).length + more = 16 := by
          rw [List.length_append, List.length_singleton]
          omega
        refine inductionHypothesis (way.snoc isLast leads) stillDistinct List.getLast?_concat
          stillRoom nextKnown ?_
        rwa [List.reverse_concat, List.map_cons]

/-! ## Following duplicates -/

/-- Nothing is found exactly where the index knows nothing. -/
theorem canonical_eq_none_iff
    (index : Index) (start : Reference) :
    index.canonical start = .ok none ↔ index.record? start = none := by
  rw [canonical]
  cases index.record? start with
  | none => simp
  | some record =>
    simp only [reduceCtorEq, iff_false]
    intro same
    obtain ⟨_, _, isNone⟩ := Results.map_eq_ok_iff.mp same
    cases isNone

/-- A chain of which the first issue is known ends at a known issue. -/
theorem isSome_record?_of_trail
    {index : Index} {tracker : Tracker} {id last : String} {ids : List String}
    (trail : Trail (index.follow? tracker) id ids) (isLast : ids.getLast? = some last)
    (known : (index.record? ⟨tracker, id⟩).isSome = true) :
    (index.record? ⟨tracker, last⟩).isSome = true := by
  induction trail with
  | last =>
    cases isLast
    exact known
  | link leads trail inductionHypothesis =>
    rw [List.getLast?_cons_of_ne_nil trail.ne_nil] at isLast
    exact inductionHypothesis isLast (follow?_eq_some_iff.mp leads).2

/-- The record that is found is the one at the end of a chain that is short enough. -/
theorem canonical_eq_some_iff
    (index : Index) (start : Reference) (target : Record) :
    index.canonical start = .ok (some target) ↔
      ∃ ids last, Trail (index.follow? start.tracker) start.id ids ∧ ids.Nodup ∧
        ids.length ≤ 16 ∧ ids.getLast? = some last ∧
          index.record? ⟨start.tracker, last⟩ = some target := by
  constructor
  · intro found
    have known : (index.record? start).isSome = true := by
      rw [Option.isSome_iff_ne_none]
      intro unknown
      rw [(canonical_eq_none_iff index start).mpr unknown] at found
      cases found
    rcases CanStep.or_trail (index.follow? start.tracker) longestChain start.id with
      steps | ⟨ids, trail, short⟩
    · obtain ⟨failure, failed⟩ := canonical_of_canStep start steps known
      rw [failed] at found
      cases found
    · obtain ⟨last, isLast⟩ := trail.exists_last
      obtain ⟨other, lastKnown⟩ :=
        Option.isSome_iff_exists.mp (isSome_record?_of_trail trail isLast known)
      rw [canonical_of_trail trail short isLast lastKnown, Except.ok.injEq,
        Option.some.injEq] at found
      exact ⟨ids, last, trail, trail.nodup, short, isLast, found ▸ lastKnown⟩
  · rintro ⟨ids, last, trail, _, short, isLast, known⟩
    exact canonical_of_trail trail short isLast known

/-- Where following fails it has come along a malformed chain. -/
theorem isMalformedChain_of_canonical
    {index : Index} {start : Reference} {failure : Failure}
    (failed : index.canonical start = .error failure) :
    ∃ ids, index.IsMalformedChain start ids ∧
      failure = .malformedDuplicateChain start.toText (textsOf start.tracker ids) := by
  rw [canonical] at failed
  cases known : index.record? start with
  | none =>
    rw [known] at failed
    cases failed
  | some record =>
    rw [known] at failed
    have walked := Results.map_eq_error_iff.mp failed
    have begun : index.IsWay start [start.id] := ⟨rfl, .singleton start.id⟩
    exact isMalformedChain_of_walk begun (List.nodup_singleton start.id) rfl rfl known walked

/-- Let the chain of an issue go from record to record along the links that lead to a known issue.
Where nothing is known about the issue, following its duplicates gives nothing. It gives the record
at the end of the chain where this ends with at most 16 issues, no two of them the same. In all
other cases it fails, and the failure lists the issues of a malformed chain. -/
theorem canonical_exact
    (index : Index) (start : Reference) :
    (index.canonical start = .ok none ↔ index.record? start = none) ∧
      (∀ target, index.canonical start = .ok (some target) ↔
        ∃ ids last, Trail (index.follow? start.tracker) start.id ids ∧ ids.Nodup ∧
          ids.length ≤ 16 ∧ ids.getLast? = some last ∧
            index.record? ⟨start.tracker, last⟩ = some target) ∧
      ((index.record? start).isSome = true →
        (¬ ∃ ids, Trail (index.follow? start.tracker) start.id ids ∧ ids.Nodup ∧
          ids.length ≤ 16) →
        ∃ ids, index.IsMalformedChain start ids ∧
          (textsOf start.tracker ids.dropLast).Nodup ∧
            index.canonical start =
              .error (.malformedDuplicateChain start.toText (textsOf start.tracker ids))) := by
  refine ⟨canonical_eq_none_iff index start, canonical_eq_some_iff index start, ?_⟩
  intro known noChain
  have steps : CanStep (index.follow? start.tracker) longestChain start.id := by
    by_contra fewer
    obtain ⟨ids, trail, short⟩ := (CanStep.not_iff _ _ _).mp fewer
    exact noChain ⟨ids, trail, trail.nodup, short⟩
  obtain ⟨failure, failed⟩ := canonical_of_canStep start steps known
  obtain ⟨ids, malformed, rfl⟩ := isMalformedChain_of_canonical failed
  exact ⟨ids, malformed, nodup_textsOf malformed.distinct, failed⟩

/-- A duplicate of an issue that lies on a loop. -/
def wayIntoLoop : Index :=
  SortedMap.ofList <| [("A", "B"), ("B", "C"), ("C", "B")].map fun (id, next) =>
    (⟨.jira, id⟩, { data := some { id, resolution := "duplicate", duplicateOf := some next } })

theorem canonical_exact_wayIntoLoop :
    ∃ ids, wayIntoLoop.IsMalformedChain ⟨.jira, "A"⟩ ids ∧
      wayIntoLoop.canonical ⟨.jira, "A"⟩ =
        .error (.malformedDuplicateChain "JR:A" (textsOf .jira ids)) := by
  have first : wayIntoLoop.follow? .jira "A" = some "B" := by decide +kernel
  have second : wayIntoLoop.follow? .jira "B" = some "C" := by decide +kernel
  have third : wayIntoLoop.follow? .jira "C" = some "B" := by decide +kernel
  have noChain : ¬ ∃ ids, Trail (wayIntoLoop.follow? .jira) "A" ids ∧ ids.Nodup ∧
      ids.length ≤ 16 := by
    rintro ⟨ids, trail, _⟩
    obtain ⟨_, _, ofB⟩ := trail.split first
    obtain ⟨_, rfl, ofC⟩ := ofB.split second
    obtain ⟨_, rfl, ofBAgain⟩ := ofC.split third
    have lengths := congrArg List.length (ofB.unique ofBAgain)
    simp only [List.length_cons] at lengths
    omega
  obtain ⟨ids, malformed, _, failed⟩ :=
    (canonical_exact wayIntoLoop ⟨.jira, "A"⟩).2.2 (by decide +kernel) noChain
  exact ⟨ids, malformed, failed⟩

example :
    wayIntoLoop.canonical ⟨.jira, "A"⟩ =
      .error (.malformedDuplicateChain "JR:A" ["JR:A", "JR:B", "JR:C", "JR:B"]) := by
  rfl

end Index

end TestGate.Issue
