import TestGate.Proofs.Discipline
import TestGate.Proofs.RunSteps
import Mathlib.Logic.Relation

/-!
How far a search for targets gets, whatever the trackers answer. It goes as many links behind each
duplicate as a walk may pass, and no issue is looked at twice. Main statement: when all is gathered
for a tracker, each of its links leads to a record, but for those of issues that lie `longestChain`
links behind another one.
-/

namespace TestGate

open Issue

variable {σ : Type}

/-! ## Searches -/

/-- A stretch of a search for targets: records are only added, and only about issues that are seen.
-/
structure Run.Stretch (tracker : Tracker) (seen : List String) (run : Run σ)
    (seenAfter : List String) (after : Run σ) : Prop where
  keeps : run.session.index.Keeps after.session.index
  subset : seen ⊆ seenAfter
  additions : ∀ id, (after.session.index.record? ⟨tracker, id⟩).isSome = true →
    (run.session.index.record? ⟨tracker, id⟩).isSome = true ∨ id ∈ seenAfter

namespace Run.Stretch

variable {tracker : Tracker}

theorem refl
    (seen : List String) (run : Run σ) :
    Run.Stretch tracker seen run seen run :=
  ⟨.refl _, List.Subset.refl seen, fun _ known => Or.inl known⟩

theorem trans
    {seen middleSeen lastSeen : List String} {run middle last : Run σ}
    (early : Run.Stretch tracker seen run middleSeen middle)
    (late : Run.Stretch tracker middleSeen middle lastSeen last) :
    Run.Stretch tracker seen run lastSeen last where
  keeps := early.keeps.trans late.keeps
  subset := List.Subset.trans early.subset late.subset
  additions id known := by
    rcases late.additions id known with before | new
    · rcases early.additions id before with earlier | new
      · exact Or.inl earlier
      · exact Or.inr (late.subset new)
    · exact Or.inr new

end Run.Stretch

namespace Issue.Index

/-- Whether the index knows an issue and all issues that its record leads to have been seen. -/
def Rounded (index : Index) (tracker : Tracker) (seen : List String) (id : String) : Prop :=
  (index.record? ⟨tracker, id⟩).isSome = true ∧
    ∀ next, index.link? tracker id = some next → next ∈ seen

theorem Rounded.grow
    {before after : Index} {tracker : Tracker} {seen more : List String} {id : String}
    (rounded : before.Rounded tracker seen id) (keeps : before.Keeps after) (subset : seen ⊆ more) :
    after.Rounded tracker more id := by
  obtain ⟨known, leads⟩ := rounded
  refine ⟨keeps.isSome known, fun next link => subset (leads next ?_)⟩
  obtain ⟨record, found⟩ := Option.isSome_iff_exists.mp known
  rw [Index.link?_of_record? found]
  rwa [Index.link?_of_record? (keeps _ _ found)] at link

/-- Whether an issue lies as far behind another one as a search for targets goes. -/
def AtLimit (index : Index) (tracker : Tracker) (id : String) : Prop :=
  ∃ head, stepsTo? (index.link? tracker) longestChain head = some id

theorem AtLimit.keeps
    {before after : Index} {tracker : Tracker} {id : String}
    (atLimit : before.AtLimit tracker id) (keeps : before.Keeps after) :
    after.AtLimit tracker id := by
  obtain ⟨head, reached⟩ := atLimit
  exact ⟨head, stepsTo?_grow (fun _ _ leads => keeps.link? leads) reached⟩

/-- Whether a search is through with an issue that it has seen. -/
def Searched (index : Index) (tracker : Tracker) (seen : List String) (id : String) : Prop :=
  index.Rounded tracker seen id ∨
    (index.record? ⟨tracker, id⟩).isSome = true ∧ index.AtLimit tracker id

theorem Searched.grow
    {before after : Index} {tracker : Tracker} {seen more : List String} {id : String}
    (searched : before.Searched tracker seen id) (keeps : before.Keeps after)
    (subset : seen ⊆ more) :
    after.Searched tracker more id := by
  rcases searched with rounded | ⟨known, atLimit⟩
  · exact Or.inl (rounded.grow keeps subset)
  · exact Or.inr ⟨keeps.isSome known, atLimit.keeps keeps⟩

end Issue.Index

namespace Run

variable (sources : IssueSources σ) {tracker : Tracker}

/-- Making sure of one record, and seeing its issue. -/
theorem ensureTarget_stretch
    (tracker : Tracker) (id : String) (seen : List String) (run : Run σ) :
    Run.Stretch tracker seen run (id :: seen) (run.ensureTarget sources ⟨tracker, id⟩) ∧
      ((run.ensureTarget sources ⟨tracker, id⟩).session.index.record?
        ⟨tracker, id⟩).isSome = true := by
  rcases ensureTarget_cases sources ⟨tracker, id⟩ run with
    ⟨known, same⟩ | ⟨record, after, unknown, _, _, same⟩
  · rw [same]
    exact ⟨⟨.refl _, List.subset_cons_self id seen, fun _ before => Or.inl before⟩, known⟩
  · rw [same]
    refine ⟨⟨.enterTarget unknown record, List.subset_cons_self id seen, fun other present => ?_⟩,
      Session.isSome_record?_enterTarget.mpr (Or.inl rfl)⟩
    rcases Session.isSome_record?_enterTarget.mp present with isTarget | before
    · obtain rfl : other = id := congrArg Reference.id isTarget
      exact Or.inr List.mem_cons_self
    · exact Or.inl before

/-- A chase sees the issue that it starts at, and is through with all that it sees, but for the one
at which its steps are used up. -/
theorem chase_stretch
    {source id : String} {run : Run σ}
    (leads : run.session.index.link? tracker source = some id) (steps : Nat)
    (seen : List String) :
    ∃ seenAfter after,
      Run.chase sources tracker steps id seen run = (seenAfter, after) ∧
        Run.Stretch tracker seen run seenAfter after ∧ (id ∈ seenAfter ∨ steps = 0) ∧
          ∀ other ∈ seenAfter,
            other ∈ seen ∨ after.session.index.Rounded tracker seenAfter other ∨
              (after.session.index.record? ⟨tracker, other⟩).isSome = true ∧
                stepsTo? (after.session.index.link? tracker) steps source = some other := by
  -- with each step the issue that is seen becomes the source of the next
  induction steps generalizing source id seen run with
  | zero => exact ⟨seen, run, rfl, .refl seen run, Or.inr rfl, fun _ member => Or.inl member⟩
  | succ steps inductionHypothesis =>
    by_cases old : id ∈ seen
    · exact ⟨seen, run, chase_of_mem sources _ old, .refl seen run, Or.inl old,
        fun _ member => Or.inl member⟩
    · obtain ⟨first, here⟩ := ensureTarget_stretch sources tracker id seen run
      cases link : (run.ensureTarget sources ⟨tracker, id⟩).session.index.link? tracker id with
      | none =>
        rw [chase_of_end sources steps old link]
        refine ⟨id :: seen, _, rfl, first, Or.inl List.mem_cons_self, fun other member => ?_⟩
        rcases List.mem_cons.mp member with rfl | earlier
        · refine Or.inr (Or.inl ⟨here, fun next further => ?_⟩)
          rw [link] at further
          cases further
        · exact Or.inl earlier
      | some next =>
        rw [chase_of_link sources steps old link]
        obtain ⟨seenAfter, after, outcome, rest, nextSeen, searched⟩ :=
          inductionHypothesis link (id :: seen)
        have both := first.trans rest
        have linkAfter := rest.keeps.link? link
        have sourceAfter := both.keeps.link? leads
        refine ⟨seenAfter, after, outcome, both, Or.inl (rest.subset List.mem_cons_self), ?_⟩
        intro other member
        rw [stepsTo?_succ sourceAfter]
        rcases searched other member with inSeen | done
        · rcases List.mem_cons.mp inSeen with rfl | earlier
          · refine Or.inr ?_
            rcases nextSeen with isSeen | noSteps
            · refine Or.inl ⟨rest.keeps.isSome here, fun beyond further => ?_⟩
              rw [linkAfter, Option.some.injEq] at further
              exact further ▸ isSeen
            · rw [noSteps]
              exact Or.inr ⟨rest.keeps.isSome here, rfl⟩
          · exact Or.inl earlier
        · exact Or.inr done

/-- Chases one after another see all issues that they start at, and are through with all that they
see. -/
theorem chaseAll_stretch
    {ids : List String} {run : Run σ}
    (linked : ∀ id ∈ ids, ∃ source, run.session.index.link? tracker source = some id)
    {seen : List String}
    (searched : ∀ other ∈ seen, run.session.index.Searched tracker seen other) :
    ∃ seenAfter after,
      ids.foldl
          (fun (seen, run) id => Run.chase sources tracker Index.longestChain id seen run)
          (seen, run) =
        (seenAfter, after) ∧
      Run.Stretch tracker seen run seenAfter after ∧ (∀ id ∈ ids, id ∈ seenAfter) ∧
        ∀ other ∈ seenAfter, after.session.index.Searched tracker seenAfter other := by
  induction ids generalizing seen run with
  | nil => exact ⟨seen, run, rfl, .refl seen run, nofun, searched⟩
  | cons id rest inductionHypothesis =>
    obtain ⟨source, leads⟩ := linked id List.mem_cons_self
    obtain ⟨middleSeen, middle, outcome, first, isSeen, through⟩ :=
      chase_stretch sources leads Index.longestChain seen
    have idSeen : id ∈ middleSeen := isSeen.resolve_right (by decide)
    have linkedAfter : ∀ other ∈ rest,
        ∃ source, middle.session.index.link? tracker source = some other := by
      intro other member
      obtain ⟨otherSource, otherLeads⟩ := linked other (List.mem_cons_of_mem id member)
      exact ⟨otherSource, first.keeps.link? otherLeads⟩
    have middleSearched : ∀ other ∈ middleSeen,
        middle.session.index.Searched tracker middleSeen other := by
      intro other member
      rcases through other member with earlier | rounded | ⟨known, reached⟩
      · exact (searched other earlier).grow first.keeps first.subset
      · exact Or.inl rounded
      · exact Or.inr ⟨known, source, reached⟩
    obtain ⟨seenAfter, after, outcomeAfter, second, restSeen, searchedAfter⟩ :=
      inductionHypothesis linkedAfter middleSearched
    refine ⟨seenAfter, after, ?_, first.trans second, fun other member => ?_, searchedAfter⟩
    · rw [List.foldl_cons]
      simp only [outcome]
      exact outcomeAfter
    · rcases List.mem_cons.mp member with rfl | inRest
      · exact second.subset idSeen
      · exact restSeen other inRest

end Run

/-! ## Steps of a search -/

/-- Whether one run arises from another by making sure of an issue that a link leads to. -/
def Run.TargetStep (sources : IssueSources σ) (tracker : Tracker) (before after : Run σ) : Prop :=
  ∃ source id, before.session.index.link? tracker source = some id ∧
    after = before.ensureTarget sources ⟨tracker, id⟩

namespace Run

variable (sources : IssueSources σ) {tracker : Tracker} {run after : Run σ}

theorem keeps_of_targetSteps
    (steps : Relation.ReflTransGen (TargetStep sources tracker) run after) :
    run.session.index.Keeps after.session.index := by
  induction steps with
  | refl => exact .refl _
  | tail _ step inductionHypothesis =>
    obtain ⟨_, id, _, rfl⟩ := step
    exact inductionHypothesis.trans (ensureTarget_stretch sources tracker id [] _).1.keeps

theorem targetSteps_chase
    {source id : String}
    (leads : run.session.index.link? tracker source = some id) (count : Nat)
    (seen : List String) :
    Relation.ReflTransGen (TargetStep sources tracker) run
      (chase sources tracker count id seen run).2 := by
  -- with each step the issue that is entered becomes the source of the next
  induction count generalizing source id seen run with
  | zero => exact .refl
  | succ count inductionHypothesis =>
    by_cases old : id ∈ seen
    · rw [chase_of_mem sources _ old]
    · have first : TargetStep sources tracker run (run.ensureTarget sources ⟨tracker, id⟩) :=
        ⟨source, id, leads, rfl⟩
      cases link : (run.ensureTarget sources ⟨tracker, id⟩).session.index.link? tracker id with
      | none =>
        rw [chase_of_end sources count old link]
        exact .single first
      | some next =>
        rw [chase_of_link sources count old link]
        exact .head first (inductionHypothesis link (id :: seen))

theorem targetSteps_chaseAll
    {ids : List String}
    (linked : ∀ id ∈ ids, ∃ source, run.session.index.link? tracker source = some id)
    (seen : List String) :
    Relation.ReflTransGen (TargetStep sources tracker) run
      (ids.foldl
        (fun (seen, run) id => chase sources tracker Index.longestChain id seen run)
        (seen, run)).2 := by
  induction ids generalizing seen run with
  | nil => exact .refl
  | cons id rest inductionHypothesis =>
    obtain ⟨source, leads⟩ := linked id List.mem_cons_self
    have first := targetSteps_chase sources leads Index.longestChain seen
    have keeps := keeps_of_targetSteps sources first
    rw [List.foldl_cons]
    refine first.trans (inductionHypothesis (fun other member => ?_) _)
    obtain ⟨otherSource, otherLeads⟩ := linked other (List.mem_cons_of_mem id member)
    exact ⟨otherSource, keeps.link? otherLeads⟩

/-- What holds at first and is kept up with each target holds at the end of a search. -/
theorem fetchTargets_induction
    (tracker : Tracker) (run : Run σ) {motive : Run σ → Prop}
    (first : motive run)
    (onward : ∀ before source id, before.session.index.link? tracker source = some id →
      motive before → motive (before.ensureTarget sources ⟨tracker, id⟩)) :
    motive (run.fetchTargets sources tracker) := by
  have steps : Relation.ReflTransGen (TargetStep sources tracker) run
      (run.fetchTargets sources tracker) :=
    targetSteps_chaseAll sources
      (fun _ member => Session.mem_duplicateTargets_iff.mp (List.mem_reverse.mp member)) []
  revert steps
  generalize run.fetchTargets sources tracker = after
  intro steps
  induction steps with
  | refl => exact first
  | tail _ step inductionHypothesis =>
    obtain ⟨source, id, leads, rfl⟩ := step
    exact onward _ source id leads inductionHypothesis

end Run

/-! ## Gaps -/

namespace Issue.Index

/-- Whether each link of a tracker leads to a record, but for those of issues that lie as far behind
another one as a search goes. -/
def Gapless (index : Index) (tracker : Tracker) : Prop :=
  ∀ id next, index.link? tracker id = some next →
    (index.record? ⟨tracker, next⟩).isSome = true ∨ index.AtLimit tracker id

theorem Gapless.congr
    {before after : Index} {tracker : Tracker}
    (gapless : before.Gapless tracker)
    (sameLinks : after.link? tracker = before.link? tracker)
    (known : ∀ issue, (before.record? issue).isSome = true → (after.record? issue).isSome = true) :
    after.Gapless tracker := by
  intro id next leads
  rw [AtLimit, sameLinks]
  rw [sameLinks] at leads
  exact (gapless id next leads).imp_left (known _)

end Issue.Index

namespace Run

variable (sources : IssueSources σ) (tracker : Tracker) (run : Run σ)

theorem gapless_fetchTargets :
    (run.fetchTargets sources tracker).session.index.Gapless tracker := by
  have linked : ∀ id ∈ (run.session.duplicateTargets tracker).reverse,
      ∃ source, run.session.index.link? tracker source = some id := fun id member =>
    Session.mem_duplicateTargets_iff.mp (List.mem_reverse.mp member)
  have begun : ∀ other ∈ [], run.session.index.Searched tracker [] other := nofun
  obtain ⟨seenAfter, after, outcome, stretch, allSeen, searched⟩ :=
    chaseAll_stretch sources linked begun
  rw [fetchTargets, outcome]
  have knownOfSeen : ∀ id ∈ seenAfter,
      (after.session.index.record? ⟨tracker, id⟩).isSome = true := fun id member =>
    (searched id member).elim And.left And.left
  intro id next leads
  obtain ⟨record, known, duplicated⟩ := Index.record?_of_link? leads
  rcases stretch.additions id (by rw [known]; rfl) with before | idSeen
  · -- the duplicate was there before the search, which has gone to its target
    refine Or.inl (knownOfSeen next (allSeen next (List.mem_reverse.mpr ?_)))
    refine Session.mem_duplicateTargets_iff.mpr ⟨id, ?_⟩
    obtain ⟨earlier, earlierKnown⟩ := Option.isSome_iff_exists.mp before
    have same := stretch.keeps _ _ earlierKnown
    rw [known, Option.some.injEq] at same
    rw [Index.link?_of_record? earlierKnown, ← same, duplicated]
  · rcases searched id idSeen with rounded | ⟨_, atLimit⟩
    · exact Or.inl (knownOfSeen next (rounded.2 next leads))
    · exact Or.inr atLimit

theorem gapless_fetchClones
    (gapless : run.session.index.Gapless tracker) :
    (run.fetchClones sources).session.index.Gapless tracker := by
  rcases fetchClones_cases sources run with ⟨_, same⟩ | ⟨clones, after, _, _, same⟩
  · rw [same]
    exact gapless
  · rw [same]
    refine gapless.congr (Session.link?_attachClones run.session clones tracker) ?_
    exact fun issue known =>
      (Session.isSome_record?_attachClones run.session clones issue).trans known

/-- When all is gathered, the links of the tracker have no other gaps. -/
theorem gapless_gather
    (pending : List Reference) :
    (run.gather sources tracker pending).session.index.Gapless tracker := by
  rw [gather]
  cases tracker with
  | jira => exact gapless_fetchTargets sources .jira _
  | bugzilla => exact gapless_fetchClones sources .bugzilla _ (gapless_fetchTargets sources .bugzilla _)

end Run

end TestGate
