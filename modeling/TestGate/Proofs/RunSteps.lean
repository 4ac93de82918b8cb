import TestGate.Proofs.DuplicateWalk
import TestGate.Proofs.Fetching

/-!
What the steps of a run can do, each said once. Making sure of a record, chasing an issue, fetching
clones and resolving a tracker each leave the run as it is or go one way on, and what they enter
goes into the index that they began with.
-/

namespace TestGate

open Issue

namespace Run

variable {σ : Type} (sources : IssueSources σ)

/-! ## Single records -/

/-- Looks up a single issue and enters its record. -/
def fetchTarget (tracker : Tracker) (run : Run σ) (id : String) : Run σ :=
  let issue : Reference := ⟨tracker, id⟩
  let (record, run) := fetchSingle sources issue (run.note (.fetchingDuplicate issue))
  run.withIndex (Session.enterTarget run.session.index issue record)

theorem fetchTarget_eq
    (tracker : Tracker) (run : Run σ) (id : String) :
    ∃ record after,
      (run.note (.fetchingDuplicate ⟨tracker, id⟩)).fetchSingle sources ⟨tracker, id⟩ =
          (record, after) ∧
        after.session.index = run.session.index ∧
          run.fetchTarget sources tracker id =
            after.withIndex (Session.enterTarget run.session.index ⟨tracker, id⟩ record) := by
  have sameIndex := fetchSingle_index sources ⟨tracker, id⟩
    (run.note (.fetchingDuplicate ⟨tracker, id⟩))
  rw [fetchTarget]
  cases fetched : (run.note (.fetchingDuplicate ⟨tracker, id⟩)).fetchSingle sources ⟨tracker, id⟩ with
  | mk record after =>
    rw [fetched] at sameIndex
    replace sameIndex : after.session.index = run.session.index := sameIndex
    refine ⟨record, after, rfl, sameIndex, ?_⟩
    simp only [sameIndex]

/-- Making sure of a record is looking it up if it is not known. -/
theorem ensureTarget_eq
    (tracker : Tracker) (run : Run σ) (id : String) :
    run.ensureTarget sources ⟨tracker, id⟩ =
      if (run.session.index.record? ⟨tracker, id⟩).isSome then run
      else run.fetchTarget sources tracker id := rfl

/-- A record that is not known is fetched and entered. -/
theorem ensureTarget_cases
    (issue : Reference) (run : Run σ) :
    ((run.session.index.record? issue).isSome = true ∧ run.ensureTarget sources issue = run) ∨
      ∃ record after,
        run.session.index.record? issue = none ∧
          (run.note (.fetchingDuplicate issue)).fetchSingle sources issue = (record, after) ∧
            after.session.index = run.session.index ∧
              run.ensureTarget sources issue =
                after.withIndex (Session.enterTarget run.session.index issue record) := by
  obtain ⟨tracker, id⟩ := issue
  rw [ensureTarget_eq]
  by_cases known : (run.session.index.record? ⟨tracker, id⟩).isSome = true
  · exact Or.inl ⟨known, if_pos known⟩
  · obtain ⟨record, after, fetched, sameIndex, same⟩ := fetchTarget_eq sources tracker run id
    rw [if_neg known]
    exact Or.inr ⟨record, after, by simpa using known, fetched, sameIndex, same⟩

/-! ## Chases -/

section Chases

variable {tracker : Tracker} {id next : String} {seen : List String} {run : Run σ}

/-- A chase turns back at an issue that has been seen. -/
theorem chase_of_mem
    (steps : Nat) (old : id ∈ seen) :
    run.chase sources tracker steps id seen = (seen, run) := by
  cases steps with
  | zero => rfl
  | succ steps => rw [chase, if_pos (List.contains_iff_mem.mpr old)]

/-- A chase makes sure of an issue and goes on to the one that this leads to. -/
theorem chase_of_link
    (steps : Nat) (new : id ∉ seen)
    (leads : (run.ensureTarget sources ⟨tracker, id⟩).session.index.link? tracker id = some next) :
    run.chase sources tracker (steps + 1) id seen =
      (run.ensureTarget sources ⟨tracker, id⟩).chase sources tracker steps next (id :: seen) := by
  rw [Index.link?] at leads
  rw [chase, if_neg fun old => new (List.contains_iff_mem.mp old)]
  simp only [leads]

/-- A chase ends at an issue that leads to no other. -/
theorem chase_of_end
    (steps : Nat) (new : id ∉ seen)
    (ends : (run.ensureTarget sources ⟨tracker, id⟩).session.index.link? tracker id = none) :
    run.chase sources tracker (steps + 1) id seen =
      (id :: seen, run.ensureTarget sources ⟨tracker, id⟩) := by
  rw [Index.link?] at ends
  rw [chase, if_neg fun old => new (List.contains_iff_mem.mp old)]
  simp only [ends]

end Chases

/-! ## Clones and trackers -/

/-- The clones of all parents are fetched at once. -/
theorem fetchClones_cases
    (run : Run σ) :
    (run.session.cloneParents = [] ∧ run.fetchClones sources = run) ∨
      ∃ clones after,
        run.fetchBatch sources .bugzilla (run.session.cloneParents.flatMap (·.2)) =
            (clones, after) ∧
          after.session.index = run.session.index ∧
            run.fetchClones sources = after.withIndex
              (Session.attachClones run.session.index run.session.cloneParents clones) := by
  simp only [fetchClones]
  by_cases nobody : run.session.cloneParents.isEmpty = true
  · exact Or.inl ⟨List.isEmpty_iff.mp nobody, if_pos nobody⟩
  · rw [if_neg nobody]
    have sameIndex :=
      fetchBatch_index sources .bugzilla (run.session.cloneParents.flatMap (·.2)) run
    revert sameIndex
    generalize run.fetchBatch sources .bugzilla (run.session.cloneParents.flatMap (·.2)) = result
    obtain ⟨clones, after⟩ := result
    intro sameIndex
    replace sameIndex : after.session.index = run.session.index := sameIndex
    refine Or.inr ⟨clones, after, rfl, sameIndex, ?_⟩
    rw [sameIndex]

/-- Where an issue is pending, all is gathered and then judged. -/
theorem resolveTracker_cases
    (tracker : Tracker) (run : Run σ) :
    let gathered := run.gather sources tracker (run.session.pending tracker)
    (run.session.pending tracker = [] ∧ run.resolveTracker sources tracker = (.ok (), run)) ∨
      (∃ failure, gathered.session.judge tracker = .error failure ∧
        run.resolveTracker sources tracker = (.error failure, gathered)) ∨
      ∃ session, gathered.session.judge tracker = .ok session ∧
        run.resolveTracker sources tracker = (.ok (), { gathered with session := session }) := by
  simp only [resolveTracker]
  by_cases nothing : (run.session.pending tracker).isEmpty = true
  · exact Or.inl ⟨List.isEmpty_iff.mp nothing, if_pos nothing⟩
  · rw [if_neg nothing]
    refine Or.inr ?_
    generalize run.gather sources tracker (run.session.pending tracker) = gathered
    cases judging : gathered.session.judge tracker with
    | error failure => exact Or.inl ⟨failure, rfl, rfl⟩
    | ok session => exact Or.inr ⟨session, rfl, rfl⟩

/-- The first failure ends the work on several trackers. -/
theorem resolveTrackers_cases
    (tracker : Tracker) (trackers : List Tracker) (run : Run σ) :
    (∃ middle, run.resolveTracker sources tracker = (.ok (), middle) ∧
        resolveTrackers sources (tracker :: trackers) run =
          resolveTrackers sources trackers middle) ∨
      ∃ failure middle, run.resolveTracker sources tracker = (.error failure, middle) ∧
        resolveTrackers sources (tracker :: trackers) run = (.error failure, middle) := by
  rw [resolveTrackers]
  cases step : run.resolveTracker sources tracker with
  | mk outcome middle =>
    cases outcome with
    | ok done => exact Or.inl ⟨middle, rfl, rfl⟩
    | error failure => exact Or.inr ⟨failure, middle, rfl, rfl⟩

end Run

end TestGate
