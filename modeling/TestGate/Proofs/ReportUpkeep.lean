import TestGate.Proofs.Fates
import TestGate.Proofs.Upkeep

/-!
What a whole run keeps up, from resolving its issues to deciding the fates of its tests. Main
statement: a run keeps the index as an upkeep has it while all answers are fine, provided that the
mark on dropped tests is no harm to a record; and it changes no use of an issue.
-/

namespace TestGate

open Issue

namespace Upkeep

variable {σ : Type} {upkeep : Upkeep} {sources : IssueSources σ}

namespace Passes

/-- A change of the index alone. -/
theorem withIndex
    {tracker : Tracker} {index : Index} (run : Run σ)
    (frame : Index.Frame tracker run.session.index index)
    (kept : upkeep.Well run.session →
      ∀ issue record, index.record? issue = some record → upkeep.Kept issue record)
    (listed : upkeep.Well run.session →
      ∀ issue, index.contains issue = true → upkeep.Listed issue) :
    upkeep.Passes sources run (run.withIndex index) where
  usages := frame.usages
  ensures := .refl _ fun well => well.withIndex (kept well) (listed well)

theorem note
    (run : Run σ) (notice : Notice) :
    upkeep.Passes sources run (run.note notice) :=
  ⟨fun _ => rfl, .of_leads (.note run.world notice) id⟩

end Passes

/-! ## Look-ups -/

theorem touch_passes
    {issue : Reference}
    (listed : upkeep.Listed issue) (run : Run σ) :
    upkeep.Passes sources run (run.withIndex (run.session.index.touch issue)) := by
  have frame : Index.Frame issue.tracker run.session.index (run.session.index.touch issue) :=
    .update run.session.index rfl fun _ => rfl
  apply Passes.withIndex run frame
  · intro well other record known
    rw [Index.record?_touch] at known
    exact well.kept other record known
  · intro well other present
    rw [Index.touch, SortedMap.contains, Index.find?_update] at present
    by_cases same : other = issue
    · exact same ▸ listed
    · rw [if_neg same] at present
      exact well.listed other present

theorem ensure_passes
    {issue : Reference}
    (listed : upkeep.Listed issue) (run : Run σ) :
    upkeep.Passes sources run (run.ensure sources issue).2 := by
  rw [Run.ensure]
  by_cases known : (run.session.index.record? issue).isSome = true
  · rw [if_pos known]
    exact .refl run
  · rw [if_neg known]
    have touched : upkeep.Passes sources run
        (run.withIndex (run.session.index.touch issue)) :=
      touch_passes listed run
    exact touched.trans (.of_course (upkeep.resolveTracker_course sources issue.tracker _))

theorem lookUp_passes
    {α : Type} {issue : Reference} (question : Session → Reference → Except Failure α)
    (listed : upkeep.Listed issue) (run : Run σ) :
    upkeep.Passes sources run (run.lookUp sources question issue).2 := by
  rw [Run.lookUp_run]
  exact ensure_passes listed run

/-- Whether the mark on dropped tests is no harm to a record. -/
def AllowsMarks (upkeep : Upkeep) : Prop :=
  ∀ issue record, upkeep.Kept issue record →
    upkeep.Kept issue { record with isDeselected := some true }

theorem markDeselected_passes
    {issue : Reference}
    (marks : upkeep.AllowsMarks) (listed : upkeep.Listed issue) (run : Run σ) :
    upkeep.Passes sources run (run.markDeselected issue) := by
  apply Passes.withIndex run (.updateRecord run.session.index _ rfl)
  · intro well other record known
    rw [Index.record?_updateRecord] at known
    by_cases same : other = issue
    · rw [if_pos same] at known
      obtain ⟨before, earlier, rfl⟩ := Option.map_eq_some_iff.mp known
      exact marks other before (same ▸ well.kept issue before earlier)
    · rw [if_neg same] at known
      exact well.kept other record known
  · intro well other present
    rcases Session.contains_updateRecord present with earlier | same
    · exact well.listed other earlier
    · exact same ▸ listed

/-! ## Decisions -/

section Deciding

variable {filters : Filters}

theorem isDropped_passes
    {item : CollectedItem}
    (marks : upkeep.AllowsMarks) (listed : ∀ issue, item.Asks issue → upkeep.Listed issue)
    (run : Run σ) :
    upkeep.Passes sources run (run.isDropped sources item).2 := by
  rw [Run.isDropped]
  cases primary : item.primary with
  | none => exact .refl run
  | some issue =>
    have isListed : upkeep.Listed issue := listed issue (Or.inl primary)
    have asked : upkeep.Passes sources run (run.shouldDeselect sources issue).2 :=
      lookUp_passes Session.deselectStatus isListed run
    simp only
    revert asked
    generalize run.shouldDeselect sources issue = result
    obtain ⟨outcome, after⟩ := result
    intro asked
    cases outcome with
    | error failure => exact asked
    | ok drops =>
      cases drops with
      | true => exact asked.trans (markDeselected_passes marks isListed after)
      | false => exact asked

theorem guardOutcome_passes
    {item : CollectedItem}
    (listed : ∀ issue, item.Asks issue → upkeep.Listed issue) (run : Run σ) :
    upkeep.Passes sources run (run.guardOutcome sources item).2 := by
  rw [Run.guardOutcome]
  cases guard : item.guard with
  | none => exact .refl run
  | some issue =>
    have asked : upkeep.Passes sources run (run.isOpen sources issue).2 :=
      lookUp_passes Session.openStatus (listed issue (Or.inr guard)) run
    simp only
    revert asked
    generalize run.isOpen sources issue = result
    obtain ⟨outcome, after⟩ := result
    intro asked
    cases outcome with
    | error failure => exact asked
    | ok isOpen => cases isOpen <;> exact asked

theorem decideItem_passes
    {item : CollectedItem}
    (marks : upkeep.AllowsMarks) (listed : ∀ issue, item.Asks issue → upkeep.Listed issue)
    (run : Run σ) :
    upkeep.Passes sources run (run.decideItem sources filters item).2 := by
  have dropped : upkeep.Passes sources run (run.isDropped sources item).2 :=
    isDropped_passes marks listed run
  rw [Run.decideItem]
  revert dropped
  generalize run.isDropped sources item = result
  obtain ⟨outcome, after⟩ := result
  intro dropped
  cases outcome with
  | error failure => exact dropped
  | ok primary =>
    cases primary with
    | some issue => exact dropped
    | none =>
      by_cases admitted : filters.admits item = true
      · simp only [if_pos admitted]
        exact dropped.trans (guardOutcome_passes listed after)
      · simp only [if_neg admitted]
        exact dropped

theorem decideAll_passes
    {items : List CollectedItem}
    (marks : upkeep.AllowsMarks)
    (listed : ∀ item ∈ items, ∀ issue, item.Asks issue → upkeep.Listed issue) (run : Run σ) :
    upkeep.Passes sources run (Run.decideAll sources filters items run).2 := by
  induction items generalizing run with
  | nil => exact .refl run
  | cons item items inductionHypothesis =>
    have first : upkeep.Passes sources run (run.decideItem sources filters item).2 :=
      decideItem_passes marks (listed item List.mem_cons_self) run
    rw [Run.decideAll]
    revert first
    generalize run.decideItem sources filters item = result
    obtain ⟨outcome, after⟩ := result
    intro first
    cases outcome with
    | error failure => exact first
    | ok outcome =>
      have noted : upkeep.Passes sources after (after.noteOutcome item outcome) := by
        cases outcome with
        | selected skip => exact .refl after
        | deselected reason => exact .note after _
      have others := inductionHypothesis
        (fun other member => listed other (List.mem_cons_of_mem item member))
        (after.noteOutcome item outcome)
      simp only
      revert others
      generalize Run.decideAll sources filters items (after.noteOutcome item outcome) = rest
      obtain ⟨reports, last⟩ := rest
      intro others
      cases reports with
      | error failure => exact (first.trans noted).trans others
      | ok reports => exact (first.trans noted).trans others

/-- What a run keeps up, be it a success or a failure. -/
theorem resolveAndReport_passes
    {items : List CollectedItem}
    (marks : upkeep.AllowsMarks)
    (listed : ∀ item ∈ items, ∀ issue, item.Asks issue → upkeep.Listed issue) (run : Run σ) :
    upkeep.Passes sources run (run.resolveAndReport sources filters items).2 := by
  have resolved : upkeep.Passes sources run (run.resolve sources).2 :=
    upkeep.resolveTrackers_passes sources Tracker.all run
  rw [Run.resolveAndReport]
  revert resolved
  generalize run.resolve sources = result
  obtain ⟨outcome, after⟩ := result
  intro resolved
  cases outcome with
  | error failure => exact resolved
  | ok done =>
    have decided : upkeep.Passes sources after (Run.decideAll sources filters items after).2 :=
      decideAll_passes marks listed after
    simp only [Run.report]
    revert decided
    generalize Run.decideAll sources filters items after = reported
    obtain ⟨reports, last⟩ := reported
    intro decided
    cases reports with
    | error failure => exact resolved.trans decided
    | ok reports => exact resolved.trans decided

end Deciding

end Upkeep

end TestGate
