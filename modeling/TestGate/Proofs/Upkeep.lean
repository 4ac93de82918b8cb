import TestGate.Proofs.Fetching
import TestGate.Proofs.Heard
import TestGate.Proofs.Judging

/-!
What resolving keeps up whatever the trackers answer. An `Upkeep` says which answers are fine, which
records may then stand in the index and which issues may be listed there. Main statement: while all
answers are fine, every operation of the resolver keeps the index so; and whatever the answers are
like, it loses no record and adds no entry without one.
-/

namespace TestGate

open Issue

/-! ## Indexes that are filled up -/

namespace Issue.Index

/-- What resolving for one tracker does to an index in any case: it leaves the other tracker alone,
it loses no record, and each new entry has one. -/
structure Extends (tracker : Tracker) (before after : Index) : Prop where
  frame : Frame tracker before after
  known : ∀ issue, (before.record? issue).isSome = true → (after.record? issue).isSome = true
  filled : ∀ issue, after.contains issue = true →
    before.contains issue = true ∨ (after.record? issue).isSome = true

namespace Extends

variable {tracker : Tracker} {before after : Index}

theorem refl
    (index : Index) :
    Extends tracker index index :=
  ⟨.refl index, fun _ known => known, fun _ present => Or.inl present⟩

theorem trans
    {first second third : Index}
    (early : Extends tracker first second) (late : Extends tracker second third) :
    Extends tracker first third where
  frame := early.frame.trans late.frame
  known issue known := late.known issue (early.known issue known)
  filled issue present := by
    apply (late.filled issue present).elim
    · intro inSecond
      exact (early.filled issue inSecond).imp id (late.known issue)
    · exact Or.inr

/-- A filled index stays filled. -/
theorem keepsFilled
    (grows : Extends tracker before after) (filled : before.Filled tracker) :
    after.Filled tracker := by
  intro id present
  apply (grows.filled _ present).elim
  · intro earlier
    exact grows.known _ (filled id earlier)
  · intro known
    exact known

theorem enter
    (index : Index) (tracker : Tracker) (records : List Record) :
    Extends tracker index (Session.enter index tracker records) where
  frame := Session.frame_enter index tracker records
  known issue known := by
    by_cases belongs : issue.tracker = tracker
    · simp [Session.record?_enter index records belongs, known]
    · rw [(Session.frame_enter index tracker records).record?_eq belongs]
      exact known
  filled issue present := by
    apply (Session.contains_enter present).imp id
    rintro ⟨belongs, record, member, same⟩
    exact Session.record?_enter_isSome belongs member same

theorem fillGaps
    (index : Index) {issues : List Reference}
    (belong : ∀ issue ∈ issues, issue.tracker = tracker) :
    Extends tracker index (Session.fillGaps index issues) where
  frame := Session.frame_fillGaps index belong
  known _ known := (Keeps.fillGaps index issues).isSome known
  filled issue present := by
    apply (Session.contains_fillGaps present).imp id
    intro isGap
    simp [Session.record?_fillGaps, isGap]

theorem enterTarget
    (index : Index) (issue : Reference) (record : Record) :
    Extends issue.tracker index (Session.enterTarget index issue record) where
  frame := Session.frame_enterTarget index issue record
  known _ known := Session.isSome_record?_enterTarget.mpr (Or.inr known)
  filled _ present :=
    (Session.contains_enterTarget present).imp_right fun same =>
      Session.isSome_record?_enterTarget.mpr (Or.inl same)

theorem attachClones
    (session : Session) (clones : List Record) :
    Extends .bugzilla session.index
      (Session.attachClones session.index session.cloneParents clones) where
  frame := Session.frame_attachClones session clones
  known issue known := by
    rw [Session.isSome_record?_attachClones]
    exact known
  filled issue present := Or.inl (Session.contains_attachClones present)

theorem judge
    {session after : Session}
    (judged : session.IsJudged tracker after) :
    Extends tracker session.index after.index where
  frame := judged.frame
  known issue known := by
    rw [judged.records, Option.isSome_map]
    exact known
  filled issue present := Or.inl (judged.contained issue present)

end Extends

end Issue.Index

/-! ## Upkeeps -/

/-- Which answers of a tracker are fine, which records may stand for an issue in the index, and
which issues may be listed there. -/
structure Upkeep where
  Fine : Tracker → Record → Prop
  Kept : Reference → Record → Prop
  Listed : Reference → Prop
  kept_of_fine : ∀ {tracker record}, Fine tracker record → Kept ⟨tracker, record.id⟩ record
  kept_fallback : ∀ (issue : Reference) (reason : String),
    Kept issue (Record.fallback issue.id reason)
  kept_clones : ∀ {issue record} (clones : List Record), Kept issue record →
    Session.needsClones record = true → (∀ clone ∈ clones, Fine .bugzilla clone) →
      Kept issue { record with clones := clones }
  kept_verdict : ∀ {issue record} (verdict : Bool), Kept issue record → record.isOpen = none →
    Kept issue { record with isOpen := some verdict }
  listed_of_fine : ∀ {tracker record}, Fine tracker record → Listed ⟨tracker, record.id⟩
  listed_of_link : ∀ {issue record next}, Kept issue record →
    record.duplicated? issue.tracker = some next → Listed ⟨issue.tracker, next⟩

/-- The upkeep of nothing. -/
def Upkeep.anything : Upkeep where
  Fine _ _ := True
  Kept _ _ := True
  Listed _ := True
  kept_of_fine _ := trivial
  kept_fallback _ _ := trivial
  kept_clones _ _ _ _ := trivial
  kept_verdict _ _ _ := trivial
  listed_of_fine _ := trivial
  listed_of_link _ _ := trivial

theorem Delivered.congr
    {Fine : Tracker → Record → Prop} {tracker : Tracker} {ids others : List String}
    {record : Record}
    (delivered : Delivered Fine tracker ids record) (same : ∀ id ∈ ids, id ∈ others) :
    Delivered Fine tracker others record := by
  apply delivered.imp id
  rintro ⟨id, inIds, reason, isFallback⟩
  exact ⟨id, same id inIds, reason, isFallback⟩

namespace Upkeep

variable {σ : Type} {sources : IssueSources σ} {upkeep : Upkeep} {tracker : Tracker} {run : Run σ}

/-- A delivered record may stand for the issue that it is about. -/
theorem kept_of_delivered
    {ids : List String} {record : Record}
    (delivered : Delivered upkeep.Fine tracker ids record) :
    upkeep.Kept ⟨tracker, record.id⟩ record := by
  rcases delivered with fine | ⟨id, _, reason, rfl⟩
  · exact upkeep.kept_of_fine fine
  · exact upkeep.kept_fallback ⟨tracker, id⟩ reason

theorem listed_of_delivered
    {ids : List String} {record : Record}
    (delivered : Delivered upkeep.Fine tracker ids record)
    (listed : ∀ id ∈ ids, upkeep.Listed ⟨tracker, id⟩) :
    upkeep.Listed ⟨tracker, record.id⟩ := by
  rcases delivered with fine | ⟨id, inIds, reason, rfl⟩
  · exact upkeep.listed_of_fine fine
  · exact listed id inIds

/-- Whether all that a session knows is as an upkeep has it. -/
structure Well (upkeep : Upkeep) (session : Session) : Prop where
  cached : ∀ issue record, session.cached.find? issue = some record →
    upkeep.Fine issue.tracker record
  remembered : ∀ tracker wanted records, ((tracker, wanted), records) ∈ session.remembered →
    ∀ record ∈ records, Delivered upkeep.Fine tracker wanted record
  kept : ∀ issue record, session.index.record? issue = some record → upkeep.Kept issue record
  listed : ∀ issue, session.index.contains issue = true → upkeep.Listed issue

namespace Well

/-- All is well with a session that has heard nothing yet. -/
theorem of_noData
    {session : Session}
    (nothingCached : session.cached = SortedMap.empty)
    (nothingRemembered : session.remembered = [])
    (noData : ∀ issue, session.index.record? issue = none)
    (listed : ∀ issue, session.index.contains issue = true → upkeep.Listed issue) :
    upkeep.Well session where
  cached issue record known := by
    rw [nothingCached] at known
    cases known
  remembered tracker wanted records known := by
    rw [nothingRemembered] at known
    cases known
  kept issue record known := by
    rw [noData] at known
    cases known
  listed := listed

theorem withIndex
    {index : Index}
    (well : upkeep.Well run.session)
    (kept : ∀ issue record, index.record? issue = some record → upkeep.Kept issue record)
    (listed : ∀ issue, index.contains issue = true → upkeep.Listed issue) :
    upkeep.Well (run.withIndex index).session :=
  ⟨well.cached, well.remembered, kept, listed⟩

theorem remember
    {wanted : List String} {records : List Record}
    (well : upkeep.Well run.session)
    (delivered : ∀ record ∈ records, Delivered upkeep.Fine tracker wanted record) :
    upkeep.Well (run.remember tracker wanted records).session where
  cached := well.cached
  remembered other otherWanted otherRecords member := by
    rcases List.mem_cons.mp member with same | earlier
    · cases same
      exact delivered
    · exact well.remembered other otherWanted otherRecords earlier
  kept := well.kept
  listed := well.listed

/-! ## Steps on the index -/

theorem enter
    {ids : List String} {records : List Record}
    (well : upkeep.Well run.session) (listed : ∀ id ∈ ids, upkeep.Listed ⟨tracker, id⟩)
    (delivered : ∀ record ∈ records, Delivered upkeep.Fine tracker ids record) :
    upkeep.Well (run.withIndex (Session.enter run.session.index tracker records)).session := by
  apply well.withIndex
  · intro issue record known
    by_cases belongs : issue.tracker = tracker
    · rcases Session.record?_enter_cases belongs known with ⟨member, same⟩ | earlier
      · have kept := kept_of_delivered (delivered record member)
        rw [same, ← belongs] at kept
        exact kept
      · exact well.kept issue record earlier
    · rw [(Session.frame_enter run.session.index tracker records).record?_eq belongs] at known
      exact well.kept issue record known
  · intro issue present
    rcases Session.contains_enter present with earlier | ⟨belongs, record, member, same⟩
    · exact well.listed issue earlier
    · have isListed := listed_of_delivered (delivered record member) listed
      rw [same, ← belongs] at isListed
      exact isListed

theorem fillGaps
    {issues : List Reference}
    (well : upkeep.Well run.session)
    (present : ∀ issue ∈ issues, upkeep.Listed issue) :
    upkeep.Well (run.withIndex (Session.fillGaps run.session.index issues)).session := by
  apply well.withIndex
  · intro issue record known
    rw [Session.record?_fillGaps] at known
    by_cases isGap : issue ∈ issues
    · rw [if_pos isGap] at known
      rcases Option.or_eq_some_iff.mp known with earlier | ⟨_, filled⟩
      · exact well.kept issue record earlier
      · rw [← Option.some.inj filled]
        exact upkeep.kept_fallback issue _
    · rw [if_neg isGap] at known
      exact well.kept issue record known
  · intro issue inFilled
    exact (Session.contains_fillGaps inFilled).elim (well.listed issue) (present issue)

theorem enterTarget
    {issue : Reference} {record : Record}
    (well : upkeep.Well run.session) (kept : upkeep.Kept issue record)
    (listed : upkeep.Listed issue) :
    upkeep.Well (run.withIndex (Session.enterTarget run.session.index issue record)).session := by
  apply well.withIndex
  · intro other otherRecord known
    rcases Session.record?_enterTarget_eq_some.mp known with ⟨rfl, rfl⟩ | ⟨_, earlier⟩
    · exact kept
    · exact well.kept other otherRecord earlier
  · intro other present
    rcases Session.contains_enterTarget present with earlier | same
    · exact well.listed other earlier
    · exact same ▸ listed

theorem attachClones
    {ids : List String} {clones : List Record}
    (well : upkeep.Well run.session)
    (delivered : ∀ clone ∈ clones, Delivered upkeep.Fine .bugzilla ids clone) :
    upkeep.Well
      (run.withIndex
        (Session.attachClones run.session.index run.session.cloneParents clones)).session := by
  apply well.withIndex
  · intro issue record known
    rw [Session.record?_attachClones, Option.map_eq_some_iff] at known
    obtain ⟨before, earlier, rfl⟩ := known
    have kept := well.kept issue before earlier
    rw [Session.attached]
    by_cases needed : issue.tracker = .bugzilla ∧ Session.needsClones before = true
    · rw [if_pos needed]
      apply upkeep.kept_clones _ kept needed.2
      intro clone member
      obtain ⟨inClones, condition⟩ := List.mem_filter.mp member
      rcases delivered clone inClones with fine | ⟨id, _, reason, rfl⟩
      · exact fine
      · -- fallback records are left out
        simp [Record.isFallback_fallback] at condition
    · rw [if_neg needed]
      exact kept
  · intro issue present
    exact well.listed issue (Session.contains_attachClones present)

theorem judge
    {session : Session}
    (well : upkeep.Well run.session) (judged : run.session.IsJudged tracker session) :
    upkeep.Well session := by
  rw [judged.same]
  apply well.withIndex
  · intro issue record known
    rw [judged.records, Option.map_eq_some_iff] at known
    obtain ⟨before, earlier, rfl⟩ := known
    have kept := well.kept issue before earlier
    rw [Session.judged]
    by_cases condition : issue.tracker = tracker ∧ before.isOpen = none
    · obtain ⟨belongs, noVerdict⟩ := condition
      have isUnjudged := Session.mem_unjudged_iff.mpr ⟨belongs, before, earlier, noVerdict⟩
      obtain ⟨verdict, status⟩ := judged.succeeded issue isUnjudged
      rw [if_pos ⟨belongs, noVerdict⟩, status]
      exact upkeep.kept_verdict verdict kept noVerdict
    · rw [if_neg condition]
      exact kept
  · intro issue present
    exact well.listed issue (judged.contained issue present)

end Well

/-! ## Fetching -/

theorem fetchBatch_ensures
    (upkeep : Upkeep) (sources : IssueSources σ) (tracker : Tracker) (ids : List String)
    (run : Run σ) :
    World.Ensures sources upkeep.Fine run.world (run.fetchBatch sources tracker ids).2.world
      (upkeep.Well run.session)
      ((∀ record ∈ (run.fetchBatch sources tracker ids).1,
          Delivered upkeep.Fine tracker ids record) ∧
        upkeep.Well (run.fetchBatch sources tracker ids).2.session) := by
  have inIds : ∀ id ∈ SortedMap.distinct ids, id ∈ ids := fun id member =>
    (SortedMap.mem_distinct ids id).mp member
  -- the records from the cache are fine, and so is what the tracker is asked for
  have stocked : upkeep.Well run.session →
      ∀ record ∈ run.stocked tracker (SortedMap.distinct ids),
        Delivered upkeep.Fine tracker (SortedMap.distinct ids) record := by
    intro well record member
    obtain ⟨id, _, found⟩ := List.mem_filterMap.mp member
    exact Or.inl (well.cached _ record found)
  have replies := Run.fetchBatch_replies sources tracker ids run
  revert replies
  generalize run.fetchBatch sources tracker ids = result
  intro replies
  cases replies with
  | nothing noneWanted => exact .refl run.world fun well => ⟨by simp, well⟩
  | again earlier =>
    apply World.Ensures.of_leads (.note run.world _)
    intro well
    refine ⟨fun record inRecords => ?_, well⟩
    exact (well.remembered _ _ _ earlier record inRecords).congr inIds
  | fromStock noneMissing =>
    apply World.Ensures.refl run.world
    intro well
    refine ⟨fun record member => ?_, well.remember (stocked well)⟩
    exact (stocked well record member).congr inIds
  | fromTracker someMissing sameSession asked =>
    rename_i fetched after
    have remote := fetchRemote_ensures sources upkeep.Fine tracker
      (run.missing tracker (SortedMap.distinct ids)) run
    rw [asked] at remote
    apply remote.imp fun _ => trivial
    intro well fine
    have delivered : ∀ record ∈ run.stocked tracker (SortedMap.distinct ids) ++ fetched,
        Delivered upkeep.Fine tracker (SortedMap.distinct ids) record := by
      intro record member
      rcases List.mem_append.mp member with fromCache | fromTracker
      · exact stocked well record fromCache
      · exact (fine record fromTracker).congr fun id isAsked => (List.mem_filter.mp isAsked).1
    have afterWell : upkeep.Well after.session := sameSession ▸ well
    exact ⟨fun record member => (delivered record member).congr inIds,
      afterWell.remember delivered⟩

theorem fetchSingle_ensures
    (upkeep : Upkeep) (sources : IssueSources σ) (issue : Reference) (run : Run σ) :
    World.Ensures sources upkeep.Fine run.world (run.fetchSingle sources issue).2.world
      (upkeep.Well run.session)
      (upkeep.Kept issue (run.fetchSingle sources issue).1 ∧
        upkeep.Well (run.fetchSingle sources issue).2.session) := by
  apply (upkeep.fetchBatch_ensures sources issue.tracker [issue.id] run).imp id
  rintro - ⟨delivered, well⟩
  refine ⟨?_, well⟩
  simp only [Run.fetchSingle]
  cases found : (run.fetchBatch sources issue.tracker [issue.id]).1.find?
      fun record => record.id == issue.id with
  | none => exact upkeep.kept_fallback issue _
  | some record =>
    have same : record.id = issue.id := by simpa using List.find?_some found
    have kept := kept_of_delivered (delivered record (List.mem_of_find?_eq_some found))
    rw [same] at kept
    exact kept

/-! ## The course of resolving -/

/-- What a part of resolving for one tracker does: it extends the index in any case, and keeps all
well, given a condition, while the answers are fine. -/
structure Course (upkeep : Upkeep) (sources : IssueSources σ) (tracker : Tracker) (given : Prop)
    (before after : Run σ) : Prop where
  grows : Index.Extends tracker before.session.index after.session.index
  ensures : World.Ensures sources upkeep.Fine before.world after.world
    (upkeep.Well before.session ∧ given) (upkeep.Well after.session)

namespace Course

variable {given : Prop} {before after : Run σ}

theorem refl
    (run : Run σ) :
    upkeep.Course sources tracker given run run :=
  ⟨.refl _, .refl _ And.left⟩

/-- A part that follows may rely on what holds after the first. -/
theorem trans
    {first second third : Run σ} {between : Prop}
    (early : upkeep.Course sources tracker given first second)
    (follows : upkeep.Well second.session → given → between)
    (late : upkeep.Course sources tracker between second third) :
    upkeep.Course sources tracker given first third where
  grows := early.grows.trans late.grows
  ensures :=
    (early.ensures.imp id fun isGiven well => ⟨well, follows well isGiven.2⟩).trans late.ensures

theorem note
    (run : Run σ) (notice : Notice) :
    upkeep.Course sources tracker given run (run.note notice) :=
  ⟨.refl _, .of_leads (.note run.world notice) And.left⟩

end Course

theorem ensureTarget_course
    (upkeep : Upkeep) (sources : IssueSources σ) (issue : Reference) (run : Run σ) :
    upkeep.Course sources issue.tracker (upkeep.Listed issue) run
      (run.ensureTarget sources issue) := by
  rcases Run.ensureTarget_cases sources issue run with
    ⟨_, same⟩ | ⟨record, after, _, fetched, sameIndex, same⟩
  · rw [same]
    exact .refl run
  · rw [same]
    have ensures := upkeep.fetchSingle_ensures sources issue (run.note (.fetchingDuplicate issue))
    rw [fetched] at ensures
    have entered : upkeep.Course sources issue.tracker (upkeep.Listed issue)
        (run.note (.fetchingDuplicate issue))
        (after.withIndex (Session.enterTarget run.session.index issue record)) := by
      refine ⟨.enterTarget run.session.index issue record, ?_⟩
      rw [← sameIndex]
      exact ensures.imp And.left fun isGiven result => result.2.enterTarget result.1 isGiven.2
    exact (Course.note run _).trans (fun _ => id) entered

theorem fetchTargets_course
    (upkeep : Upkeep) (sources : IssueSources σ) (tracker : Tracker) (run : Run σ) :
    upkeep.Course sources tracker True run (run.fetchTargets sources tracker) := by
  refine Run.fetchTargets_induction sources tracker run
    (motive := upkeep.Course sources tracker True run) (.refl run) ?_
  intro before source id leads course
  refine course.trans (fun well _ => ?_) (upkeep.ensureTarget_course sources ⟨tracker, id⟩ before)
  obtain ⟨record, known, duplicated⟩ := Index.record?_of_link? leads
  exact upkeep.listed_of_link (well.kept ⟨tracker, source⟩ record known) duplicated

theorem fetchClones_course
    (upkeep : Upkeep) (sources : IssueSources σ) (run : Run σ) :
    upkeep.Course sources .bugzilla True run (run.fetchClones sources) := by
  rcases Run.fetchClones_cases sources run with ⟨_, same⟩ | ⟨clones, after, fetched, sameIndex, same⟩
  · rw [same]
    exact .refl run
  · rw [same]
    have ensures := upkeep.fetchBatch_ensures sources .bugzilla
      (run.session.cloneParents.flatMap (·.2)) run
    rw [fetched] at ensures
    have sameParents : run.session.cloneParents = after.session.cloneParents := by
      simp only [Session.cloneParents, sameIndex]
    refine ⟨.attachClones run.session clones, ?_⟩
    rw [← sameIndex]
    simp only [sameParents] at ensures ⊢
    exact ensures.imp And.left fun _ result => result.2.attachClones result.1

/-- Asking for the pending issues of a tracker and filling the gaps that are left. -/
theorem begin_course
    (upkeep : Upkeep) (sources : IssueSources σ) (tracker : Tracker) (pending : List Reference)
    (run : Run σ)
    (isPending : ∀ issue ∈ pending, issue.tracker = tracker ∧
      run.session.index.contains issue = true) :
    upkeep.Course sources tracker True run
      ((run.fetchBatch sources tracker (pending.map Reference.id)).2.withIndex
        (Session.fillGaps
          (Session.enter
            (run.fetchBatch sources tracker (pending.map Reference.id)).2.session.index tracker
            (run.fetchBatch sources tracker (pending.map Reference.id)).1)
          pending)) := by
  have fetched := upkeep.fetchBatch_ensures sources tracker (pending.map Reference.id) run
  have sameIndex := Run.fetchBatch_index sources tracker (pending.map Reference.id) run
  revert fetched sameIndex
  generalize run.fetchBatch sources tracker (pending.map Reference.id) = result
  obtain ⟨records, middle⟩ := result
  intro fetched sameIndex
  replace sameIndex : middle.session.index = run.session.index := sameIndex
  have grows := (Index.Extends.enter middle.session.index tracker records).trans
    (.fillGaps _ fun issue member => (isPending issue member).1)
  refine ⟨sameIndex ▸ grows, fetched.imp And.left fun isGiven result => ?_⟩
  have listed : ∀ issue ∈ pending, upkeep.Listed issue := fun issue member =>
    isGiven.1.listed issue (isPending issue member).2
  have askedListed : ∀ id ∈ pending.map Reference.id, upkeep.Listed ⟨tracker, id⟩ := by
    intro id member
    obtain ⟨issue, inPending, rfl⟩ := List.mem_map.mp member
    have isListed := listed issue inPending
    rw [← (isPending issue inPending).1]
    exact isListed
  have entered := result.2.enter askedListed result.1
  exact entered.fillGaps listed

theorem gather_course
    (upkeep : Upkeep) (sources : IssueSources σ) (tracker : Tracker) (run : Run σ) :
    upkeep.Course sources tracker True run
        (run.gather sources tracker (run.session.pending tracker)) ∧
      (run.gather sources tracker (run.session.pending tracker)).session.index.Filled tracker := by
  have noted : upkeep.Course sources tracker True run
      (run.note (.resolving tracker (run.session.pending tracker).length)) :=
    .note run _
  have begun := upkeep.begin_course sources tracker (run.session.pending tracker)
    (run.note (.resolving tracker (run.session.pending tracker).length)) <| by
      intro issue member
      obtain ⟨belongs, present, _⟩ := Session.mem_pending_iff.mp member
      exact ⟨belongs, present⟩
  have sameIndex := Run.fetchBatch_index sources tracker
    ((run.session.pending tracker).map Reference.id)
    (run.note (.resolving tracker (run.session.pending tracker).length))
  simp only [Run.gather]
  revert begun sameIndex
  generalize (run.note (.resolving tracker (run.session.pending tracker).length)).fetchBatch
    sources tracker ((run.session.pending tracker).map Reference.id) = result
  obtain ⟨records, middle⟩ := result
  intro begun sameIndex
  replace sameIndex : middle.session.index = run.session.index := sameIndex
  have filled : (Session.fillGaps (Session.enter middle.session.index tracker records)
      (run.session.pending tracker)).Filled tracker := by
    intro id present
    rw [Session.record?_fillGaps]
    by_cases isPending : (⟨tracker, id⟩ : Reference) ∈ run.session.pending tracker
    · simp [isPending]
    · -- what is not pending had a record already, or has been entered just now
      rw [if_neg isPending]
      have inEntered := (Session.contains_fillGaps present).resolve_right isPending
      have entered := Index.Extends.enter middle.session.index tracker records
      apply (entered.filled _ inEntered).elim
      · intro earlier
        apply entered.known
        rw [sameIndex] at earlier ⊢
        rw [Option.isSome_iff_ne_none]
        intro unknown
        exact isPending (Session.mem_pending_iff.mpr ⟨rfl, earlier, unknown⟩)
      · intro known
        exact known
  have started := noted.trans (fun _ => id) begun
  have targets := upkeep.fetchTargets_course sources tracker
    (middle.withIndex (Session.fillGaps (Session.enter middle.session.index tracker records)
      (run.session.pending tracker)))
  have chased := started.trans (fun _ => id) targets
  have chasedFilled := targets.grows.keepsFilled filled
  cases tracker with
  | jira => exact ⟨chased, chasedFilled⟩
  | bugzilla =>
    have clones := upkeep.fetchClones_course sources
      (Run.fetchTargets sources .bugzilla
        (middle.withIndex (Session.fillGaps (Session.enter middle.session.index .bugzilla records)
          (run.session.pending .bugzilla))))
    exact ⟨chased.trans (fun _ => id) clones, clones.grows.keepsFilled chasedFilled⟩

/-! ## Resolving -/

/-- What a tracker's part of resolving does, be it a success or a failure. -/
theorem resolveTracker_course
    (upkeep : Upkeep) (sources : IssueSources σ) (tracker : Tracker) (run : Run σ) :
    upkeep.Course sources tracker True run (run.resolveTracker sources tracker).2 := by
  have gathered := (upkeep.gather_course sources tracker run).1
  rcases Run.resolveTracker_cases sources tracker run with
    ⟨_, same⟩ | ⟨_, _, same⟩ | ⟨session, judging, same⟩
  · rw [same]
    exact .refl run
  · rw [same]
    exact gathered
  · rw [same]
    have judged := Session.isJudged_of_judge judging
    exact gathered.trans (fun _ => id)
      ⟨.judge judged, .refl _ fun isGiven => isGiven.1.judge judged⟩

/-- What a part of a run does: it changes no use, and keeps all well while the answers are fine. -/
structure Passes (upkeep : Upkeep) (sources : IssueSources σ) (before after : Run σ) : Prop where
  usages : ∀ issue, after.session.index.usages issue = before.session.index.usages issue
  ensures : World.Ensures sources upkeep.Fine before.world after.world (upkeep.Well before.session)
    (upkeep.Well after.session)

namespace Passes

theorem refl
    (run : Run σ) :
    upkeep.Passes sources run run :=
  ⟨fun _ => rfl, .refl _ id⟩

theorem trans
    {first second third : Run σ}
    (early : upkeep.Passes sources first second) (late : upkeep.Passes sources second third) :
    upkeep.Passes sources first third where
  usages issue := (late.usages issue).trans (early.usages issue)
  ensures := early.ensures.trans late.ensures

theorem of_course
    {tracker : Tracker} {before after : Run σ}
    (course : upkeep.Course sources tracker True before after) :
    upkeep.Passes sources before after where
  usages := course.grows.frame.usages
  ensures := course.ensures.imp (fun well => ⟨well, trivial⟩) fun _ well => well

end Passes

/-- What is well with a run stays so when issues are resolved. -/
theorem resolveTrackers_passes
    (upkeep : Upkeep) (sources : IssueSources σ) (trackers : List Tracker) (run : Run σ) :
    upkeep.Passes sources run (Run.resolveTrackers sources trackers run).2 := by
  induction trackers generalizing run with
  | nil => exact .refl run
  | cons tracker trackers inductionHypothesis =>
    have first : upkeep.Passes sources run (run.resolveTracker sources tracker).2 :=
      .of_course (upkeep.resolveTracker_course sources tracker run)
    rcases Run.resolveTrackers_cases sources tracker trackers run with
      ⟨middle, step, same⟩ | ⟨_, middle, step, same⟩
    · rw [step] at first
      rw [same]
      exact first.trans (inductionHypothesis middle)
    · rw [step] at first
      rw [same]
      exact first

theorem resolve_ensures
    (upkeep : Upkeep) (sources : IssueSources σ) (run : Run σ) :
    World.Ensures sources upkeep.Fine run.world (run.resolve sources).2.world
      (upkeep.Well run.session) (upkeep.Well (run.resolve sources).2.session) :=
  (upkeep.resolveTrackers_passes sources Tracker.all run).ensures

end Upkeep

end TestGate
