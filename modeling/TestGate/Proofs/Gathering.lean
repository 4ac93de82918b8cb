import TestGate.Proofs.Searches

/-!
What gathering brings about. Starting from a settled index it fetches the pending issues of a
tracker, then follows all duplicates, then attaches clones. Main statement: afterwards the new
records are ready to be judged, and every link of the tracker leads to a record unless some record
has too many links to be judged.
-/

namespace TestGate

open Issue

variable {σ : Type} {sources : IssueSources σ}

namespace Discipline

/-- Whether all is well between two operations: the index is settled but for entries without a
record. -/
structure Sound (discipline : Discipline sources) (run : Run σ) : Prop where
  feeds : discipline.Feeds run
  listed : ∀ issue, run.session.index.contains issue = true → discipline.Listed issue
  held : ∀ tracker, run.session.index.Throughout tracker discipline.Held
  settled : ∀ tracker, run.session.index.Settled tracker

/-- A stage of gathering for a tracker, which began with the index `start`. -/
structure Stage
    (discipline : Discipline sources) (tracker : Tracker) (start : Index) (run : Run σ) :
    Prop where
  feeds : discipline.Feeds run
  frame : Index.Frame tracker start run.session.index
  listed : ∀ issue, run.session.index.contains issue = true → discipline.Listed issue
  keeps : start.Keeps run.session.index
  held : run.session.index.Throughout tracker discipline.Held
  reached : ∀ id, (run.session.index.record? ⟨tracker, id⟩).isSome = true →
    ∃ origin, start.contains ⟨tracker, origin⟩ = true ∧
      Reaches (run.session.index.link? tracker) origin id
  filled : run.session.index.Filled tracker

/-- The stage at which new records are as they were delivered. -/
structure Underway
    (discipline : Discipline sources) (tracker : Tracker) (start : Index) (run : Run σ) : Prop
    extends discipline.Stage tracker start run where
  fresh : ∀ id record, start.record? ⟨tracker, id⟩ = none →
    run.session.index.record? ⟨tracker, id⟩ = some record → discipline.Good ⟨tracker, id⟩ record

namespace Underway

variable {discipline : Discipline sources} {tracker : Tracker} {start : Index} {run : Run σ}

/-- Where a link leads can be reached, too. -/
theorem reached_link
    {id next : String}
    (underway : discipline.Underway tracker start run)
    (leads : run.session.index.link? tracker id = some next) :
    ∃ origin, start.contains ⟨tracker, origin⟩ = true ∧
      Reaches (run.session.index.link? tracker) origin next := by
  obtain ⟨record, known, _⟩ := Index.record?_of_link? leads
  obtain ⟨origin, present, way⟩ := underway.reached id (by rw [known]; rfl)
  exact ⟨origin, present, way.trans (.step leads (.here next))⟩

theorem listed_link
    {id next : String}
    (underway : discipline.Underway tracker start run)
    (leads : run.session.index.link? tracker id = some next) :
    discipline.Listed ⟨tracker, next⟩ := by
  obtain ⟨record, known, duplicated⟩ := Index.record?_of_link? leads
  have held := underway.held id record known
  exact discipline.listed_of_link held duplicated

/-! ## One target -/

/-- Entering the record of an issue that a link leads to. -/
theorem enterTarget
    {id : String} {record : Record} {after : Run σ}
    (underway : discipline.Underway tracker start run)
    (feeds : discipline.Feeds after)
    (unknown : run.session.index.record? ⟨tracker, id⟩ = none)
    (good : discipline.Good ⟨tracker, id⟩ record) (listed : discipline.Listed ⟨tracker, id⟩)
    (reachable : ∃ origin, start.contains ⟨tracker, origin⟩ = true ∧
      Reaches (run.session.index.link? tracker) origin id) :
    discipline.Underway tracker start
      (after.withIndex (Session.enterTarget run.session.index ⟨tracker, id⟩ record)) := by
  have keeps :
      run.session.index.Keeps (Session.enterTarget run.session.index ⟨tracker, id⟩ record) :=
    .enterTarget unknown record
  have isGood : ∀ other otherRecord, run.session.index.record? ⟨tracker, other⟩ = none →
      (Session.enterTarget run.session.index ⟨tracker, id⟩ record).record? ⟨tracker, other⟩ =
        some otherRecord → discipline.Good ⟨tracker, other⟩ otherRecord := by
    intro other otherRecord absent known
    rcases Session.record?_enterTarget_eq_some.mp known with ⟨same, rfl⟩ | ⟨_, before⟩
    · exact same ▸ good
    · rw [absent] at before
      cases before
  have fresh : (Session.enterTarget run.session.index ⟨tracker, id⟩ record).Throughout tracker
      fun issue found => start.record? issue = none → discipline.Good issue found :=
    keeps.throughout
      (fun other found known absent => underway.fresh other found absent known)
      (fun other found unknown known _ => isGood other found unknown known)
  exact {
    feeds := feeds.withIndex _
    frame := underway.frame.trans <|
      Session.frame_enterTarget run.session.index ⟨tracker, id⟩ record
    listed := by
      intro other present
      rcases Session.contains_enterTarget present with before | rfl
      · exact underway.listed other before
      · exact listed
    keeps := underway.keeps.trans keeps
    held := keeps.throughout underway.held fun other found unknown known =>
      discipline.held_of_good (isGood other found unknown known)
    fresh := fun other found absent known => fresh other found known absent
    reached := by
      intro other known
      rcases Session.isSome_record?_enterTarget.mp known with same | before
      · obtain rfl : other = id := congrArg Reference.id same
        obtain ⟨origin, present, way⟩ := reachable
        exact ⟨origin, present, keeps.reaches way⟩
      · obtain ⟨origin, present, way⟩ := underway.reached other before
        exact ⟨origin, present, keeps.reaches way⟩
    filled := by
      intro other present
      refine Session.isSome_record?_enterTarget.mpr ?_
      exact (Session.contains_enterTarget present).symm.imp_right (underway.filled other) }

theorem ensureTarget
    {source id : String}
    (underway : discipline.Underway tracker start run)
    (leads : run.session.index.link? tracker source = some id) :
    discipline.Underway tracker start (run.ensureTarget sources ⟨tracker, id⟩) := by
  rcases Run.ensureTarget_cases sources ⟨tracker, id⟩ run with
    ⟨_, same⟩ | ⟨record, after, unknown, fetched, _, same⟩
  · rwa [same]
  · rw [same]
    have listed := underway.listed_link leads
    have noted := underway.feeds.note (.fetchingDuplicate ⟨tracker, id⟩)
    obtain ⟨good, feeds⟩ := noted.fetchSingle (discipline.askable_of_listed listed)
    rw [fetched] at good feeds
    exact underway.enterTarget feeds unknown good listed (underway.reached_link leads)

theorem fetchTargets
    (underway : discipline.Underway tracker start run) :
    discipline.Underway tracker start (run.fetchTargets sources tracker) :=
  Run.fetchTargets_induction sources tracker run underway fun _ _ _ leads stage =>
    stage.ensureTarget leads

end Underway

/-- Whether some issue of a tracker has more links than can be followed. -/
def TooLong (index : Index) (tracker : Tracker) : Prop :=
  ∃ source, CanStep (index.link? tracker) (Index.longestChain + 1) source

/-- A gap that a search leaves is the end of a chain that is too long. -/
theorem closed_or_tooLong
    {index : Index} {tracker : Tracker}
    (gapless : index.Gapless tracker) :
    index.Closed tracker ∨ TooLong index tracker := by
  by_cases long : TooLong index tracker
  · exact Or.inr long
  · refine Or.inl fun id next leads => ?_
    refine (gapless id next leads).resolve_right fun atLimit => long ?_
    obtain ⟨source, reached⟩ := atLimit
    exact ⟨source, .of_stepsTo? reached leads⟩

/-! ## The beginning and the end -/

section Entering

variable {Good : Reference → Record → Prop} {tracker : Tracker} {session : Session}
  {records : List Record}

theorem pending_of_delivery
    (delivery : Delivery Good tracker ((session.pending tracker).map Reference.id) records)
    {record : Record} (member : record ∈ records) :
    (⟨tracker, record.id⟩ : Reference) ∈ session.pending tracker := by
  obtain ⟨issue, isPending, same⟩ := List.mem_map.mp (delivery.asked record member)
  obtain ⟨rfl, _⟩ := Session.mem_pending_iff.mp isPending
  rw [← same]
  exact isPending

theorem isSome_record?_enter_of_delivery
    (delivery : Delivery Good tracker ((session.pending tracker).map Reference.id) records)
    {issue : Reference} (isPending : issue ∈ session.pending tracker) :
    ((Session.enter session.index tracker records).record? issue).isSome = true := by
  obtain ⟨record, member, same⟩ := delivery.complete issue.id (List.mem_map_of_mem isPending)
  exact Session.record?_enter_isSome (Session.mem_pending_iff.mp isPending).1 member same

/-- The records that are delivered leave no gap to be filled. -/
theorem record?_fillGaps_of_delivery
    (delivery : Delivery Good tracker ((session.pending tracker).map Reference.id) records)
    (issue : Reference) :
    (Session.fillGaps (Session.enter session.index tracker records)
        (session.pending tracker)).record? issue =
      (Session.enter session.index tracker records).record? issue := by
  rw [Session.record?_fillGaps]
  split
  · rename_i isPending
    obtain ⟨record, known⟩ :=
      Option.isSome_iff_exists.mp (isSome_record?_enter_of_delivery delivery isPending)
    rw [known, Option.some_or]
  · rfl

theorem contains_of_delivery
    (delivery : Delivery Good tracker ((session.pending tracker).map Reference.id) records)
    {issue : Reference}
    (present : (Session.fillGaps (Session.enter session.index tracker records)
      (session.pending tracker)).contains issue = true) :
    session.index.contains issue = true := by
  rcases Session.contains_fillGaps present with inEntered | isPending
  · rcases Session.contains_enter inEntered with before | ⟨belongs, record, member, same⟩
    · exact before
    · have isPending := pending_of_delivery delivery member
      rw [same, ← belongs] at isPending
      exact (Session.mem_pending_iff.mp isPending).2.1
  · exact (Session.mem_pending_iff.mp isPending).2.1

theorem good_of_delivery
    (delivery : Delivery Good tracker ((session.pending tracker).map Reference.id) records)
    {id : String} {record : Record}
    (unknown : session.index.record? ⟨tracker, id⟩ = none)
    (known : (Session.fillGaps (Session.enter session.index tracker records)
      (session.pending tracker)).record? ⟨tracker, id⟩ = some record) :
    Good ⟨tracker, id⟩ record := by
  rw [record?_fillGaps_of_delivery delivery] at known
  rcases Session.record?_enter_cases rfl known with ⟨member, same⟩ | before
  · have good := delivery.good record member
    rwa [same] at good
  · rw [unknown] at before
    cases before

/-- Only issues without a record are pending, so entering what is delivered replaces none. -/
theorem keeps_of_delivery
    (delivery : Delivery Good tracker ((session.pending tracker).map Reference.id) records) :
    session.index.Keeps
      (Session.fillGaps (Session.enter session.index tracker records)
        (session.pending tracker)) := by
  intro issue record known
  rw [record?_fillGaps_of_delivery delivery]
  by_cases belongs : issue.tracker = tracker
  · rw [Session.record?_enter_of_not_mem belongs, known]
    rintro other member same
    have isPending := pending_of_delivery delivery member
    rw [same, ← belongs] at isPending
    rw [(Session.mem_pending_iff.mp isPending).2.2] at known
    cases known
  · rw [(Session.frame_enter _ tracker records).record?_eq belongs, known]

end Entering

/-- The records that a tracker delivers for the pending issues. -/
theorem Sound.begin
    {discipline : Discipline sources} {tracker : Tracker} {run after : Run σ}
    {records : List Record}
    (sound : discipline.Sound run) (feeds : discipline.Feeds after)
    (delivery : Delivery discipline.Good tracker
      ((run.session.pending tracker).map Reference.id) records) :
    discipline.Underway tracker run.session.index
      (after.withIndex <|
        Session.fillGaps (Session.enter run.session.index tracker records)
          (run.session.pending tracker)) := by
  have keeps := keeps_of_delivery delivery
  exact {
    feeds := feeds.withIndex _
    frame := by
      refine (Session.frame_enter _ tracker records).trans (Session.frame_fillGaps _ ?_)
      exact fun issue isPending => (Session.mem_pending_iff.mp isPending).1
    listed := fun issue present => sound.listed issue (contains_of_delivery delivery present)
    keeps := keeps
    held := keeps.throughout (sound.held tracker) fun _ _ unknown known =>
      discipline.held_of_good (good_of_delivery delivery unknown known)
    reached := by
      intro id isSome
      obtain ⟨record, known⟩ := Option.isSome_iff_exists.mp isSome
      exact ⟨id, contains_of_delivery delivery (Index.contains_of_record? known), .here id⟩
    filled := by
      intro id present
      cases before : run.session.index.record? ⟨tracker, id⟩ with
      | none =>
        have isPending := Session.mem_pending_iff.mpr
          ⟨rfl, contains_of_delivery delivery present, before⟩
        exact (congrArg Option.isSome (record?_fillGaps_of_delivery delivery _)).trans
          (isSome_record?_enter_of_delivery delivery isPending)
      | some earlier => exact keeps.isSome (by rw [before]; rfl)
    fresh := fun _ _ unknown known => good_of_delivery delivery unknown known }

/-- The stage at which new records are ready, and the chains of the tracker are fetched as far as
they can be judged. -/
structure Gathered
    (discipline : Discipline sources) (tracker : Tracker) (start : Index) (run : Run σ) : Prop
    extends discipline.Stage tracker start run where
  ready : ∀ id record, start.record? ⟨tracker, id⟩ = none →
    run.session.index.record? ⟨tracker, id⟩ = some record → discipline.Ready ⟨tracker, id⟩ record
  complete : run.session.index.Closed tracker ∨ TooLong run.session.index tracker

/-- Without a need for clones new records are ready as they were delivered. -/
theorem Underway.gathered
    {discipline : Discipline sources} {tracker : Tracker} {start : Index} {run : Run σ}
    (underway : discipline.Underway tracker start run)
    (gapless : run.session.index.Gapless tracker)
    (noNeed : ∀ id record, run.session.index.record? ⟨tracker, id⟩ = some record →
      ¬ (tracker = .bugzilla ∧ Session.needsClones record = true)) :
    discipline.Gathered tracker start run where
  toStage := underway.toStage
  ready id record unknown known :=
    discipline.ready_of_good (underway.fresh id record unknown known) (noNeed id record known)
  complete := closed_or_tooLong gapless

/-- Attaching delivered clones makes new records ready. -/
theorem Underway.attachClones
    {discipline : Discipline sources} {start : Index} {run after : Run σ} {clones : List Record}
    (underway : discipline.Underway .bugzilla start run)
    (settled : start.Settled .bugzilla)
    (gapless : (Session.attachClones run.session.index run.session.cloneParents clones).Gapless
      .bugzilla)
    (feeds : discipline.Feeds after)
    (delivery :
      Delivery discipline.Good .bugzilla (run.session.cloneParents.flatMap (·.2)) clones) :
    discipline.Gathered .bugzilla start
      (after.withIndex <|
        Session.attachClones run.session.index run.session.cloneParents clones) := by
  have records : ∀ issue,
      (Session.attachClones run.session.index run.session.cloneParents clones).record? issue =
        (run.session.index.record? issue).map (Session.attached clones issue) :=
    Session.record?_attachClones run.session clones
  have sameLinks := Session.link?_attachClones run.session clones .bugzilla
  have sameKnown := Session.isSome_record?_attachClones run.session clones
  have keeps : start.Keeps
      (Session.attachClones run.session.index run.session.cloneParents clones) := by
    intro issue record known
    rw [records, underway.keeps issue record known, Option.map_some, Session.attached, if_neg]
    rintro ⟨belongs, needed⟩
    -- what was there before has a verdict and needs no clones
    obtain ⟨judged, _⟩ := settled issue.id record (belongs ▸ known)
    rw [Option.isSome_iff_exists] at judged
    obtain ⟨verdict, isOpen⟩ := judged
    simp [Session.needsClones, isOpen] at needed
  have ready : ∀ id record, start.record? ⟨.bugzilla, id⟩ = none →
      (Session.attachClones run.session.index run.session.cloneParents clones).record?
        ⟨.bugzilla, id⟩ = some record → discipline.Ready ⟨.bugzilla, id⟩ record := by
    intro id record unknown known
    rw [records, Option.map_eq_some_iff] at known
    obtain ⟨raw, rawKnown, rfl⟩ := known
    have good := underway.fresh id raw unknown rawKnown
    rw [Session.attached]
    split
    · rename_i needs
      refine discipline.ready_of_clones good rfl needs.2 delivery fun clone member => ?_
      exact List.mem_flatMap.mpr
        ⟨(⟨.bugzilla, id⟩, raw.cloneIds),
          Session.mem_cloneParents_iff.mpr ⟨rfl, raw, rawKnown, needs.2, rfl⟩, member⟩
    · rename_i noNeed
      exact discipline.ready_of_good good noNeed
  exact {
    feeds := feeds.withIndex _
    frame := underway.frame.trans (Session.frame_attachClones run.session clones)
    listed := fun issue present =>
      underway.listed issue (Session.contains_attachClones present)
    keeps := keeps
    held := keeps.throughout
      (fun id record known => underway.held id record (underway.keeps _ _ known))
      (fun id record unknown known => discipline.held_of_ready (ready id record unknown known))
    reached := by
      intro id known
      rw [Run.withIndex, sameLinks]
      exact underway.reached id ((sameKnown _).symm.trans known)
    filled := fun id present =>
      (sameKnown _).trans (underway.filled id (Session.contains_attachClones present))
    ready := ready
    complete := closed_or_tooLong gapless }

theorem Underway.fetchClones
    {discipline : Discipline sources} {start : Index} {run : Run σ}
    (underway : discipline.Underway .bugzilla start run)
    (settled : start.Settled .bugzilla)
    (gapless : (run.fetchClones sources).session.index.Gapless .bugzilla) :
    discipline.Gathered .bugzilla start (run.fetchClones sources) := by
  rcases Run.fetchClones_cases sources run with ⟨nobody, same⟩ | ⟨clones, after, fetched, _, same⟩
  · rw [same] at gapless ⊢
    refine underway.gathered gapless fun id record known needs => ?_
    have member := Session.mem_cloneParents_iff.mpr ⟨rfl, record, known, needs.2, rfl⟩
    rw [nobody] at member
    cases member
  · rw [same] at gapless ⊢
    have askable : ∀ id ∈ run.session.cloneParents.flatMap (·.2),
        discipline.Askable ⟨.bugzilla, id⟩ := by
      intro id member
      obtain ⟨⟨⟨other, source⟩, ids⟩, isParent, inIds⟩ := List.mem_flatMap.mp member
      obtain ⟨rfl, record, known, needed, rfl⟩ := Session.mem_cloneParents_iff.mp isParent
      exact discipline.askable_clone (underway.held source record known) rfl needed inIds
    obtain ⟨delivery, feeds⟩ := underway.feeds.fetchBatch askable
    rw [fetched] at delivery feeds
    exact underway.attachClones settled gapless feeds delivery

/-- The end of gathering. -/
theorem Sound.gather
    {discipline : Discipline sources} {run : Run σ}
    (sound : discipline.Sound run) (tracker : Tracker) :
    discipline.Gathered tracker run.session.index
      (run.gather sources tracker (run.session.pending tracker)) := by
  have noted := sound.feeds.note (.resolving tracker (run.session.pending tracker).length)
  have askable : ∀ id ∈ (run.session.pending tracker).map Reference.id,
      discipline.Askable ⟨tracker, id⟩ := by
    intro id member
    obtain ⟨issue, isPending, rfl⟩ := List.mem_map.mp member
    obtain ⟨rfl, present, _⟩ := Session.mem_pending_iff.mp isPending
    exact discipline.askable_of_listed (sound.listed issue present)
  obtain ⟨delivery, feeds⟩ := noted.fetchBatch askable
  have underway := (sound.begin feeds delivery).fetchTargets
  have gapless := Run.gapless_gather sources tracker run (run.session.pending tracker)
  simp only [Run.gather, Run.fetchBatch_index] at gapless ⊢
  cases tracker with
  | jira => exact underway.gathered gapless fun _ _ _ needs => by cases needs.1
  | bugzilla => exact underway.fetchClones (sound.settled .bugzilla) gapless

end Discipline

end TestGate
