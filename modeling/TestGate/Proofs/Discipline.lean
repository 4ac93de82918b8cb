import TestGate.Proofs.Fetching
import TestGate.Proofs.IndexSteps

/-!
What resolving keeps up. A `Discipline` says, on top of what is delivered, what holds of the records
in the index: of new ones that are ready to be judged, and of all of them all the time. A tracker's
part of the index is settled when every record there has a verdict and all marks on records are
right.
-/

namespace TestGate

open Issue

namespace Issue.Index

/-- Whether something holds of all records of a tracker. -/
def Throughout (index : Index) (tracker : Tracker) (Holds : Reference → Record → Prop) : Prop :=
  ∀ id record, index.record? ⟨tracker, id⟩ = some record → Holds ⟨tracker, id⟩ record

/-- Whether a record has a verdict, can be followed to the record that decides about it, and is
marked only as that one says. -/
def IsSettled (index : Index) (issue : Reference) (record : Record) : Prop :=
  record.isOpen.isSome = true ∧
    ∃ target, index.Decides issue target ∧
      ∀ mark, record.isDeselected = some mark → mark = target.isObsolete issue.tracker

/-- Whether all records of a tracker are settled. -/
def Settled (index : Index) (tracker : Tracker) : Prop :=
  index.Throughout tracker index.IsSettled

/-- Whether all entries of a tracker have a record. -/
def Filled (index : Index) (tracker : Tracker) : Prop :=
  ∀ id, index.contains ⟨tracker, id⟩ = true → (index.record? ⟨tracker, id⟩).isSome = true

/-- Whether the records of one index are in another, too. -/
def Keeps (before after : Index) : Prop :=
  ∀ issue record, before.record? issue = some record → after.record? issue = some record

/-! ## Indexes that keep records -/

namespace Keeps

variable {before after : Index} {tracker : Tracker}

theorem refl
    (index : Index) :
    index.Keeps index :=
  fun _ _ known => known

theorem trans
    {first second third : Index}
    (early : first.Keeps second) (late : second.Keeps third) :
    first.Keeps third :=
  fun issue record known => late issue record (early issue record known)

theorem isSome
    {issue : Reference}
    (keeps : before.Keeps after) (known : (before.record? issue).isSome = true) :
    (after.record? issue).isSome = true := by
  obtain ⟨record, found⟩ := Option.isSome_iff_exists.mp known
  rw [keeps issue record found]
  rfl

theorem link?
    {id next : String}
    (keeps : before.Keeps after) (leads : before.link? tracker id = some next) :
    after.link? tracker id = some next := by
  obtain ⟨record, known, duplicated⟩ := record?_of_link? leads
  rw [link?_of_record? (keeps _ _ known), duplicated]

theorem reaches
    {id target : String}
    (keeps : before.Keeps after) (way : Reaches (before.link? tracker) id target) :
    Reaches (after.link? tracker) id target :=
  way.grow fun _ _ leads => keeps.link? leads

/-- What holds of the records that were there before and of those that are new holds of all. -/
theorem throughout
    {Holds : Reference → Record → Prop}
    (keeps : before.Keeps after) (old : before.Throughout tracker Holds)
    (new : ∀ id record, before.record? ⟨tracker, id⟩ = none →
      after.record? ⟨tracker, id⟩ = some record → Holds ⟨tracker, id⟩ record) :
    after.Throughout tracker Holds := by
  intro id record known
  cases earlier : before.record? ⟨tracker, id⟩ with
  | none => exact new id record earlier known
  | some kept =>
    have same := (keeps _ _ earlier).symm.trans known
    rw [Option.some.injEq] at same
    exact same ▸ old id kept earlier

theorem fillGaps
    (index : Index) (issues : List Reference) :
    index.Keeps (Session.fillGaps index issues) := by
  intro issue record known
  rw [Session.record?_fillGaps, known, Option.some_or, ite_self]

/-- The record of an issue without one takes no other's place. -/
theorem enterTarget
    {index : Index} {issue : Reference}
    (unknown : index.record? issue = none) (record : Record) :
    index.Keeps (Session.enterTarget index issue record) := by
  intro other found known
  rw [Session.record?_enterTarget_eq_some]
  refine Or.inr ⟨?_, known⟩
  rintro rfl
  rw [unknown] at known
  cases known

end Keeps

/-- The record that decides about an issue still does when records are replaced by such that lead on
as before. -/
theorem Decides.carry
    {before after : Index} {issue : Reference} {target : Record} {Alike : Record → Record → Prop}
    (decides : before.Decides issue target)
    (sameLead : ∀ record other, Alike record other →
      other.duplicated? issue.tracker = record.duplicated? issue.tracker)
    (replaced : ∀ id record, before.record? ⟨issue.tracker, id⟩ = some record →
      ∃ other, after.record? ⟨issue.tracker, id⟩ = some other ∧ Alike record other) :
    ∃ other, after.Decides issue other ∧ Alike target other := by
  obtain ⟨nodes, last, trail, short, present, isLast, known⟩ := decides
  have sameLinks : ∀ node ∈ nodes,
      after.link? issue.tracker node = before.link? issue.tracker node := by
    intro node member
    obtain ⟨record, found⟩ := Option.isSome_iff_exists.mp (present node member)
    obtain ⟨other, otherFound, alike⟩ := replaced node record found
    rw [link?_of_record? found, link?_of_record? otherFound, sameLead record other alike]
  obtain ⟨other, otherKnown, alike⟩ := replaced last target known
  refine ⟨other, ⟨nodes, last, trail.congr sameLinks, short, ?_, isLast, otherKnown⟩, alike⟩
  intro node member
  obtain ⟨record, found⟩ := Option.isSome_iff_exists.mp (present node member)
  obtain ⟨replacement, replacementFound, _⟩ := replaced node record found
  rw [replacementFound]
  rfl

theorem Decides.keeps
    {before after : Index} {issue : Reference} {target : Record}
    (decides : before.Decides issue target) (keeps : before.Keeps after) :
    after.Decides issue target := by
  have replaced : ∀ id record, before.record? ⟨issue.tracker, id⟩ = some record →
      ∃ other, after.record? ⟨issue.tracker, id⟩ = some other ∧ record = other :=
    fun id record known => ⟨record, keeps _ record known, rfl⟩
  obtain ⟨other, otherDecides, rfl⟩ :=
    decides.carry (fun _ _ same => by rw [same]) replaced
  exact otherDecides

/-- An issue about which a record decides cannot be followed too far. -/
theorem Decides.not_canStep
    {index : Index} {issue : Reference} {target : Record}
    (decides : index.Decides issue target) :
    ¬ CanStep (index.link? issue.tracker) longestChain issue.id := by
  obtain ⟨nodes, _, trail, short, _⟩ := decides
  exact (CanStep.not_iff _ _ _).mpr ⟨nodes, trail, short⟩

/-- In a settled index every link leads to a record. -/
theorem Settled.closed
    {index : Index} {tracker : Tracker}
    (settled : index.Settled tracker) :
    index.Closed tracker := by
  intro id next leads
  obtain ⟨record, known, _⟩ := record?_of_link? leads
  obtain ⟨_, target, decides, _⟩ := settled id record known
  obtain ⟨nodes, last, trail, _, present, _⟩ := decides.onward leads
  exact present next trail.start_mem

end Issue.Index

/-! ## Disciplines -/

variable {σ : Type}

/-- What holds of the records in the index, given a supply of records: `Ready` of those that are new
and may be judged, `Held` of all at any time; `Listed` says which issues may be in the index. The
laws say why what the resolver does keeps all that up. -/
structure Discipline (sources : IssueSources σ) extends Supply sources where
  Listed : Reference → Prop
  Ready : Reference → Record → Prop
  Held : Reference → Record → Prop
  held_of_good : ∀ {issue record}, Good issue record → Held issue record
  held_of_ready : ∀ {issue record}, Ready issue record → Held issue record
  askable_of_listed : ∀ {issue}, Listed issue → Askable issue
  listed_of_link : ∀ {issue record next}, Held issue record →
    record.duplicated? issue.tracker = some next → Listed ⟨issue.tracker, next⟩
  askable_clone : ∀ {issue record id}, Held issue record → issue.tracker = .bugzilla →
    Session.needsClones record = true → id ∈ record.cloneIds → Askable ⟨.bugzilla, id⟩
  ready_of_good : ∀ {issue record}, Good issue record →
    ¬ (issue.tracker = .bugzilla ∧ Session.needsClones record = true) → Ready issue record
  ready_of_clones : ∀ {issue record ids clones}, Good issue record → issue.tracker = .bugzilla →
    Session.needsClones record = true → Delivery Good .bugzilla ids clones →
      (∀ id ∈ record.cloneIds, id ∈ ids) →
        Ready issue (Session.withClones record.cloneIds clones record)
  short_of_judged : ∀ {index : Index} (issue : Reference) {record},
    index.Throughout issue.tracker Held → index.record? issue = some record →
      Ready issue record → record.isOpen.isSome = true →
        ¬ CanStep (index.link? issue.tracker) Index.longestChain issue.id
  mark_of_ready : ∀ {index : Index} (issue : Reference) {record target mark},
    index.Throughout issue.tracker Held → index.record? issue = some record →
      Ready issue record → index.Decides issue target → record.isDeselected = some mark →
        mark = target.isObsolete issue.tracker
  held_verdict : ∀ {index : Index} (issue : Reference) {record target},
    index.Throughout issue.tracker Held →
      index.Throughout issue.tracker
        (fun other record => record.isOpen = none → Ready other record) →
        index.record? issue = some record → record.isOpen = none → index.Decides issue target →
          Held issue
            { record with
              isOpen := some (target.isOpen.getD (target.affects issue.tracker version)) }
  held_marked : ∀ {index : Index} (issue : Reference) {record target},
    index.Throughout issue.tracker Held → index.record? issue = some record →
      index.Decides issue target → target.isObsolete issue.tracker = true →
        Held issue { record with isDeselected := some true }

end TestGate
