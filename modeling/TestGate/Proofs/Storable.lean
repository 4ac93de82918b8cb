import TestGate.Proofs.Fates
import TestGate.Proofs.RecordCodec
import TestGate.Proofs.References

/-!
Trackers that answer only what they are asked, with records as they can be read and without
verdicts; they may fail or leave out whatever they like. Main statement: all records of an index
that is resolved with such trackers can be stored.
-/

namespace TestGate

open Issue

/-! ## Records that can be stored -/

/-- Whether a record can be stored for an issue: it is about this issue, can be written, and leads
to an issue that can be written. -/
structure Storable (issue : Reference) (record : Record) : Prop where
  sameId : record.id = issue.id
  writable : record.Writable
  link : ∀ id, record.duplicateOf = some id → Reference.IsProper ⟨issue.tracker, id⟩

namespace Storable

variable {issue : Reference} {record : Record}

theorem fallback
    (issue : Reference) (reason : String) :
    Storable issue (Record.fallback issue.id reason) where
  sameId := rfl
  writable := by
    refine .intro nofun ?_ nofun
    intro name json found
    cases found
  link := nofun

theorem with_clones
    {clones : List Record}
    (storable : Storable issue record) (writable : ∀ clone ∈ clones, clone.Writable) :
    Storable issue { record with clones := clones } where
  sameId := storable.sameId
  writable :=
    .intro storable.writable.link (fun _ _ found => storable.writable.extra found) writable
  link := storable.link

theorem with_verdict
    (storable : Storable issue record) (verdict : Option Bool) :
    Storable issue { record with isOpen := verdict } where
  sameId := storable.sameId
  writable :=
    .intro storable.writable.link (fun _ _ found => storable.writable.extra found)
      fun _ member => storable.writable.clones member
  link := storable.link

theorem with_mark
    (storable : Storable issue record) (mark : Option Bool) :
    Storable issue { record with isDeselected := mark } where
  sameId := storable.sameId
  writable :=
    .intro storable.writable.link (fun _ _ found => storable.writable.extra found)
      fun _ member => storable.writable.clones member
  link := storable.link

end Storable

/-- Whether a record can be stored and has no verdicts but those of a fallback record. -/
def Unsettled (issue : Reference) (record : Record) : Prop :=
  Storable issue record ∧
    ((record.isOpen = none ∧ record.isDeselected = none) ∨
      ∃ reason, record = Record.fallback issue.id reason)

namespace Unsettled

variable {issue : Reference} {record : Record}

theorem fallback
    (issue : Reference) (reason : String) :
    Unsettled issue (Record.fallback issue.id reason) :=
  ⟨.fallback issue reason, Or.inr ⟨reason, rfl⟩⟩

theorem with_clones
    {clones : List Record}
    (unsettled : Unsettled issue record) (noVerdict : record.isOpen = none)
    (writable : ∀ clone ∈ clones, clone.Writable) :
    Unsettled issue { record with clones := clones } := by
  obtain ⟨storable, ⟨_, noMark⟩ | ⟨reason, rfl⟩⟩ := unsettled
  · exact ⟨storable.with_clones writable, Or.inl ⟨noVerdict, noMark⟩⟩
  · cases noVerdict

/-- A record with a verdict is a fallback record. -/
theorem eq_fallback
    {verdict : Bool}
    (unsettled : Unsettled issue record)
    (settled : record.isOpen = some verdict ∨ record.isDeselected = some verdict) :
    ∃ reason, record = Record.fallback issue.id reason := by
  obtain ⟨_, ⟨noVerdict, noMark⟩ | isFallback⟩ := unsettled
  · rw [noVerdict, noMark] at settled
    rcases settled with impossible | impossible <;> cases impossible
  · exact isFallback

theorem mark_of_settled
    {verdict : Bool}
    (unsettled : Unsettled issue record)
    (settled : record.isOpen = some verdict ∨ record.isDeselected = some verdict) :
    record.isDeselected = some false ∧ record.isObsolete issue.tracker = false := by
  obtain ⟨reason, rfl⟩ := unsettled.eq_fallback settled
  refine ⟨rfl, ?_⟩
  cases issue.tracker <;> rfl

theorem link_of_settled
    {index : Index} {verdict : Bool}
    (unsettled : Unsettled issue record) (known : index.record? issue = some record)
    (settled : record.isOpen = some verdict ∨ record.isDeselected = some verdict) :
    index.link? issue.tracker issue.id = none := by
  obtain ⟨reason, rfl⟩ := unsettled.eq_fallback settled
  have sameIssue : index.record? ⟨issue.tracker, issue.id⟩ =
      some (Record.fallback issue.id reason) := known
  rw [Index.link?_of_record? sameIssue]
  rfl

/-- A record with a verdict decides about its own issue. -/
theorem decides_of_settled
    {index : Index} {target : Record} {verdict : Bool}
    (unsettled : Unsettled issue record) (known : index.record? issue = some record)
    (settled : record.isOpen = some verdict ∨ record.isDeselected = some verdict)
    (decides : index.Decides issue target) :
    target = record := by
  have ends := unsettled.link_of_settled known settled
  obtain ⟨nodes, last, trail, _, _, isLast, isTarget⟩ := decides
  cases trail with
  | last =>
    cases isLast
    have sameIssue : index.record? issue = some target := isTarget
    rw [known] at sameIssue
    exact (Option.some.inj sameIssue).symm
  | link leads =>
    rw [ends] at leads
    cases leads

end Unsettled

/-! ## Honest trackers -/

/-- Whether a record is one that a tracker may answer with: it can be read, leads to a proper issue
if anywhere, and has no verdicts. -/
structure Issue.Record.IsPlain (record : Record) (tracker : Tracker) : Prop where
  readable : ∃ tree, Record.decode tree = .ok record
  link : ∀ id, record.duplicateOf = some id → Reference.IsProper ⟨tracker, id⟩
  noVerdict : record.isOpen = none
  noMark : record.isDeselected = none

theorem Issue.Record.Writable.isPlain
    {record : Record} {tracker : Tracker}
    (writable : record.Writable)
    (link : ∀ id, record.duplicateOf = some id → Reference.IsProper ⟨tracker, id⟩)
    (noVerdict : record.isOpen = none) (noMark : record.isDeselected = none) :
    record.IsPlain tracker :=
  ⟨⟨_, writable.decode_toJson⟩, link, noVerdict, noMark⟩

theorem Issue.Record.IsPlain.unsettled
    {record : Record} {tracker : Tracker}
    (plain : record.IsPlain tracker) :
    Unsettled ⟨tracker, record.id⟩ record := by
  obtain ⟨tree, read⟩ := plain.readable
  exact ⟨⟨rfl, Record.writable_of_decodeWithin read, plain.link⟩,
    Or.inl ⟨plain.noVerdict, plain.noMark⟩⟩

variable {σ : Type} {sources : IssueSources σ}

/-- Whether trackers answer only what they are asked, and with plain records. They may fail, leave
out issues and answer in any order. -/
def Honest (sources : IssueSources σ) : Prop :=
  ∀ tracker ids memory records, ((sources tracker).fetch ids memory).1.outcome = .ok records →
    ∀ record ∈ records, record.id ∈ ids ∧ record.IsPlain tracker

/-- Whatever honest trackers do, each issue asked for has a record that is not settled. -/
theorem Honest.delivery
    (honest : Honest sources) (tracker : Tracker) (ids : List String) (run : Run σ) :
    Delivery Unsettled tracker ids (run.fetchRemote sources tracker ids).1 := by
  have fallbacks : ∀ (some : List String) (reason : String),
      Delivery Unsettled tracker some (some.map fun id => Record.fallback id reason) :=
    fun some reason => .of_map (fun _ _ => rfl) fun id _ => .fallback ⟨tracker, id⟩ reason
  simp only [Run.fetchRemote]
  split
  · exact fallbacks ids "no API key configured"
  · split
    · rename_i records world fetched
      obtain ⟨memory, replied⟩ := exists_reply_of_fetchWithRetry (congrArg Prod.fst fetched)
      have answered := honest tracker ids memory records replied
      refine .fill (fun id => Record.fallback id "not found in tracker")
        (fun record member => (answered record member).1) ?_ (fun _ => rfl) ?_
      · exact fun record member => (answered record member).2.unsettled
      · exact fun id _ => .fallback ⟨tracker, id⟩ "not found in tracker"
    · rename_i error world fetched
      exact fallbacks ids error

/-- The discipline of resolving with honest trackers and without a cache. -/
def Honest.discipline
    (honest : Honest sources) (version : Version) :
    Discipline sources where
  version := version
  stock := SortedMap.empty
  Good := Unsettled
  Askable := fun _ => True
  Calm := fun _ => True
  Listed := Reference.IsProper
  Ready := Unsettled
  Held := Storable
  stocked found := by
    rw [SortedMap.find?_empty] at found
    cases found
  calm_note _ _ := trivial
  remote run _ _ _ := ⟨honest.delivery _ _ run, trivial⟩
  held_of_good unsettled := unsettled.1
  held_of_ready unsettled := unsettled.1
  askable_of_listed _ := trivial
  listed_of_link storable leads := by
    rw [Record.duplicated?] at leads
    split at leads
    · exact storable.link _ leads
    · cases leads
  askable_clone _ _ _ _ := trivial
  ready_of_good unsettled _ := unsettled
  ready_of_clones unsettled _ needed delivery _ := by
    refine unsettled.with_clones (Session.noVerdict_of_needsClones needed) fun clone member => ?_
    exact (delivery.good clone (List.mem_filter.mp member).1).1.writable
  short_of_judged {index} issue record _ known unsettled judged := by
    obtain ⟨verdict, isOpen⟩ := Option.isSome_iff_exists.mp judged
    rintro ⟨next, leads, _⟩
    rw [unsettled.link_of_settled known (Or.inl isOpen)] at leads
    cases leads
  mark_of_ready {index} issue record target mark _ known unsettled decides marked := by
    have settled : record.isOpen = some mark ∨ record.isDeselected = some mark := Or.inr marked
    rw [unsettled.decides_of_settled known settled decides]
    obtain ⟨isMark, notObsolete⟩ := unsettled.mark_of_settled settled
    rw [isMark, Option.some.injEq] at marked
    rw [← marked, notObsolete]
  held_verdict issue _ _ held _ known _ _ := (held issue.id _ known).with_verdict _
  held_marked issue _ _ held known _ _ := (held issue.id _ known).with_mark _

end TestGate
