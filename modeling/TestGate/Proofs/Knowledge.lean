import TestGate.Proofs.Resolving

/-!
Trackers that always answer from the same knowledge, and what follows from it for an issue without
any index: where its chain of duplicates ends, whether it is open and whether it is obsolete. Main
statement: such trackers keep the records of an index faithful to their knowledge.
-/

namespace TestGate

open Issue

/-- What the trackers know about the issues. -/
abbrev Knowledge := Reference → Option Record

namespace Knowledge

/-! ## What follows from knowledge -/

/-- The id that an issue of a tracker duplicates; an unknown issue duplicates none. -/
def next? (known : Knowledge) (tracker : Tracker) (id : String) : Option String :=
  (known ⟨tracker, id⟩).bind fun record => record.duplicated? tracker

/-- Whether these are the ids from an issue to the last one of its chain. -/
def Chain (known : Knowledge) (issue : Reference) (ids : List String) : Prop :=
  Trail (known.next? issue.tracker) issue.id ids

/-- Whether the chain of an issue is short enough to be followed and ends there. -/
def EndsAt (known : Knowledge) (issue : Reference) (last : String) : Prop :=
  ∃ ids, known.Chain issue ids ∧ ids.length ≤ Index.longestChain ∧ ids.getLast? = some last

/-- The records of the clones of an issue that are known. -/
def foundClones (known : Knowledge) (record : Record) : List Record :=
  (record.cloneIds.filterMap fun id => known ⟨.bugzilla, id⟩).filter fun clone => !clone.isFallback

/-- The record with the clones that count: those it came with, else those that are known. -/
def withFoundClones (known : Knowledge) (tracker : Tracker) (record : Record) : Record :=
  match tracker with
  | .bugzilla =>
    if record.clones.isEmpty then { record with clones := known.foundClones record } else record
  | .jira => record

theorem clones_withFoundClones
    (known : Knowledge) (record : Record) :
    (known.withFoundClones .bugzilla record).clones =
      if record.clones = [] then known.foundClones record else record.clones := by
  rw [withFoundClones]
  by_cases none : record.clones = []
  · rw [if_pos (by simpa using none), if_pos none]
  · rw [if_neg (by simpa using none), if_neg none]

/-- Whether an issue at the end of a chain is open; an unknown one is. -/
def openVerdict (known : Knowledge) (version : Version) (issue : Reference) : Bool :=
  match known issue with
  | none => true
  | some record => (known.withFoundClones issue.tracker record).affects issue.tracker version

/-- Whether an issue at the end of a chain is obsolete; an unknown one is not. -/
def obsoleteVerdict (known : Knowledge) (issue : Reference) : Bool :=
  match known issue with
  | none => false
  | some record => record.isObsolete issue.tracker

/-- What may be found out about an issue: the verdicts at the end of its chain. -/
def IsAnswer
    (known : Knowledge) (version : Version) (issue : Reference) (answer : Finding) : Prop :=
  ∃ last, known.EndsAt issue last ∧
    answer = ⟨known.openVerdict version ⟨issue.tracker, last⟩,
      known.obsoleteVerdict ⟨issue.tracker, last⟩⟩

theorem EndsAt.unique
    {known : Knowledge} {issue : Reference} {last other : String}
    (ends : known.EndsAt issue last) (otherEnds : known.EndsAt issue other) :
    last = other := by
  obtain ⟨ids, chain, _, isLast⟩ := ends
  obtain ⟨otherIds, otherChain, _, otherIsLast⟩ := otherEnds
  rw [chain.unique otherChain, otherIsLast] at isLast
  exact (Option.some.inj isLast).symm

theorem EndsAt.last
    {known : Knowledge} {issue : Reference} {last : String}
    (ends : known.EndsAt issue last) :
    known.EndsAt ⟨issue.tracker, last⟩ last := by
  obtain ⟨ids, chain, _, isLast⟩ := ends
  exact ⟨[last], .last (chain.ends_at_last isLast), by simp [Index.longestChain], rfl⟩

theorem EndsAt.not_canStep
    {known : Knowledge} {issue : Reference} {last : String}
    (ends : known.EndsAt issue last) :
    ¬ CanStep (known.next? issue.tracker) Index.longestChain issue.id := by
  obtain ⟨ids, chain, short, _⟩ := ends
  exact (CanStep.not_iff _ _ _).mpr ⟨ids, chain, short⟩

theorem IsAnswer.unique
    {known : Knowledge} {version : Version} {issue : Reference} {answer other : Finding}
    (isAnswer : known.IsAnswer version issue answer)
    (otherIsAnswer : known.IsAnswer version issue other) :
    answer = other := by
  obtain ⟨last, ends, rfl⟩ := isAnswer
  obtain ⟨otherLast, otherEnds, rfl⟩ := otherIsAnswer
  rw [ends.unique otherEnds]

end Knowledge

/-! ## Clones that count alike -/

/-- Whether two lists of clones bring the same fixes. -/
def SameFixes (clones others : List Record) : Prop :=
  ∀ version,
    (clones.any fun clone => clone.fixesAsClone version) =
      others.any fun clone => clone.fixesAsClone version

theorem affects_congr
    {clones others : List Record}
    (same : SameFixes clones others) (record : Record) (tracker : Tracker) (version : Version) :
    { record with clones := clones }.affects tracker version =
      { record with clones := others }.affects tracker version := by
  cases tracker with
  | jira => rfl
  | bugzilla =>
    have sameFixed :
        { record with clones := clones }.isFixedAt version =
          { record with clones := others }.isFixedAt version := by
      simp only [Record.isFixedAt, same version]
      rfl
    simp only [Record.affects, sameFixed]
    rfl

/-! ## Faithful records -/

/-- Whether a record says about an issue what the trackers know: a fallback record about an unknown
issue, else their record, maybe with clones that bring the same fixes and with verdicts that hold at
the end of the chain. -/
inductive Faithful (known : Knowledge) (version : Version) (issue : Reference) (record : Record) :
    Prop where
  | missing (reason : String) (unknown : known issue = none)
      (same : record = Record.fallback issue.id reason)
  | found {raw : Record} (clones : List Record) (isOpen mark : Option Bool)
      (isKnown : known issue = some raw)
      (same : record =
        { raw with clones := clones, isOpen := isOpen, isDeselected := mark })
      (fixes : clones = raw.clones ∨
        raw.clones = [] ∧ SameFixes clones (known.foundClones raw))
      (opened : ∀ verdict, isOpen = some verdict →
        ∃ last, known.EndsAt issue last ∧ verdict = known.openVerdict version ⟨issue.tracker, last⟩)
      (marked : ∀ verdict, mark = some verdict →
        ∃ last, known.EndsAt issue last ∧ verdict = known.obsoleteVerdict ⟨issue.tracker, last⟩)

namespace Faithful

variable {known : Knowledge} {version : Version} {issue : Reference} {record : Record}

/-- The record that a tracker knows is faithful as long as it has no verdicts. -/
theorem of_known
    (isKnown : known issue = some record) (noVerdict : record.isOpen = none)
    (noMark : record.isDeselected = none) :
    Faithful known version issue record := by
  refine .found record.clones none none isKnown ?_ (Or.inl rfl) (by simp) (by simp)
  cases record
  simp_all

theorem endsAt_of_unknown
    (unknown : known issue = none) :
    known.EndsAt issue issue.id := by
  have noNext : known.next? issue.tracker issue.id = none := by
    rw [Knowledge.next?, show known ⟨issue.tracker, issue.id⟩ = none from unknown, Option.bind_none]
  exact ⟨[issue.id], .last noNext, by simp [Index.longestChain], rfl⟩

theorem id_eq
    (sameId : ∀ issue record, known issue = some record → record.id = issue.id)
    (faithful : Faithful known version issue record) :
    record.id = issue.id := by
  cases faithful with
  | missing reason unknown same => rw [same, Record.fallback]
  | found clones isOpen mark isKnown same =>
    have equality := sameId issue _ isKnown
    rw [same]
    exact equality

/-- A faithful record leads on as the knowledge does. -/
theorem duplicated?_eq
    (faithful : Faithful known version issue record) :
    record.duplicated? issue.tracker = known.next? issue.tracker issue.id := by
  cases faithful with
  | missing reason unknown same =>
    rw [Knowledge.next?, show known ⟨issue.tracker, issue.id⟩ = none from unknown, same]
    rfl
  | found clones isOpen mark isKnown same =>
    rw [Knowledge.next?, show known ⟨issue.tracker, issue.id⟩ = some _ from isKnown, same]
    rfl

theorem isObsolete_eq
    (faithful : Faithful known version issue record) :
    record.isObsolete issue.tracker = known.obsoleteVerdict issue := by
  cases faithful with
  | missing reason unknown same =>
    rw [Knowledge.obsoleteVerdict, unknown, same]
    cases issue.tracker <;> rfl
  | found clones isOpen mark isKnown same =>
    rw [Knowledge.obsoleteVerdict, isKnown, same]
    rfl

/-- A verdict on a faithful record holds at the end of the chain. -/
theorem verdict
    {value : Bool}
    (faithful : Faithful known version issue record) (judged : record.isOpen = some value) :
    ∃ last, known.EndsAt issue last ∧
      value = known.openVerdict version ⟨issue.tracker, last⟩ := by
  cases faithful with
  | missing reason unknown same =>
    refine ⟨issue.id, endsAt_of_unknown unknown, ?_⟩
    rw [same, Record.fallback, Option.some.injEq] at judged
    rw [Knowledge.openVerdict, show known ⟨issue.tracker, issue.id⟩ = none from unknown, judged]
  | found clones isOpen mark isKnown same fixes opened =>
    rw [same] at judged
    exact opened value judged

theorem mark
    {value : Bool}
    (faithful : Faithful known version issue record) (marked : record.isDeselected = some value) :
    ∃ last, known.EndsAt issue last ∧
      value = known.obsoleteVerdict ⟨issue.tracker, last⟩ := by
  cases faithful with
  | missing reason unknown same =>
    refine ⟨issue.id, endsAt_of_unknown unknown, ?_⟩
    rw [same, Record.fallback, Option.some.injEq] at marked
    rw [Knowledge.obsoleteVerdict, show known ⟨issue.tracker, issue.id⟩ = none from unknown, marked]
  | found clones isOpen mark isKnown same fixes opened marks =>
    rw [same] at marked
    exact marks value marked

theorem with_verdict
    {last : String}
    (faithful : Faithful known version issue record) (unjudged : record.isOpen = none)
    (ends : known.EndsAt issue last) :
    Faithful known version issue
      { record with isOpen := some (known.openVerdict version ⟨issue.tracker, last⟩) } := by
  cases faithful with
  | missing reason unknown same =>
    rw [same] at unjudged
    cases unjudged
  | found clones isOpen mark isKnown same fixes opened marked =>
    refine .found clones _ mark isKnown (by rw [same]) fixes ?_ marked
    intro verdict judged
    exact ⟨last, ends, (Option.some.inj judged).symm⟩

theorem with_mark
    {last : String}
    (faithful : Faithful known version issue record) (ends : known.EndsAt issue last)
    (isObsolete : known.obsoleteVerdict ⟨issue.tracker, last⟩ = true) :
    Faithful known version issue { record with isDeselected := some true } := by
  cases faithful with
  | missing reason unknown same =>
    rw [ends.unique (endsAt_of_unknown unknown), Knowledge.obsoleteVerdict,
      show known ⟨issue.tracker, issue.id⟩ = none from unknown] at isObsolete
    cases isObsolete
  | found clones isOpen mark isKnown same fixes opened marked =>
    refine .found clones isOpen _ isKnown (by rw [same]) fixes opened ?_
    intro verdict judged
    exact ⟨last, ends, (Option.some.inj judged).symm.trans isObsolete.symm⟩

end Faithful

/-! ## Indexes with faithful records -/

section FaithfulIndex

variable {known : Knowledge} {version : Version} {index : Index} {tracker : Tracker}

theorem Faithful.next?_of_link?
    {id next : String}
    (faithful : index.Throughout tracker (Faithful known version))
    (leads : index.link? tracker id = some next) :
    known.next? tracker id = some next := by
  obtain ⟨record, isKnown, duplicated⟩ := Index.record?_of_link? leads
  have same : record.duplicated? tracker = known.next? tracker id :=
    (faithful id record isKnown).duplicated?_eq
  rw [← same, duplicated]

theorem Faithful.canStep
    {count : Nat} {id : String}
    (faithful : index.Throughout tracker (Faithful known version))
    (steps : CanStep (index.link? tracker) count id) :
    CanStep (known.next? tracker) count id :=
  steps.grow fun _ _ leads => Faithful.next?_of_link? faithful leads

/-- The record that decides is about the end of the chain. -/
theorem Faithful.endsAt
    {issue : Reference} {target : Record}
    (faithful : index.Throughout issue.tracker (Faithful known version))
    (decides : index.Decides issue target) :
    ∃ last, known.EndsAt issue last ∧
      index.record? ⟨issue.tracker, last⟩ = some target ∧
        Faithful known version ⟨issue.tracker, last⟩ target := by
  obtain ⟨nodes, last, trail, short, present, isLast, isKnown⟩ := decides
  refine ⟨last, ⟨nodes, trail.congr fun node member => ?_, short, isLast⟩, isKnown,
    faithful last target isKnown⟩
  obtain ⟨record, found⟩ := Option.isSome_iff_exists.mp (present node member)
  rw [Index.link?_of_record? found]
  exact (faithful node record found).duplicated?_eq.symm

/-- What a faithful index answers is what may be found out. -/
theorem Faithful.isAnswer
    {issue : Reference} {answer : Finding}
    (faithful : index.Throughout issue.tracker (Faithful known version))
    (answers : index.Answers issue answer) :
    known.IsAnswer version issue answer := by
  obtain ⟨record, target, isKnown, judged, decides, isObsolete⟩ := answers
  obtain ⟨last, ends, verdict⟩ := (faithful issue.id record isKnown).verdict judged
  obtain ⟨targetLast, targetEnds, _, targetFaithful⟩ := Faithful.endsAt faithful decides
  have same : target.isObsolete issue.tracker =
      known.obsoleteVerdict ⟨issue.tracker, targetLast⟩ :=
    targetFaithful.isObsolete_eq
  rw [isObsolete, targetEnds.unique ends] at same
  refine ⟨last, ends, ?_⟩
  rw [← verdict, ← same]

end FaithfulIndex

/-! ## Records ready to be judged -/

/-- Whether a record is faithful and would be judged rightly if it had no verdict yet. -/
def Judgeable
    (known : Knowledge) (version : Version) (issue : Reference) (record : Record) : Prop :=
  Faithful known version issue record ∧
    (record.isOpen = none →
      record.affects issue.tracker version = known.openVerdict version issue)

/-- A record with clones that bring the fixes of those that count is judged rightly. -/
theorem affects_of_sameFixes
    {known : Knowledge} {version : Version} {issue : Reference} {raw : Record}
    {clones : List Record}
    (isKnown : known issue = some raw) (isOpen mark : Option Bool)
    (same : issue.tracker = .bugzilla →
      SameFixes clones (known.withFoundClones .bugzilla raw).clones) :
    { raw with clones := clones, isOpen := isOpen, isDeselected := mark }.affects
        issue.tracker version =
      known.openVerdict version issue := by
  rw [Knowledge.openVerdict, isKnown]
  obtain ⟨tracker, id⟩ := issue
  cases tracker with
  | jira => rfl
  | bugzilla =>
    have congruence := affects_congr (same rfl) raw .bugzilla version
    have whole :
        { raw with clones := (known.withFoundClones .bugzilla raw).clones } =
          known.withFoundClones .bugzilla raw := by
      rw [Knowledge.withFoundClones]
      split
      · rfl
      · cases raw
        rfl
    rw [whole] at congruence
    exact congruence

theorem Judgeable.of_faithful
    {known : Knowledge} {version : Version} {issue : Reference} {record : Record}
    (faithful : Faithful known version issue record)
    (noNeed : ¬ (issue.tracker = .bugzilla ∧ Session.needsClones record = true)) :
    Judgeable known version issue record := by
  refine ⟨faithful, fun unjudged => ?_⟩
  cases faithful with
  | missing reason unknown same =>
    rw [same] at unjudged
    cases unjudged
  | @found raw clones isOpen mark isKnown same fixes =>
    subst same
    refine affects_of_sameFixes isKnown isOpen mark fun belongs version => ?_
    have enough : clones = [] → raw.cloneIds = [] := by
      intro noClones
      by_contra someIds
      refine noNeed ⟨belongs, ?_⟩
      have noVerdict : isOpen = none := unjudged
      simp [Session.needsClones, noVerdict, noClones, someIds]
    rw [Knowledge.clones_withFoundClones]
    rcases fixes with rfl | ⟨noRaw, sameFixes⟩
    · split
      · rename_i noRaw
        rw [noRaw, Knowledge.foundClones, enough noRaw]
        rfl
      · rfl
    · rw [if_pos noRaw]
      exact sameFixes version

/-- The clones that are attached bring the same fixes as all that are known. -/
theorem sameFixes_withClones
    {known : Knowledge} {version : Version} {ids : List String} {clones : List Record}
    (raw : Record)
    (delivery : Delivery (Faithful known version) .bugzilla ids clones)
    (wanted : ∀ id ∈ raw.cloneIds, id ∈ ids) :
    SameFixes (clones.filter fun clone => !clone.isFallback && raw.cloneIds.contains clone.id)
      (known.foundClones raw) := by
  intro version
  rw [Bool.eq_iff_iff, List.any_eq_true, List.any_eq_true]
  constructor
  · rintro ⟨clone, member, fixes⟩
    obtain ⟨inClones, condition⟩ := List.mem_filter.mp member
    obtain ⟨noFallback, named⟩ : clone.isFallback = false ∧ clone.id ∈ raw.cloneIds := by
      simpa using condition
    cases delivery.good clone inClones with
    | missing reason unknown same =>
      -- fallback records are left out
      rw [same] at noFallback
      cases noFallback
    | @found source own isOpen mark isKnown same =>
      refine ⟨source, ?_, ?_⟩
      · refine List.mem_filter.mpr ⟨List.mem_filterMap.mpr ⟨clone.id, named, isKnown⟩, ?_⟩
        rw [same] at noFallback
        exact congrArg not noFallback
      · rw [same] at fixes
        exact fixes
  · rintro ⟨source, member, fixes⟩
    obtain ⟨found, noFallback⟩ := List.mem_filter.mp member
    obtain ⟨id, named, isKnown⟩ := List.mem_filterMap.mp found
    obtain ⟨clone, inClones, rfl⟩ := delivery.complete id (wanted id named)
    cases delivery.good clone inClones with
    | missing reason unknown same =>
      rw [unknown] at isKnown
      cases isKnown
    | @found other own isOpen mark otherKnown same =>
      rw [isKnown, Option.some.injEq] at otherKnown
      subst otherKnown
      refine ⟨clone, List.mem_filter.mpr ⟨inClones, ?_⟩, ?_⟩
      · rw [Bool.and_eq_true]
        refine ⟨?_, by simpa using named⟩
        rw [same]
        exact noFallback
      · rw [same]
        exact fixes

theorem Judgeable.of_clones
    {known : Knowledge} {version : Version} {issue : Reference} {record : Record}
    {ids : List String} {clones : List Record}
    (faithful : Faithful known version issue record)
    (needed : Session.needsClones record = true)
    (delivery : Delivery (Faithful known version) .bugzilla ids clones)
    (wanted : ∀ id ∈ record.cloneIds, id ∈ ids) :
    Judgeable known version issue (Session.withClones record.cloneIds clones record) := by
  obtain ⟨⟨noVerdict, noClones⟩, _⟩ :
      (record.isOpen = none ∧ record.clones = []) ∧ record.cloneIds ≠ [] := by
    simpa [Session.needsClones] using needed
  cases faithful with
  | missing reason unknown same =>
    rw [same] at noVerdict
    cases noVerdict
  | @found raw own isOpen mark isKnown same fixes opened marked =>
    subst same
    have noRaw : raw.clones = [] := by
      rcases fixes with sameClones | ⟨noRaw, _⟩
      · exact sameClones.symm.trans noClones
      · exact noRaw
    have sameFixes := sameFixes_withClones raw delivery wanted
    refine ⟨.found _ isOpen mark isKnown rfl (Or.inr ⟨noRaw, sameFixes⟩) opened marked, fun _ => ?_⟩
    refine affects_of_sameFixes isKnown isOpen mark fun _ => ?_
    rw [Knowledge.clones_withFoundClones, if_pos noRaw]
    exact sameFixes

/-! ## Trackers that answer from knowledge -/

variable {σ : Type} {sources : IssueSources σ}

/-- Whether the trackers may be asked, never fail, and answer with the records that they know, in
the order asked. -/
structure Knowledge.Answers (known : Knowledge) (sources : IssueSources σ) : Prop where
  hasCredentials : ∀ tracker, (sources tracker).hasCredentials = true
  outcome : ∀ tracker ids memory, ((sources tracker).fetch ids memory).1.outcome =
    .ok (ids.filterMap fun id => known ⟨tracker, id⟩)

/-- Whether each record is about its own issue and comes without verdicts. -/
structure Knowledge.Unjudged (known : Knowledge) : Prop where
  sameId : ∀ issue record, known issue = some record → record.id = issue.id
  noVerdict : ∀ issue record, known issue = some record → record.isOpen = none
  noMark : ∀ issue record, known issue = some record → record.isDeselected = none

/-- Whether one tracker may be asked, never fails, and answers with the records that are known. -/
structure Knowledge.Tells (known : Knowledge) (tracker : Tracker) (source : IssueSource σ) : Prop
    where
  hasCredentials : source.hasCredentials = true
  outcome : ∀ ids memory, (source.fetch ids memory).1.outcome =
    .ok (ids.filterMap fun id => known ⟨tracker, id⟩)

theorem Knowledge.Answers.tells
    {known : Knowledge}
    (answers : known.Answers sources) (tracker : Tracker) :
    known.Tells tracker (sources tracker) :=
  ⟨answers.hasCredentials tracker, answers.outcome tracker⟩

/-- A source that never fails answers at the first attempt. -/
theorem fetchWithRetry_of_tells
    {known : Knowledge} {tracker : Tracker}
    (tells : known.Tells tracker (sources tracker)) (policy : RetryPolicy)
    (ids : List String) (world : World σ) :
    (fetchWithRetry (sources tracker) tracker policy ids world).1 =
      .ok (ids.filterMap fun id => known ⟨tracker, id⟩) := by
  have asked : (world.ask (sources tracker) tracker ids).1 =
      .ok (ids.filterMap fun id => known ⟨tracker, id⟩) :=
    tells.outcome ids world.memory
  rw [fetchWithRetry]
  cases policy.attempts - 1 with
  | zero => exact asked
  | succ more =>
    rw [attemptFetch]
    revert asked
    generalize world.ask (sources tracker) tracker ids = reply
    obtain ⟨outcome, after⟩ := reply
    rintro rfl
    rfl

theorem fetchRemote_of_tells
    {known : Knowledge} {tracker : Tracker}
    (tells : known.Tells tracker (sources tracker)) (ids : List String) (run : Run σ) :
    (run.fetchRemote sources tracker ids).1 =
      (ids.filterMap fun id => known ⟨tracker, id⟩) ++
        (Run.unanswered (ids.filterMap fun id => known ⟨tracker, id⟩) ids).map fun id =>
          Record.fallback id "not found in tracker" := by
  have fetched := fetchWithRetry_of_tells tells run.session.policy ids
    (run.note (.calling tracker ids)).world
  simp only [Run.fetchRemote, tells.hasCredentials, Bool.not_true, Bool.false_eq_true, if_false]
  revert fetched
  rw [show (run.note (.calling tracker ids)).session.policy = run.session.policy from rfl]
  generalize fetchWithRetry (sources tracker) tracker run.session.policy ids
    (run.note (.calling tracker ids)).world = reply
  obtain ⟨outcome, after⟩ := reply
  rintro rfl
  rfl

/-- What a tracker delivers that answers from knowledge. -/
theorem delivery_of_tells
    {known : Knowledge} {tracker : Tracker}
    (tells : known.Tells tracker (sources tracker)) (unjudged : known.Unjudged)
    (version : Version) (ids : List String) (run : Run σ) :
    Delivery (Faithful known version) tracker ids (run.fetchRemote sources tracker ids).1 := by
  rw [fetchRemote_of_tells tells]
  have answered : ∀ record ∈ ids.filterMap fun id => known ⟨tracker, id⟩,
      record.id ∈ ids ∧ known ⟨tracker, record.id⟩ = some record := by
    intro record member
    obtain ⟨id, inIds, isKnown⟩ := List.mem_filterMap.mp member
    have same : record.id = id := unjudged.sameId _ _ isKnown
    exact same ▸ ⟨inIds, isKnown⟩
  refine .fill (fun id => Record.fallback id "not found in tracker")
    (fun record member => (answered record member).1) ?_ (fun _ => rfl) ?_
  · intro record member
    have isKnown := (answered record member).2
    exact .of_known isKnown (unjudged.noVerdict _ _ isKnown) (unjudged.noMark _ _ isKnown)
  · intro id missing
    obtain ⟨inIds, nobody⟩ := List.mem_filter.mp missing
    rw [Bool.not_eq_true', List.any_eq_false] at nobody
    refine .missing "not found in tracker" ?_ rfl
    by_contra isSome
    obtain ⟨record, isKnown⟩ := Option.ne_none_iff_exists'.mp isSome
    have same : record.id = id := unjudged.sameId _ _ isKnown
    exact nobody record (List.mem_filterMap.mpr ⟨id, inIds, isKnown⟩) (beq_iff_eq.mpr same)

/-- The discipline of resolving with trackers that answer from knowledge, given faithful records
from cache files. -/
def Knowledge.discipline
    (known : Knowledge) (sources : IssueSources σ) (answers : known.Answers sources)
    (unjudged : known.Unjudged) (version : Version) (stock : SortedMap Reference Record)
    (stocked : ∀ issue record, stock.find? issue = some record →
      Faithful known version issue record) :
    Discipline sources where
  version := version
  stock := stock
  Good := Faithful known version
  Askable := fun _ => True
  Calm := fun _ => True
  Listed := fun _ => True
  Ready := Judgeable known version
  Held := Faithful known version
  stocked found := ⟨(stocked _ _ found).id_eq unjudged.sameId, stocked _ _ found⟩
  calm_note _ _ := trivial
  remote run _ _ _ := ⟨delivery_of_tells (answers.tells _) unjudged version _ run, trivial⟩
  held_of_good := id
  held_of_ready ready := ready.1
  askable_of_listed _ := trivial
  listed_of_link _ _ := trivial
  askable_clone _ _ _ _ := trivial
  ready_of_good faithful noNeed := .of_faithful faithful noNeed
  ready_of_clones faithful _ needed delivery wanted := .of_clones faithful needed delivery wanted
  short_of_judged issue _ faithful isKnown _ judged := by
    obtain ⟨verdict, isOpen⟩ := Option.isSome_iff_exists.mp judged
    obtain ⟨last, ends, _⟩ := (faithful issue.id _ isKnown).verdict isOpen
    exact fun steps => ends.not_canStep (Faithful.canStep faithful steps)
  mark_of_ready issue _ _ _ faithful isKnown _ decides marked := by
    obtain ⟨last, ends, isMark⟩ := (faithful issue.id _ isKnown).mark marked
    obtain ⟨targetLast, targetEnds, _, targetFaithful⟩ := Faithful.endsAt faithful decides
    rw [isMark, ends.unique targetEnds]
    exact targetFaithful.isObsolete_eq.symm
  held_verdict issue record target faithful ready isKnown noVerdict decides := by
    obtain ⟨last, ends, targetKnown, targetFaithful⟩ := Faithful.endsAt faithful decides
    have same : target.isOpen.getD (target.affects issue.tracker version) =
        known.openVerdict version ⟨issue.tracker, last⟩ := by
      cases judged : target.isOpen with
      | some verdict =>
        obtain ⟨targetLast, targetEnds, isVerdict⟩ := targetFaithful.verdict judged
        rw [Option.getD_some, isVerdict, targetEnds.unique ends.last]
      | none => exact (ready last target targetKnown judged).2 judged
    rw [same]
    exact (faithful issue.id record isKnown).with_verdict noVerdict ends
  held_marked issue record target faithful isKnown decides isObsolete := by
    obtain ⟨last, ends, _, targetFaithful⟩ := Faithful.endsAt faithful decides
    have same : target.isObsolete issue.tracker = known.obsoleteVerdict ⟨issue.tracker, last⟩ :=
      targetFaithful.isObsolete_eq
    exact (faithful issue.id record isKnown).with_mark ends (same.symm.trans isObsolete)

/-- An issue without an answer cannot be judged, and one that cannot be judged has none. -/
theorem Knowledge.not_endsAt_of_overlong
    {known : Knowledge} {answers : known.Answers sources} {unjudged : known.Unjudged}
    {version : Version} {stock : SortedMap Reference Record}
    {stocked : ∀ issue record, stock.find? issue = some record →
      Faithful known version issue record}
    {issue : Reference} {last : String}
    (overlong : (known.discipline sources answers unjudged version stock stocked).Overlong issue) :
    ¬ known.EndsAt issue last := by
  obtain ⟨index, faithful, steps⟩ := overlong
  exact fun ends => ends.not_canStep (Faithful.canStep faithful steps)

/-! ## Runs that know nothing yet -/

/-- Whether a run has no records, neither from a cache nor from earlier requests. -/
structure Run.IsBlank (run : Run σ) : Prop where
  noCache : run.session.cached = SortedMap.empty
  noMemory : run.session.remembered = []
  noData : ∀ issue, run.session.index.record? issue = none

/-- The discipline of a run that begins without a cache. -/
def Knowledge.freshDiscipline
    (known : Knowledge) (sources : IssueSources σ) (answers : known.Answers sources)
    (unjudged : known.Unjudged) (version : Version) :
    Discipline sources :=
  known.discipline sources answers unjudged version SortedMap.empty fun _ _ found => by
    rw [SortedMap.find?_empty] at found
    cases found

theorem Run.IsBlank.sound
    {known : Knowledge} {run : Run σ}
    (blank : run.IsBlank) (answers : known.Answers sources) (unjudged : known.Unjudged) :
    (known.freshDiscipline sources answers unjudged run.session.serverVersion).Sound run :=
  .of_noData rfl blank.noCache blank.noMemory trivial (fun _ _ => trivial) blank.noData

/-! ## Knowledge at hand -/

/-- Trackers that answer from knowledge and say nothing else. -/
def Knowledge.toSources (known : Knowledge) : IssueSources Unit := fun tracker =>
  { hasCredentials := true
    fetch := fun ids memory =>
      ({ outcome := .ok (ids.filterMap fun id => known ⟨tracker, id⟩) }, memory) }

theorem Knowledge.answers_toSources
    (known : Knowledge) :
    known.Answers known.toSources :=
  ⟨fun _ => rfl, fun _ _ _ => rfl⟩

/-- Knowledge of some records, the first about an issue counting. -/
def Knowledge.ofRecords (records : List (Reference × Record)) : Knowledge := fun issue =>
  records.lookup issue

theorem Knowledge.mem_of_ofRecords
    {records : List (Reference × Record)} {issue : Reference} {record : Record}
    (isKnown : Knowledge.ofRecords records issue = some record) :
    (issue, record) ∈ records := by
  obtain ⟨front, back, split, _⟩ := List.lookup_eq_some_iff.mp isKnown
  rw [split]
  simp

/-- The index of some issues without data. -/
def Issue.Index.ofIssues (issues : List Reference) : Index :=
  issues.foldl Index.touch SortedMap.empty

theorem Issue.Index.record?_ofIssues
    (issues : List Reference) (issue : Reference) :
    (Index.ofIssues issues).record? issue = none := by
  have general : ∀ (rest : List Reference) (index : Index), index.record? issue = none →
      (rest.foldl Index.touch index).record? issue = none := by
    intro rest
    induction rest with
    | nil => exact fun _ unknown => unknown
    | cons first rest inductionHypothesis =>
      intro index unknown
      exact inductionHypothesis _ ((Index.record?_touch index first issue).trans unknown)
  exact general issues SortedMap.empty rfl

theorem Issue.Index.mem_of_contains_ofIssues
    {issues : List Reference} {issue : Reference}
    (present : (Index.ofIssues issues).contains issue = true) :
    issue ∈ issues := by
  have general : ∀ (rest : List Reference) (index : Index),
      (rest.foldl Index.touch index).contains issue = true →
        index.contains issue = true ∨ issue ∈ rest := by
    intro rest
    induction rest with
    | nil => exact fun _ present => Or.inl present
    | cons first rest inductionHypothesis =>
      intro index present
      rcases inductionHypothesis _ present with inTouched | inRest
      · rw [SortedMap.contains, Index.touch, Index.find?_update] at inTouched
        split at inTouched
        · rename_i same
          exact Or.inr (same ▸ List.mem_cons_self)
        · exact Or.inl inTouched
      · exact Or.inr (List.mem_cons_of_mem first inRest)
  rcases general issues SortedMap.empty present with impossible | member
  · cases impossible
  · exact member

/-- A run at the beginning, about some issues. -/
def Run.atStart (version : Version) (issues : List Reference) : Run Unit where
  session := { serverVersion := version, policy := {}, index := Index.ofIssues issues }
  world := { memory := () }

theorem Run.isBlank_atStart
    (version : Version) (issues : List Reference) :
    (Run.atStart version issues).IsBlank :=
  ⟨rfl, rfl, Index.record?_ofIssues issues⟩

end TestGate
