import TestGate.Proofs.ChainVerdicts

/-!
Trackers that lose some of their knowledge: issues may be gone, and a tracker without credentials
says nothing at all. Main statement: what is lost only errs towards caution. Resolving that
succeeded still does, an issue that was open stays open, and no further issue becomes obsolete.
-/

namespace TestGate

open Issue

/-- A trail breaks off on the way of one that goes on where it ends. -/
theorem Trail.onward_of_grow
    {ν : Type} {next? other? : ν → Option ν} {node last : ν} {nodes others : List ν}
    (trail : Trail next? node nodes) (isLast : nodes.getLast? = some last)
    (kept : ∀ node next, next? node = some next → other? node = some next)
    (further : Trail other? node others) :
    ∃ rest, Trail other? last rest ∧ rest <:+ others := by
  induction trail generalizing others with
  | last ends =>
    rw [List.getLast?_singleton, Option.some.injEq] at isLast
    exact ⟨others, isLast ▸ further, List.suffix_refl others⟩
  | @link node next nodes leads trail inductionHypothesis =>
    rw [List.getLast?_cons_of_ne_nil trail.ne_nil] at isLast
    have otherLeads : other? node = some next := kept node next leads
    cases further with
    | last ends => simp [otherLeads] at ends
    | @link _ otherNext rest leadsOn further =>
      have same : otherNext = next := by simpa [otherLeads] using leadsOn.symm
      subst same
      obtain ⟨onward, onwardTrail, isSuffix⟩ := inductionHypothesis isLast further
      exact ⟨onward, onwardTrail, isSuffix.trans (List.suffix_cons node rest)⟩

/-! ## Fewer clones -/

/-- An issue is not fixed anywhere by taking clones away. -/
theorem affects_of_fewer_clones
    {clones others : List Record}
    (fewer : ∀ clone ∈ others, clone ∈ clones)
    (record : Record) (tracker : Tracker) (version : Version)
    (affected : { record with clones := clones }.affects tracker version = true) :
    { record with clones := others }.affects tracker version = true := by
  cases tracker with
  | jira => exact affected
  | bugzilla =>
    have fixedBefore :
        { record with clones := others }.isFixedAt version = true →
          { record with clones := clones }.isFixedAt version = true := by
      simp only [Record.isFixedAt, Bool.or_eq_true, List.any_eq_true]
      intro fixed
      apply fixed.imp id
      rintro ⟨clone, member, fixes⟩
      exact ⟨clone, fewer clone member, fixes⟩
    simp only [Record.affects, Bool.or_eq_true, Bool.not_eq_true'] at affected ⊢
    apply affected.imp id
    intro unfixed
    by_contra fixed
    have fixedAtAll := fixedBefore (by simpa using fixed)
    simp [unfixed] at fixedAtAll

/-! ## Knowledge that is a part of other knowledge -/

namespace Knowledge

/-- Whether everything that is known is known to another, too. -/
def Within (lesser known : Knowledge) : Prop :=
  ∀ issue record, lesser issue = some record → known issue = some record

/-- What remains known when some issues are lost. -/
def without (known : Knowledge) (lost : Reference → Bool) : Knowledge := fun issue =>
  if lost issue then none else known issue

theorem within_without
    (known : Knowledge) (lost : Reference → Bool) :
    (known.without lost).Within known := by
  intro issue record found
  by_cases isLost : lost issue = true
  · simp [without, isLost] at found
  · simpa [without, isLost] using found

namespace Within

variable {lesser known : Knowledge} {issue : Reference}

theorem trans
    {least : Knowledge}
    (first : least.Within lesser) (second : lesser.Within known) :
    least.Within known :=
  fun issue record found => second issue record (first issue record found)

theorem unjudged
    (within : lesser.Within known) (unjudged : known.Unjudged) :
    lesser.Unjudged where
  sameId issue record found := unjudged.sameId issue record (within issue record found)
  noVerdict issue record found := unjudged.noVerdict issue record (within issue record found)
  noMark issue record found := unjudged.noMark issue record (within issue record found)

theorem next?
    {tracker : Tracker} {id next : String}
    (within : lesser.Within known) (leads : lesser.next? tracker id = some next) :
    known.next? tracker id = some next := by
  obtain ⟨record, found, duplicated⟩ := Option.bind_eq_some_iff.mp leads
  exact Option.bind_eq_some_iff.mpr ⟨record, within _ record found, duplicated⟩

/-- A chain that can be followed can be followed with less knowledge. -/
theorem exists_endsAt
    {last : String}
    (within : lesser.Within known) (ends : known.EndsAt issue last) :
    ∃ early, lesser.EndsAt issue early := by
  have noSteps : ¬ CanStep (lesser.next? issue.tracker) Index.longestChain issue.id := by
    intro steps
    exact ends.not_canStep (steps.grow fun _ _ leads => within.next? leads)
  obtain ⟨ids, chain, short⟩ := (CanStep.not_iff _ _ _).mp noSteps
  obtain ⟨early, isLast⟩ := chain.exists_last
  exact ⟨early, ids, chain, short, isLast⟩

/-- With less knowledge a chain ends where it did, or at an issue that is lost. -/
theorem endsAt
    {early last : String}
    (within : lesser.Within known) (endsEarly : lesser.EndsAt issue early)
    (ends : known.EndsAt issue last) :
    early = last ∨ lesser ⟨issue.tracker, early⟩ = none := by
  obtain ⟨ids, chain, _, isEarly⟩ := endsEarly
  obtain ⟨others, further, _, isLast⟩ := ends
  cases found : lesser ⟨issue.tracker, early⟩ with
  | none => exact Or.inr rfl
  | some record =>
    -- the record is the same to both, so neither goes on from it
    have endsHere : known.next? issue.tracker early = none := by
      have noNext := chain.ends_at_last isEarly
      simp only [Knowledge.next?, found, within _ record found, Option.bind_some] at noNext ⊢
      exact noNext
    obtain ⟨rest, onward, isSuffix⟩ :=
      Trail.onward_of_grow chain isEarly (fun _ _ leads => within.next? leads) further
    have single : rest = [early] := onward.unique (.last endsHere)
    obtain ⟨front, whole⟩ := isSuffix
    rw [single] at whole
    rw [← whole, List.getLast?_append, List.getLast?_singleton, Option.some_or,
      Option.some.injEq] at isLast
    exact Or.inl isLast

theorem mem_foundClones
    {record clone : Record}
    (within : lesser.Within known) (member : clone ∈ lesser.foundClones record) :
    clone ∈ known.foundClones record := by
  obtain ⟨found, noFallback⟩ := List.mem_filter.mp member
  obtain ⟨id, named, isKnown⟩ := List.mem_filterMap.mp found
  have inKnown : clone ∈ record.cloneIds.filterMap fun id => known ⟨.bugzilla, id⟩ :=
    List.mem_filterMap.mpr ⟨id, named, within _ clone isKnown⟩
  exact List.mem_filter.mpr ⟨inKnown, noFallback⟩

theorem affects
    {tracker : Tracker} {version : Version} {record : Record}
    (within : lesser.Within known)
    (affected : (known.withFoundClones tracker record).affects tracker version = true) :
    (lesser.withFoundClones tracker record).affects tracker version = true := by
  cases tracker with
  | jira => exact affected
  | bugzilla =>
    by_cases noClones : record.clones.isEmpty = true
    · simp only [withFoundClones, noClones, if_true] at affected ⊢
      apply affects_of_fewer_clones (fun clone member => ?_) record .bugzilla version affected
      exact within.mem_foundClones member
    · simpa only [withFoundClones, noClones, Bool.false_eq_true, if_false] using affected

/-- What is open at the end of a chain is open at the end that is reached with less knowledge. -/
theorem openVerdict
    {version : Version} {early last : String}
    (within : lesser.Within known) (endsEarly : lesser.EndsAt issue early)
    (ends : known.EndsAt issue last)
    (isOpen : known.openVerdict version ⟨issue.tracker, last⟩ = true) :
    lesser.openVerdict version ⟨issue.tracker, early⟩ = true := by
  cases found : lesser ⟨issue.tracker, early⟩ with
  | none => simp only [Knowledge.openVerdict, found]
  | some record =>
    have same : early = last := by
      apply (within.endsAt endsEarly ends).resolve_right
      simp [found]
    subst same
    simp only [Knowledge.openVerdict, found, within _ record found] at isOpen ⊢
    exact within.affects isOpen

theorem obsoleteVerdict
    {early last : String}
    (within : lesser.Within known) (endsEarly : lesser.EndsAt issue early)
    (ends : known.EndsAt issue last)
    (isObsolete : lesser.obsoleteVerdict ⟨issue.tracker, early⟩ = true) :
    known.obsoleteVerdict ⟨issue.tracker, last⟩ = true := by
  cases found : lesser ⟨issue.tracker, early⟩ with
  | none => simp [Knowledge.obsoleteVerdict, found] at isObsolete
  | some record =>
    have same : early = last := by
      apply (within.endsAt endsEarly ends).resolve_right
      simp [found]
    subst same
    simp only [Knowledge.obsoleteVerdict, found, within _ record found] at isObsolete ⊢
    exact isObsolete

end Within

end Knowledge

/-! ## Trackers without credentials -/

variable {σ : Type} {sources : IssueSources σ} {known : Knowledge}

namespace Knowledge

/-- Whether every tracker that may be asked answers with the records that are known. -/
def TellsIfAllowed (known : Knowledge) (sources : IssueSources σ) : Prop :=
  ∀ tracker, (sources tracker).hasCredentials = true → known.Tells tracker (sources tracker)

/-- What is heard of what is known: nothing from a tracker without credentials. -/
def heardFrom (known : Knowledge) (sources : IssueSources σ) : Knowledge := fun issue =>
  if (sources issue.tracker).hasCredentials then known issue else none

theorem within_heardFrom
    (known : Knowledge) (sources : IssueSources σ) :
    (known.heardFrom sources).Within known := by
  intro issue record found
  by_cases allowed : (sources issue.tracker).hasCredentials = true
  · simpa [heardFrom, allowed] using found
  · simp [heardFrom, allowed] at found

theorem Answers.tellsIfAllowed
    (answers : known.Answers sources) :
    known.TellsIfAllowed sources :=
  fun tracker _ => answers.tells tracker

theorem Answers.heardFrom_eq
    (answers : known.Answers sources) :
    known.heardFrom sources = known := by
  funext issue
  simp [heardFrom, answers.hasCredentials issue.tracker]

theorem fetchRemote_of_silent
    {tracker : Tracker}
    (silent : (sources tracker).hasCredentials = false) (ids : List String) (run : Run σ) :
    (run.fetchRemote sources tracker ids).1 =
      ids.map fun id => Record.fallback id "no API key configured" := by
  simp [Run.fetchRemote, silent]

/-- A tracker delivers what is heard of it. -/
theorem TellsIfAllowed.delivery
    (tells : known.TellsIfAllowed sources) (unjudged : known.Unjudged) (version : Version)
    (tracker : Tracker) (ids : List String) (run : Run σ) :
    Delivery (Faithful (known.heardFrom sources) version) tracker ids
      (run.fetchRemote sources tracker ids).1 := by
  by_cases allowed : (sources tracker).hasCredentials = true
  · have heard : ∀ id, known.heardFrom sources ⟨tracker, id⟩ = known ⟨tracker, id⟩ := by
      intro id
      simp [heardFrom, allowed]
    have tellsHeard : (known.heardFrom sources).Tells tracker (sources tracker) := by
      refine ⟨allowed, fun ids memory => ?_⟩
      simp only [heard]
      exact (tells tracker allowed).outcome ids memory
    exact delivery_of_tells tellsHeard ((known.within_heardFrom sources).unjudged unjudged)
      version ids run
  · have unknown : ∀ id, known.heardFrom sources ⟨tracker, id⟩ = none := by
      intro id
      simp [heardFrom, allowed]
    rw [fetchRemote_of_silent (by simpa using allowed)]
    apply Delivery.of_map (fun _ _ => rfl)
    intro id _
    exact .missing "no API key configured" (unknown id) rfl

/-- The discipline of resolving with trackers of which some may be silent: it is that of trackers
which know no more than is heard. -/
def TellsIfAllowed.discipline
    (tells : known.TellsIfAllowed sources) (unjudged : known.Unjudged) (version : Version) :
    Discipline sources :=
  let heard := known.heardFrom sources
  let heardUnjudged := (known.within_heardFrom sources).unjudged unjudged
  { heard.freshDiscipline heard.toSources heard.answers_toSources heardUnjudged version with
    Calm := fun _ => True
    calm_note := fun _ _ => trivial
    remote := fun run _ _ _ => ⟨tells.delivery unjudged version _ _ run, trivial⟩ }

/-- Resolving succeeds exactly when what is heard leads to the end of each chain, and each issue is
judged there. -/
theorem TellsIfAllowed.resolve
    {run : Run σ}
    (tells : known.TellsIfAllowed sources) (unjudged : known.Unjudged) (blank : run.IsBlank) :
    ((run.resolve sources).1 = .ok () ↔
        ∀ issue, run.session.index.contains issue = true →
          ∃ last, (known.heardFrom sources).EndsAt issue last) ∧
      ((run.resolve sources).1 = .ok () →
        ∀ issue last, run.session.index.contains issue = true →
          (known.heardFrom sources).EndsAt issue last →
            (run.resolve sources).2.session.openStatus issue =
                .ok ((known.heardFrom sources).openVerdict run.session.serverVersion
                  ⟨issue.tracker, last⟩) ∧
              (run.resolve sources).2.session.deselectStatus issue =
                .ok ((known.heardFrom sources).obsoleteVerdict ⟨issue.tracker, last⟩)) := by
  have sound : (tells.discipline unjudged run.session.serverVersion).Sound run :=
    .of_noData rfl blank.noCache blank.noMemory trivial (fun _ _ => trivial) blank.noData
  rcases sound.resolve with
    ⟨after, outcome, progress, filled⟩ | ⟨failure, after, outcome, issue, isPending, overlong⟩
  · have found : ∀ issue, run.session.index.contains issue = true →
        ∃ answer, after.session.index.Answers issue answer ∧
          (known.heardFrom sources).IsAnswer run.session.serverVersion issue answer := by
      intro issue present
      have isKnown := filled issue.tracker issue.id (progress.contains issue present)
      obtain ⟨answer, answered⟩ := (progress.sound.settled issue.tracker).answers isKnown
      exact ⟨answer, answered, Faithful.isAnswer (progress.sound.held issue.tracker) answered⟩
    rw [outcome]
    refine ⟨⟨fun _ issue present => ?_, fun _ => rfl⟩, fun _ issue last present ends => ?_⟩
    · obtain ⟨_, _, last, ends, _⟩ := found issue present
      exact ⟨last, ends⟩
    · obtain ⟨answer, answered, isAnswer⟩ := found issue present
      have same := isAnswer.unique ⟨last, ends, rfl⟩
      subst same
      exact ⟨Session.answers_openStatus answered,
        Session.answers_deselectStatus (progress.sound.settled issue.tracker) answered⟩
  · have stuck : ¬ ∃ last, (known.heardFrom sources).EndsAt issue last := by
      rintro ⟨last, ends⟩
      obtain ⟨index, faithful, steps⟩ := overlong
      exact ends.not_canStep (Faithful.canStep faithful steps)
    have present := (Session.mem_pending_iff.mp isPending).2.1
    rw [outcome]
    refine ⟨⟨nofun, fun short => ?_⟩, nofun⟩
    exact absurd (short issue present) stuck

end Knowledge

/-- Whether two sessions judge an issue, and the second one is no less cautious: it keeps an open
issue open and does not make an issue obsolete that was not. -/
def Session.ErrsTowardsCaution (session other : Session) (issue : Reference) : Prop :=
  ∃ isOpen isObsolete stillOpen stillObsolete,
    session.openStatus issue = .ok isOpen ∧ session.deselectStatus issue = .ok isObsolete ∧
    other.openStatus issue = .ok stillOpen ∧ other.deselectStatus issue = .ok stillObsolete ∧
    (isOpen = true → stillOpen = true) ∧ (stillObsolete = true → isObsolete = true)

/-- Resolving the same issues, once with trackers that answer from `known` and once with trackers
that have lost some issues or their credentials. -/
theorem lost_knowledge_errs_towards_caution
    {τ : Type} (sources : IssueSources σ) (poorer : IssueSources τ) (known : Knowledge)
    (lost : Reference → Bool) (run : Run σ) (other : Run τ)
    (answers : known.Answers sources) (unjudged : known.Unjudged)
    (tells : (known.without lost).TellsIfAllowed poorer)
    (blank : run.IsBlank) (otherBlank : other.IsBlank)
    (sameVersion : other.session.serverVersion = run.session.serverVersion)
    (sameIndex : other.session.index = run.session.index)
    (resolved : (run.resolve sources).1 = .ok ()) :
    (other.resolve poorer).1 = .ok () ∧
      ∀ issue, run.session.index.contains issue = true →
        (run.resolve sources).2.session.ErrsTowardsCaution (other.resolve poorer).2.session
          issue := by
  have full := answers.tellsIfAllowed.resolve unjudged blank
  rw [answers.heardFrom_eq] at full
  have lostUnjudged := (known.within_without lost).unjudged unjudged
  have partly := tells.resolve lostUnjudged otherBlank
  rw [sameVersion, sameIndex] at partly
  have within : ((known.without lost).heardFrom poorer).Within known :=
    ((known.without lost).within_heardFrom poorer).trans (known.within_without lost)
  have ends := full.1.mp resolved
  have otherResolved : (other.resolve poorer).1 = .ok () := by
    apply partly.1.mpr
    intro issue present
    obtain ⟨last, isLast⟩ := ends issue present
    exact within.exists_endsAt isLast
  refine ⟨otherResolved, fun issue present => ?_⟩
  obtain ⟨last, isLast⟩ := ends issue present
  obtain ⟨early, isEarly⟩ := within.exists_endsAt isLast
  obtain ⟨openStatus, deselectStatus⟩ := full.2 resolved issue last present isLast
  obtain ⟨otherOpen, otherDeselect⟩ := partly.2 otherResolved issue early present isEarly
  exact ⟨_, _, _, _, openStatus, deselectStatus, otherOpen, otherDeselect,
    within.openVerdict isEarly isLast, within.obsoleteVerdict isEarly isLast⟩

/-- A duplicate of an obsolete issue, and an issue of the other tracker. -/
def obsoleteWithDuplicate : Knowledge :=
  .ofRecords
    [(⟨.bugzilla, "7"⟩, { id := "7", resolution := "DUPLICATE", duplicateOf := some "5" }),
      (⟨.bugzilla, "5"⟩, { id := "5", status := "CLOSED", resolution := "Obsolete" }),
      (⟨.jira, "A-1"⟩, { id := "A-1", status := "Closed", fixVersions := ["6.0"] })]

theorem unjudged_obsoleteWithDuplicate :
    obsoleteWithDuplicate.Unjudged := by
  refine ⟨?_, ?_, ?_⟩ <;>
  · intro issue record isKnown
    have member := Knowledge.mem_of_ofRecords isKnown
    simp only [List.mem_cons, Prod.mk.injEq, List.not_mem_nil, or_false] at member
    rcases member with ⟨rfl, rfl⟩ | ⟨rfl, rfl⟩ | ⟨rfl, rfl⟩ <;> rfl

/-- Trackers that answer from knowledge as far as they have credentials. -/
def Knowledge.toSourcesOf (known : Knowledge) (allowed : Tracker → Bool) : IssueSources Unit :=
  fun tracker => { known.toSources tracker with hasCredentials := allowed tracker }

theorem Knowledge.tellsIfAllowed_toSourcesOf
    (known : Knowledge) (allowed : Tracker → Bool) :
    known.TellsIfAllowed (known.toSourcesOf allowed) :=
  fun _ isAllowed => ⟨isAllowed, fun _ _ => rfl⟩

/-- The tracker of the duplicate has lost the issue that it leads to, and the other one is silent.
-/
def partlySilent : IssueSources Unit :=
  (obsoleteWithDuplicate.without (· == ⟨.bugzilla, "5"⟩)).toSourcesOf (· == .bugzilla)

/-- Tests that use the duplicate would be dropped, and are kept when it is not known where the
duplicate leads. -/
theorem lost_knowledge_errs_towards_caution_partlySilent :
    let start := Run.atStart Version.zero [⟨.bugzilla, "7"⟩, ⟨.jira, "A-1"⟩]
    let whole := (start.resolve obsoleteWithDuplicate.toSources).2.session
    let partly := (start.resolve partlySilent).2.session
    (whole.deselectStatus ⟨.bugzilla, "7"⟩ = .ok true ∧
        partly.deselectStatus ⟨.bugzilla, "7"⟩ = .ok false) ∧
      whole.ErrsTowardsCaution partly ⟨.bugzilla, "7"⟩ ∧
      whole.ErrsTowardsCaution partly ⟨.jira, "A-1"⟩ := by
  intro start whole partly
  have cautious := lost_knowledge_errs_towards_caution obsoleteWithDuplicate.toSources partlySilent
    obsoleteWithDuplicate (· == ⟨.bugzilla, "5"⟩) start start
    obsoleteWithDuplicate.answers_toSources unjudged_obsoleteWithDuplicate
    (Knowledge.tellsIfAllowed_toSourcesOf _ _) (Run.isBlank_atStart _ _) (Run.isBlank_atStart _ _)
    rfl rfl (by decide)
  exact ⟨by decide, cautious.2 _ (by decide), cautious.2 _ (by decide)⟩

end TestGate
