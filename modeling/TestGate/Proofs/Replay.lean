import TestGate.Proofs.Fates
import TestGate.Proofs.ValueTrees

/-!
Resolving from the records of an index that an earlier run has left behind. All records of that
index are settled, and every link of it leads to a record of it. Main statement: a run that begins
with these records as its cache asks nobody, and whatever it finds out is what the index answers.
-/

namespace TestGate

open Issue

/-! ## What an index answers -/

/-- The answer that an index holds about an issue. -/
def Issue.Index.answer? (index : Index) (issue : Reference) : Option Finding :=
  (index.record? issue).bind fun record =>
    record.isOpen.bind fun isOpen =>
      match index.canonical issue with
      | .ok (some target) => some ⟨isOpen, target.isObsolete issue.tracker⟩
      | _ => none

theorem Issue.Index.answer?_of_answers
    {index : Index} {issue : Reference} {answer : Finding}
    (answers : index.Answers issue answer) :
    index.answer? issue = some answer := by
  obtain ⟨record, target, known, isOpen, decides, isObsolete⟩ := answers
  rw [answer?, known, Option.bind_some, isOpen, Option.bind_some, canonical_of_decides decides]
  simp only
  rw [isObsolete]

theorem Issue.Index.Settled.answers_of_answer?
    {index : Index} {issue : Reference} {answer : Finding}
    (settled : index.Settled issue.tracker) (found : index.answer? issue = some answer) :
    index.Answers issue answer := by
  obtain ⟨record, known, _⟩ := Option.bind_eq_some_iff.mp found
  obtain ⟨other, answers⟩ := settled.answers (Option.isSome_iff_exists.mpr ⟨record, known⟩)
  rw [answer?_of_answers answers, Option.some.injEq] at found
  exact found ▸ answers

theorem Session.find?_recordsOf
    (index : Index) (issue : Reference) :
    (Session.recordsOf index).find? issue = index.record? issue := by
  apply Option.ext
  intro record
  refine (SortedMap.find?_ofList_eq_some_iff ?_ issue record).trans ?_
  · refine nodup_keys_filterMap ?_ index.keys_nodup
    rintro ⟨other, entry⟩ pair selected
    obtain ⟨_, _, rfl⟩ := Option.map_eq_some_iff.mp selected
    rfl
  rw [List.mem_filterMap]
  constructor
  · rintro ⟨⟨other, entry⟩, member, same⟩
    obtain ⟨found, isData, same⟩ := Option.map_eq_some_iff.mp same
    cases same
    have isEntry := (SortedMap.find?_eq_some_iff _ _ _).mpr member
    rw [Index.record?, isEntry, Option.bind_some, isData]
  · intro known
    obtain ⟨entry, isEntry, isData⟩ := Option.bind_eq_some_iff.mp known
    exact ⟨(issue, entry), (SortedMap.find?_eq_some_iff _ _ _).mp isEntry,
      Option.map_eq_some_iff.mpr ⟨record, isData, rfl⟩⟩

/-! ## Records from an index -/

/-- What a run leaves behind that has succeeded: all records have a verdict and stand under their
own ids. -/
structure Issue.Index.IsFinal (index : Index) : Prop where
  settled : ∀ tracker, index.Settled tracker
  sameId : ∀ issue record, index.record? issue = some record → record.id = issue.id

/-- Whether a record is the one that an index holds, or the same with the mark of an obsolete issue.
-/
def Replayed (final : Index) (issue : Reference) (record : Record) : Prop :=
  ∃ original, final.record? issue = some original ∧
    (record = original ∨
      record = { original with isDeselected := some true } ∧
        ∃ target, final.Decides issue target ∧ target.isObsolete issue.tracker = true)

namespace Replayed

variable {final index : Index} {issue : Reference} {record : Record}

theorem of_known
    (known : final.record? issue = some record) :
    Replayed final issue record :=
  ⟨record, known, Or.inl rfl⟩

/-- A replayed record differs from the one in the index at most in its mark. -/
theorem same_but_mark
    (replayed : Replayed final issue record) :
    ∃ original, final.record? issue = some original ∧ record.isOpen = original.isOpen ∧
      (∀ tracker, record.duplicated? tracker = original.duplicated? tracker) ∧
      ∀ tracker, record.isObsolete tracker = original.isObsolete tracker := by
  obtain ⟨original, known, rfl | ⟨rfl, _⟩⟩ := replayed
  · exact ⟨record, known, rfl, fun _ => rfl, fun _ => rfl⟩
  · exact ⟨original, known, rfl, fun _ => rfl, fun _ => rfl⟩

theorem link?
    {tracker : Tracker} {id next : String}
    (replayed : index.Throughout tracker (Replayed final))
    (leads : index.link? tracker id = some next) :
    final.link? tracker id = some next := by
  obtain ⟨record, known, duplicated⟩ := Index.record?_of_link? leads
  obtain ⟨original, isKnown, _, sameLink, _⟩ := (replayed id record known).same_but_mark
  rw [Index.link?_of_record? isKnown, ← sameLink, duplicated]

theorem decides
    {target : Record}
    (replayed : index.Throughout issue.tracker (Replayed final))
    (decides : index.Decides issue target) :
    ∃ original, final.Decides issue original ∧
      target.isObsolete issue.tracker = original.isObsolete issue.tracker := by
  have replaced : ∀ id record, index.record? ⟨issue.tracker, id⟩ = some record →
      ∃ original, final.record? ⟨issue.tracker, id⟩ = some original ∧
        (record.duplicated? issue.tracker = original.duplicated? issue.tracker ∧
          record.isObsolete issue.tracker = original.isObsolete issue.tracker) := by
    intro id record known
    obtain ⟨original, isKnown, _, sameLink, sameObsolete⟩ :=
      (replayed id record known).same_but_mark
    exact ⟨original, isKnown, sameLink issue.tracker, sameObsolete issue.tracker⟩
  obtain ⟨original, isDecided, _, sameObsolete⟩ :=
    decides.carry (fun _ _ alike => alike.1.symm) replaced
  exact ⟨original, isDecided, sameObsolete⟩

theorem answers
    {answer : Finding}
    (replayed : index.Throughout issue.tracker (Replayed final))
    (answers : index.Answers issue answer) :
    final.Answers issue answer := by
  obtain ⟨record, target, known, isOpen, decides, isObsolete⟩ := answers
  obtain ⟨original, isKnown, sameVerdict, _⟩ := (replayed issue.id record known).same_but_mark
  obtain ⟨last, isDecided, sameObsolete⟩ := Replayed.decides replayed decides
  exact ⟨original, last, isKnown, sameVerdict ▸ isOpen, isDecided, sameObsolete ▸ isObsolete⟩

end Replayed

/-! ## Worlds in which nothing is asked -/

variable {σ : Type}

/-- Whether nothing has been asked and nobody has waited since. -/
structure World.IsQuiet (before after : World σ) : Prop where
  memory : after.memory = before.memory
  calls : ∀ tracker, callsOf tracker after.journal = callsOf tracker before.journal
  waits : waitsOf after.journal = waitsOf before.journal

theorem World.IsQuiet.refl
    (world : World σ) :
    World.IsQuiet world world :=
  ⟨rfl, fun _ => rfl, rfl⟩

theorem World.IsQuiet.trans
    {first second third : World σ}
    (early : World.IsQuiet first second) (late : World.IsQuiet second third) :
    World.IsQuiet first third where
  memory := late.memory.trans early.memory
  calls tracker := (late.calls tracker).trans (early.calls tracker)
  waits := late.waits.trans early.waits

theorem World.isQuiet_noteAll
    (world : World σ) (notices : List Notice) :
    World.IsQuiet world (world.noteAll notices) where
  memory := rfl
  calls tracker := by
    simp [World.noteAll, World.record, callsOf, List.filterMap_append, List.filterMap_map]
  waits := by
    simp [World.noteAll, World.record, waitsOf, List.filterMap_append, List.filterMap_map]

/-! ## The discipline of a replay -/

namespace Issue.Index.IsFinal

variable {final : Index} {sources : IssueSources σ}

/-- A record of a final index can be followed to the record that decides about it. -/
theorem not_canStep
    {issue : Reference}
    (isFinal : final.IsFinal) (known : (final.record? issue).isSome = true) :
    ¬ CanStep (final.link? issue.tracker) longestChain issue.id := by
  obtain ⟨answer, _, target, _, _, decides, _⟩ := (isFinal.settled issue.tracker).answers known
  exact decides.not_canStep

theorem judged
    {issue : Reference} {record : Record}
    (isFinal : final.IsFinal) (known : final.record? issue = some record) :
    record.isOpen ≠ none := by
  intro noVerdict
  obtain ⟨isSome, _⟩ := isFinal.settled issue.tracker issue.id record known
  rw [noVerdict] at isSome
  cases isSome

/-- The discipline of resolving from the records of a final index. Only issues of that index come
up, so that there is never a reason to ask. -/
def replay
    (isFinal : final.IsFinal) (sources : IssueSources σ) (version : Version) (start : World σ) :
    Discipline sources where
  version := version
  stock := Session.recordsOf final
  Good := fun issue record => final.record? issue = some record
  Askable := fun issue => (final.record? issue).isSome = true
  Calm := World.IsQuiet start
  Listed := fun issue => (final.record? issue).isSome = true
  Ready := fun issue record => final.record? issue = some record
  Held := Replayed final
  stocked {issue record} found := by
    rw [Session.find?_recordsOf] at found
    exact ⟨isFinal.sameId issue record found, found⟩
  calm_note notice quiet := quiet.trans (World.isQuiet_noteAll _ [notice])
  remote {tracker ids} run nonempty unstocked _ := by
    obtain ⟨id, member⟩ := List.exists_mem_of_ne_nil ids nonempty
    obtain ⟨askable, unknown⟩ := unstocked id member
    rw [Session.find?_recordsOf] at unknown
    rw [unknown] at askable
    cases askable
  held_of_good := .of_known
  held_of_ready := .of_known
  askable_of_listed := id
  listed_of_link {issue record next} replayed leads := by
    obtain ⟨original, known, _, sameLink, _⟩ := replayed.same_but_mark
    refine (isFinal.settled issue.tracker).closed issue.id next ?_
    rw [link?_of_record? (show final.record? ⟨issue.tracker, issue.id⟩ = some original from known),
      ← sameLink, leads]
  askable_clone replayed _ needed _ := by
    obtain ⟨original, known, sameVerdict, _⟩ := replayed.same_but_mark
    exact absurd (sameVerdict.symm.trans (Session.noVerdict_of_needsClones needed))
      (isFinal.judged known)
  ready_of_good known _ := known
  ready_of_clones known _ needed _ _ :=
    absurd (Session.noVerdict_of_needsClones needed) (isFinal.judged known)
  short_of_judged issue _ replayed _ known _ steps := by
    refine isFinal.not_canStep (Option.isSome_iff_exists.mpr ⟨_, known⟩) ?_
    exact steps.grow fun _ _ leads => Replayed.link? replayed leads
  mark_of_ready issue _ _ _ replayed _ known decides marked := by
    obtain ⟨original, isDecided, sameObsolete⟩ := Replayed.decides replayed decides
    obtain ⟨_, target, finalDecides, marks⟩ := isFinal.settled issue.tracker issue.id _ known
    rw [marks _ marked, finalDecides.unique isDecided, sameObsolete]
  held_verdict issue _ _ replayed _ known noVerdict _ := by
    obtain ⟨original, isKnown, sameVerdict, _⟩ := (replayed issue.id _ known).same_but_mark
    exact absurd (sameVerdict.symm.trans noVerdict) (isFinal.judged isKnown)
  held_marked issue _ _ replayed known decides isObsolete := by
    obtain ⟨original, isDecided, sameObsolete⟩ := Replayed.decides replayed decides
    have finalObsolete := sameObsolete.symm.trans isObsolete
    obtain ⟨source, isKnown, same | ⟨same, _⟩⟩ := replayed issue.id _ known
    · exact ⟨source, isKnown, Or.inr ⟨by rw [same], original, isDecided, finalObsolete⟩⟩
    · exact ⟨source, isKnown, Or.inr ⟨by rw [same], original, isDecided, finalObsolete⟩⟩

/-- The answers of a final index may be relied on in a replay. -/
theorem reliable
    (isFinal : final.IsFinal) (sources : IssueSources σ) (version : Version) (start : World σ) :
    (isFinal.replay sources version start).Reliable final.answer? where
  listed issue answer found := by
    obtain ⟨record, known, _⟩ := Option.bind_eq_some_iff.mp found
    exact Option.isSome_iff_exists.mpr ⟨record, known⟩
  notOverlong issue answer found overlong := by
    obtain ⟨record, known, _⟩ := Option.bind_eq_some_iff.mp found
    obtain ⟨index, replayed, steps⟩ := overlong
    refine isFinal.not_canStep (Option.isSome_iff_exists.mpr ⟨record, known⟩) ?_
    exact steps.grow fun _ _ leads => Replayed.link? replayed leads
  agrees run sound issue answer found expected held := by
    have answers : final.Answers issue answer :=
      (isFinal.settled issue.tracker).answers_of_answer? expected
    exact (Replayed.answers (sound.held issue.tracker) held).unique answers

/-- A run that begins with the records of a final index as its cache, without data of its own and
about issues of that index, reports what follows from the answers of that index, and asks nobody. -/
theorem resolveAndReport
    {run : Run σ} {filters : Filters} {items : List CollectedItem} {reports : List ItemReport}
    (isFinal : final.IsFinal)
    (cached : run.session.cached = Session.recordsOf final)
    (nothingRemembered : run.session.remembered = [])
    (noData : ∀ issue, run.session.index.record? issue = none)
    (contained : ∀ issue, run.session.index.contains issue = true →
      (final.record? issue).isSome = true)
    (expected : fates? final.answer? filters items = some reports) :
    ∃ after, run.resolveAndReport sources filters items = (.ok ⟨reports⟩, after) ∧
      World.IsQuiet run.world after.world := by
  let discipline := isFinal.replay sources run.session.serverVersion run.world
  have sound : discipline.Sound run :=
    .of_noData rfl cached nothingRemembered (.refl _) contained noData
  have short : ∀ issue, run.session.index.contains issue = true → ¬ discipline.Overlong issue := by
    rintro issue present ⟨index, replayed, steps⟩
    refine isFinal.not_canStep (contained issue present) ?_
    exact steps.grow fun _ _ leads => Replayed.link? replayed leads
  have reliable := isFinal.reliable sources run.session.serverVersion run.world
  obtain ⟨after, outcome, progress⟩ := reliable.resolveAndReport sound short expected
  exact ⟨after, outcome, progress.sound.feeds.calm⟩

end Issue.Index.IsFinal

end TestGate
