import TestGate.Proofs.Versions

/-!
What the verdict on a record depends on. An issue does not affect a server when it is neither
unfinished nor left unfixed and some version that names a fix lies at or below that of the server;
so only the set of these versions counts. Main statement: a later server is not affected by what did
not affect an earlier one, more clones never open an issue, and neither the order in which a record
lists things nor the way a version is written matters.
-/

namespace TestGate

open Issue

namespace Issue.Record

/-! ## Named fixes -/

/-- The versions that a record names as those that fixed its issue: for Bugzilla its target
milestone if that is a version, else those of its acknowledged flags. -/
def namedFixes (record : Record) : Tracker → List Version
  | .bugzilla =>
    match record.targetMilestone.bind Version.parse? with
    | some milestone => [milestone]
    | none =>
      (record.flags.filter acknowledgesVersion).filterMap fun flag => Version.extract? flag.name
  | .jira => record.fixVersions.filterMap Version.extract?

/-- Whether some named fix lies at or below a version. -/
def NamesFixFor (record : Record) (tracker : Tracker) (version : Version) : Prop :=
  ∃ fixed ∈ record.namedFixes tracker, fixed.atMost version = true

theorem NamesFixFor.later
    {record : Record} {tracker : Tracker} {version later : Version}
    (names : record.NamesFixFor tracker version) (follows : version.atMost later = true) :
    record.NamesFixFor tracker later := by
  obtain ⟨fixed, member, below⟩ := names
  exact ⟨fixed, member, Version.atMost_trans below follows⟩

theorem bugzillaFixVersion?_eq
    (record : Record) :
    record.bugzillaFixVersion? = Version.earliest? (record.namedFixes .bugzilla) := by
  rw [bugzillaFixVersion?, namedFixes]
  cases record.targetMilestone.bind Version.parse? <;> rfl

/-- A clone brings the fix to a server when it is finished, was not left unfixed, and names a fix
for it. -/
theorem fixesAsClone_iff
    {clone : Record} {version : Version} :
    clone.fixesAsClone version = true ↔
      (Vocabulary.bugzilla.isFinished clone = true ∧ Vocabulary.bugzilla.isUnfixed clone = false) ∧
        clone.NamesFixFor .bugzilla version := by
  rw [fixesAsClone, bugzillaFixVersion?_eq, Bool.and_eq_true, Bool.and_eq_true,
    Bool.not_eq_true', Version.any_earliest?_iff]
  rfl

theorem fixesAsClone_later
    {clone : Record} {version later : Version}
    (follows : version.atMost later = true) (fixes : clone.fixesAsClone version = true) :
    clone.fixesAsClone later = true := by
  rw [fixesAsClone_iff] at fixes ⊢
  exact ⟨fixes.1, fixes.2.later follows⟩

/-- An issue does not affect a server when it is neither unfinished nor left unfixed, and it names
no fix at all or one for the server, or a clone brings one. -/
theorem affects_eq_false_iff
    {record : Record} {tracker : Tracker} {version : Version} :
    record.affects tracker version = false ↔
      (tracker.vocabulary.isUnfinished record = false ∧
        tracker.vocabulary.isUnfixed record = false) ∧
        (record.namedFixes tracker = [] ∨ record.NamesFixFor tracker version ∨
          tracker = .bugzilla ∧ ∃ clone ∈ record.clones, clone.fixesAsClone version = true) := by
  cases tracker with
  | bugzilla =>
    simp only [affects, Bool.or_eq_false_iff, Bool.not_eq_false', isFixedAt, Bool.or_eq_true,
      bugzillaFixVersion?_eq, Version.earliest?_getD_zero_atMost_iff, List.any_eq_true, or_assoc,
      true_and]
    rfl
  | jira =>
    simp only [affects, Bool.or_eq_false_iff, Version.before_eq_not_atMost, Bool.not_eq_false',
      jiraFixVersion, Version.earliest?_getD_zero_atMost_iff, reduceCtorEq, false_and, or_false]
    rfl

/-! ## Laws -/

/-- Later servers are not affected either. -/
theorem affects_later
    {record : Record} {tracker : Tracker} {version later : Version}
    (follows : version.atMost later = true) (closed : record.affects tracker version = false) :
    record.affects tracker later = false := by
  rw [affects_eq_false_iff] at closed ⊢
  obtain ⟨notOpen, fixed⟩ := closed
  refine ⟨notOpen, ?_⟩
  rcases fixed with unnamed | names | ⟨isBugzilla, clone, member, fixes⟩
  · exact Or.inl unnamed
  · exact Or.inr (Or.inl (names.later follows))
  · exact Or.inr (Or.inr ⟨isBugzilla, clone, member, fixesAsClone_later follows fixes⟩)

/-- Clones only ever close an issue. -/
theorem affects_append_clones
    {record : Record} {version : Version}
    (closed : record.affects .bugzilla version = false) (more : List Record) :
    ({ record with clones := record.clones ++ more } : Record).affects .bugzilla version = false := by
  rw [affects_eq_false_iff] at closed ⊢
  obtain ⟨notOpen, fixed⟩ := closed
  refine ⟨notOpen, ?_⟩
  rcases fixed with unnamed | names | ⟨isBugzilla, clone, member, fixes⟩
  · exact Or.inl unnamed
  · exact Or.inr (Or.inl names)
  · exact Or.inr (Or.inr ⟨isBugzilla, clone, List.mem_append_left more member, fixes⟩)

/-- Records with the same status and resolution affect a server alike when they name the same fixes
and have the same clones. -/
theorem affects_congr
    {record other : Record} {tracker : Tracker}
    (sameStatus : other.status = record.status)
    (sameResolution : other.resolution = record.resolution)
    (sameFixes : ∀ fixed, fixed ∈ other.namedFixes tracker ↔ fixed ∈ record.namedFixes tracker)
    (sameClones : ∀ clone, clone ∈ other.clones ↔ clone ∈ record.clones) (version : Version) :
    other.affects tracker version = record.affects tracker version := by
  have alike : other.affects tracker version = false ↔ record.affects tracker version = false := by
    simp only [affects_eq_false_iff, NamesFixFor, List.eq_nil_iff_forall_not_mem, sameFixes,
      sameClones, Vocabulary.isUnfixed, Vocabulary.isUnfinished, Vocabulary.isFinished, sameStatus,
      sameResolution]
  rw [Bool.eq_iff_iff, ← not_iff_not, Bool.not_eq_true, Bool.not_eq_true]
  exact alike

theorem mem_namedFixes_of_perm
    {record : Record} {fixVersions : List String} {flags : List Flag}
    (sameVersions : fixVersions.Perm record.fixVersions) (sameFlags : flags.Perm record.flags)
    (clones : List Record) (tracker : Tracker) (fixed : Version) :
    fixed ∈ ({ record with fixVersions, flags, clones } : Record).namedFixes tracker ↔
      fixed ∈ record.namedFixes tracker := by
  cases tracker with
  | bugzilla =>
    simp only [namedFixes]
    split
    · exact Iff.rfl
    · exact ((sameFlags.filter _).filterMap _).mem_iff
  | jira => exact (sameVersions.filterMap _).mem_iff

/-- The order of fix versions, flags and clones does not count. -/
theorem affects_perm
    {record : Record} {fixVersions : List String} {flags : List Flag} {clones : List Record}
    (sameVersions : fixVersions.Perm record.fixVersions) (sameFlags : flags.Perm record.flags)
    (sameClones : clones.Perm record.clones) (tracker : Tracker) (version : Version) :
    ({ record with fixVersions, flags, clones } : Record).affects tracker version =
      record.affects tracker version := by
  refine affects_congr ?_ ?_ ?_ ?_ version
  · rfl
  · rfl
  · exact mem_namedFixes_of_perm sameVersions sameFlags clones tracker
  · exact fun _ => sameClones.mem_iff

end Issue.Record

/-- Whether an issue affects a server: not a later one if not an earlier one, and a Bugzilla issue
not for having more clones; and this depends neither on the order of the fix versions, flags and
clones of its record nor on zeros at the end of the version of the server. -/
theorem verdicts_are_monotone_and_order_free
    (record : Record) :
    (∀ tracker version later, version.atMost later = true →
        record.affects tracker version = false → record.affects tracker later = false) ∧
      (∀ version more, record.affects .bugzilla version = false →
        ({ record with clones := record.clones ++ more } : Record).affects .bugzilla version =
          false) ∧
      (∀ tracker version fixVersions flags clones, fixVersions.Perm record.fixVersions →
        flags.Perm record.flags → clones.Perm record.clones →
          ({ record with fixVersions, flags, clones } : Record).affects tracker version =
            record.affects tracker version) ∧
      ∀ tracker version other, version.equivalent other = true →
        record.affects tracker version = record.affects tracker other := by
  refine ⟨?_, ?_, ?_, ?_⟩
  · exact fun tracker version later follows closed => Record.affects_later follows closed
  · exact fun version more closed => Record.affects_append_clones closed more
  · exact fun tracker version fixVersions flags clones sameVersions sameFlags sameClones =>
      Record.affects_perm sameVersions sameFlags sameClones tracker version
  · exact fun tracker version other same => affects_of_equivalent same record tracker

/-- An issue that is fixed late itself and earlier in a clone. -/
def fixedInClone : Record where
  id := "7"
  status := "CLOSED"
  resolution := "ERRATA"
  flags := [⟨"sat-6.14.0", "+"⟩, ⟨"sat-6.13.0", "+"⟩]
  clones := [{ id := "8", status := "VERIFIED", targetMilestone := some "6.11.2" }]

theorem verdicts_are_monotone_and_order_free_fixedInClone :
    fixedInClone.affects .bugzilla ⟨[6, 11], nofun⟩ = true ∧
      fixedInClone.affects .bugzilla ⟨[6, 11, 2], nofun⟩ = false ∧
      ({ fixedInClone with flags := fixedInClone.flags.reverse } : Record).affects .bugzilla
          ⟨[6, 11, 2, 0], nofun⟩ = false ∧
      fixedInClone.affects .bugzilla ⟨[6, 12], nofun⟩ = false := by
  obtain ⟨later, _, rearranged, equivalent⟩ := verdicts_are_monotone_and_order_free fixedInClone
  have closed : fixedInClone.affects .bugzilla ⟨[6, 11, 2], nofun⟩ = false := by decide +kernel
  refine ⟨by decide +kernel, closed, ?_, later .bugzilla _ ⟨[6, 12], nofun⟩ (by decide) closed⟩
  have moved := rearranged .bugzilla ⟨[6, 11, 2, 0], nofun⟩ fixedInClone.fixVersions
    fixedInClone.flags.reverse fixedInClone.clones (.refl _) (List.reverse_perm _) (.refl _)
  rw [← closed, equivalent .bugzilla ⟨[6, 11, 2], nofun⟩ ⟨[6, 11, 2, 0], nofun⟩ (by decide)]
  exact moved

end TestGate
