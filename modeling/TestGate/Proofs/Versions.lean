import TestGate.Proofs.Knowledge
import TestGate.Proofs.VersionOrder

/-!
Verdicts for equivalent versions. Main statement: equivalent versions compare alike with any other,
so that no verdict tells them apart.
-/

namespace TestGate

open Issue

section Equivalent

variable {written version : Version}

/-- A record affects equivalent versions alike. -/
theorem affects_of_equivalent
    (equivalent : written.equivalent version = true) (record : Record) (tracker : Tracker) :
    record.affects tracker written = record.affects tracker version := by
  have atMost : ∀ fixed : Version, fixed.atMost written = fixed.atMost version := by
    intro fixed
    rw [Version.atMost, Version.atMost, (Version.compare_congr equivalent fixed).2]
  have before : ∀ fixed : Version, written.before fixed = version.before fixed := by
    intro fixed
    rw [Version.before, Version.before, (Version.compare_congr equivalent fixed).1]
  have asClone : ∀ clone : Record, clone.fixesAsClone written = clone.fixesAsClone version := by
    intro clone
    simp only [Record.fixesAsClone, atMost]
  cases tracker with
  | bugzilla => simp only [Record.affects, Record.isFixedAt, atMost, asClone]
  | jira => simp only [Record.affects, before]

theorem Knowledge.openVerdict_of_equivalent
    (known : Knowledge) (equivalent : written.equivalent version = true) (issue : Reference) :
    known.openVerdict written issue = known.openVerdict version issue := by
  rw [openVerdict, openVerdict]
  cases known issue with
  | none => rfl
  | some record => exact affects_of_equivalent equivalent _ issue.tracker

/-- What is faithful for a version is faithful for an equivalent one. -/
theorem Faithful.of_equivalent
    {known : Knowledge} {issue : Reference} {record : Record}
    (equivalent : written.equivalent version = true)
    (faithful : Faithful known written issue record) :
    Faithful known version issue record := by
  cases faithful with
  | missing reason unknown same => exact .missing reason unknown same
  | found clones isOpen mark isKnown same fixes opened marked =>
    refine .found clones isOpen mark isKnown same fixes ?_ marked
    intro verdict judged
    obtain ⟨last, ends, isVerdict⟩ := opened verdict judged
    exact ⟨last, ends, isVerdict.trans (known.openVerdict_of_equivalent equivalent _)⟩

end Equivalent

end TestGate
