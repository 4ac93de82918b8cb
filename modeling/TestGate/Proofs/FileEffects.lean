import TestGate.Proofs.OfflineReplay

/-!
What the commands do to files, whatever the trackers answer. All that a collection pass reads it
reads before it writes anything, and it writes only when it has come to a report. Main statement:
`check` changes no file, and a collection pass writes one text to the cache files that were asked
for and did not exist, or else it has failed; a failure before the first write changes no file.
-/

namespace TestGate

open Issue

/-! ## One text for several files -/

section Writing

variable {φ : Type} [Storage φ]

/-- Whether some files come out of others when one text is written to some paths in turn. -/
inductive Storage.Wrote (text : String) : φ → List Path → φ → Prop
  | nothing (files : φ) : Wrote text files [] files
  | next {files middle last : φ} {path : Path} {paths : List Path}
      (first : Storage.write files path text = .ok middle) (rest : Wrote text middle paths last) :
      Wrote text files (path :: paths) last

/-- Whether writing one text to some paths in turn has failed at one of them. -/
def Storage.CutShort (text : String) (files : φ) (paths : List Path) (last : φ)
    (failure : Failure) :
    Prop :=
  ∃ written path rest message, paths = written ++ path :: rest ∧
    Storage.Wrote text files written last ∧ Storage.write last path text = .error message ∧
      failure = .cache path.text message

namespace Cache.Plan

/-- The failure of writing files in turn is that of one write, and all before it are done. -/
theorem writeAll_cases
    (text : String) (files : φ) (paths : List Path) :
    let stored := writeAll text files paths
    stored.failure = none ∧ Storage.Wrote text files paths stored.files ∨
      ∃ failure, stored.failure = some failure ∧
        Storage.CutShort text files paths stored.files failure := by
  induction paths generalizing files with
  | nil => exact Or.inl ⟨rfl, .nothing files⟩
  | cons path paths inductionHypothesis =>
    rw [writeAll]
    cases writing : Storage.write files path text with
    | error message =>
      exact Or.inr ⟨_, rfl, [], path, paths, message, rfl, .nothing files, writing, rfl⟩
    | ok middle =>
      rcases inductionHypothesis middle with ⟨noFailure, wrote⟩ | ⟨failure, failed, cut⟩
      · exact Or.inl ⟨noFailure, .next writing wrote⟩
      · obtain ⟨written, other, rest, message, split, wrote, failedThere, isFailure⟩ := cut
        refine Or.inr ⟨failure, failed, path :: written, other, rest, message, ?_, ?_,
          failedThere, isFailure⟩
        · rw [split, List.cons_append]
        · exact .next writing wrote

theorem wrote_of_writeAll
    {text : String} {files : φ} {paths : List Path}
    (success : (writeAll text files paths).failure = none) :
    Storage.Wrote text files paths (writeAll text files paths).files := by
  rcases writeAll_cases text files paths with ⟨_, wrote⟩ | ⟨failure, failed, _⟩
  · exact wrote
  · rw [success] at failed
    cases failed

end Cache.Plan

/-- The paths of the cache files that are asked for and do not exist. -/
def CacheChoice.missing (cache : CacheChoice) (files : φ) : List Path :=
  cache.paths.filter fun path => !Storage.contains files path

namespace Cache.Plan

/-- What is to be written is settled by what exists at the start. -/
theorem pending_eq_missing
    (cache : CacheChoice) (files : φ) :
    (make files cache.directory cache.requested).pending = cache.missing files := by
  rw [pending, CacheChoice.missing, CacheChoice.paths, List.filter_map]
  congr 1
  refine List.filter_congr fun tracker asked => ?_
  have sameAnswer : (make files cache.directory cache.requested).existing.contains tracker =
      Storage.contains files (filePath cache.directory tracker) := by
    rw [Bool.eq_iff_iff, List.contains_iff_mem, make, List.mem_filter]
    exact and_iff_right asked
  rw [sameAnswer, Function.comp_apply]

end Cache.Plan

/-! ## The commands -/

variable {σ : Type} {settings : Settings} {sources : IssueSources σ} {occasion : Occasion}
  {manifest : Path} {filters : Filters} {cache : CacheChoice} {files : φ} {world : World σ}

/-- A look at single issues writes nothing, be it a success or a failure. -/
theorem files_of_checkIssues
    (settings : Settings) (sources : IssueSources σ) (issues : List Reference)
    (cache : CacheChoice) (files : φ) (world : World σ) :
    (checkIssues settings sources issues cache files world).files = files := by
  simp only [checkIssues]
  cases (Cache.Plan.make files cache.directory cache.requested).load files
      settings.serverVersion with
  | error failure => rfl
  | ok cached => rfl

/-- Storing writes the files that are missing, also if no cache file is asked for. -/
theorem storeAfter_eq
    (runMeta : Cache.RunMeta) (report : Report) (files : φ) (run : Run σ) :
    let stored := Cache.Plan.writeAll (Cache.render run.session.index runMeta) files
      (cache.missing files)
    let conclusion := storeAfter (Cache.Plan.make files cache.directory cache.requested) runMeta
      report files run
    conclusion.files = stored.files ∧
      conclusion.outcome =
        match stored.failure with
        | some failure => .error failure
        | none => .ok report := by
  rw [← Cache.Plan.pending_eq_missing]
  simp only [storeAfter]
  by_cases nothingAsked :
      (Cache.Plan.make files cache.directory cache.requested).isEmpty = true
  · have noneAsked : cache.requested = [] := List.isEmpty_iff.mp nothingAsked
    rw [if_pos nothingAsked, noneAsked]
    exact ⟨rfl, rfl⟩
  · rw [if_neg nothingAsked]
    exact ⟨rfl, rfl⟩

/-- A pass fails with all files as they were, or it has come to a report and writes. -/
theorem collectTests_cases
    (settings : Settings) (sources : IssueSources σ) (occasion : Occasion) (manifest : Path)
    (filters : Filters) (cache : CacheChoice) (files : φ) (world : World σ) :
    let conclusion := collectTests settings sources occasion manifest filters cache files world
    (∃ failure, conclusion.outcome = .error failure ∧ conclusion.files = files) ∨
      ∃ report text,
        conclusion.files = (Cache.Plan.writeAll text files (cache.missing files)).files ∧
          conclusion.outcome =
            match (Cache.Plan.writeAll text files (cache.missing files)).failure with
            | some failure => .error failure
            | none => .ok report := by
  intro conclusion
  cases decided : decided? settings sources manifest filters cache files world with
  | none =>
    obtain ⟨failure, last, failed⟩ : ∃ failure last, conclusion = ⟨.error failure, files, last⟩ :=
      collectTests_of_undecided decided
    exact Or.inl ⟨failure, congrArg Conclusion.outcome failed, congrArg Conclusion.files failed⟩
  | some result =>
    obtain ⟨report, run⟩ := result
    have stores : conclusion = _ := collectTests_of_decided decided
    rw [stores]
    exact Or.inr ⟨report, _, storeAfter_eq (occasion.runMeta settings) report files run⟩

/-- A pass that has failed has changed no file, unless one of the missing files could not be
written. -/
theorem files_of_collectTests_error
    {failure : Failure}
    (failed : (collectTests settings sources occasion manifest filters cache files world).outcome =
      .error failure) :
    (collectTests settings sources occasion manifest filters cache files world).files = files ∨
      ∃ text, Storage.CutShort text files (cache.missing files)
        (collectTests settings sources occasion manifest filters cache files world).files
        failure := by
  rcases collectTests_cases settings sources occasion manifest filters cache files world with
    ⟨_, _, unchanged⟩ | ⟨report, text, sameFiles, outcome⟩
  · exact Or.inl unchanged
  · rw [failed] at outcome
    rw [sameFiles]
    rcases Cache.Plan.writeAll_cases text files (cache.missing files) with
      ⟨noFailure, _⟩ | ⟨other, isFailure, cut⟩
    · rw [noFailure] at outcome
      cases outcome
    · rw [isFailure] at outcome
      cases outcome
      exact Or.inr ⟨text, cut⟩

/-- A pass that has succeeded has written all missing files. -/
theorem files_of_collectTests_ok
    {report : Report}
    (ok : (collectTests settings sources occasion manifest filters cache files world).outcome =
      .ok report) :
    ∃ text,
      (collectTests settings sources occasion manifest filters cache files world).files =
          (Cache.Plan.writeAll text files (cache.missing files)).files ∧
        (Cache.Plan.writeAll text files (cache.missing files)).failure = none := by
  rcases collectTests_cases settings sources occasion manifest filters cache files world with
    ⟨_, failed, _⟩ | ⟨other, text, sameFiles, outcome⟩
  · rw [failed] at ok
    cases ok
  · refine ⟨text, sameFiles, ?_⟩
    rw [ok] at outcome
    cases isFailure : (Cache.Plan.writeAll text files (cache.missing files)).failure with
    | none => rfl
    | some failure =>
      rw [isFailure] at outcome
      cases outcome

end Writing

/-! ## Files in memory -/

/-- The missing files are those asked for under whose names there is nothing. -/
theorem CacheChoice.mem_missing_iff
    {cache : CacheChoice} {store : FileStore} {path : Path} :
    path ∈ cache.missing store ↔ path ∈ cache.paths ∧ store.text? path = none := by
  rw [missing, List.mem_filter]
  refine and_congr_right fun _ => ?_
  change (!(store.text? path).isSome) = true ↔ _
  simp

/-- Writing the missing files leaves alone what exists and what is not asked for. -/
theorem CacheChoice.text?_of_spares
    {cache : CacheChoice} {store : FileStore} {text : String} {path : Path}
    (success : (Cache.Plan.writeAll text store (cache.missing store)).failure = none)
    (spared : cache.Spares path ∨ (store.text? path).isSome = true) :
    (Cache.Plan.writeAll text store (cache.missing store)).files.text? path =
      store.text? path := by
  rw [Cache.Plan.text?_writeAll success, if_neg]
  intro isWritten
  obtain ⟨other, isMissing, sameKey⟩ := List.mem_map.mp isWritten
  obtain ⟨isAsked, nothingThere⟩ := mem_missing_iff.mp isMissing
  rcases spared with notAsked | present
  · exact notAsked (sameKey ▸ List.mem_map_of_mem isAsked)
  · have sameText : store.text? other = store.text? path :=
      congrArg store.files.find? sameKey
    rw [← sameText, nothingThere] at present
    cases present

/-! ## What the commands leave behind -/

/-- What the commands do to the files of any storage, and to files in memory. -/
theorem commands_write_missing_caches_only
    {φ σ : Type} [Storage φ] (settings : Settings) (sources : IssueSources σ)
    (occasion : Occasion) (form : ReportForm) (cache : CacheChoice) (world : World σ) :
    (∀ (issues : List Reference) (files : φ),
        ((Command.check issues form cache).perform settings sources occasion files world).files =
          files) ∧
      ∀ (manifest : Path) (bugzillaIds jiraKeys : Option (List String)),
        let command : Command := .collect manifest bugzillaIds jiraKeys form cache
        (∀ (files : φ) (failure : Failure),
            let conclusion := command.perform settings sources occasion files world
            conclusion.outcome = .error failure →
              conclusion.files = files ∨
                ∃ text, Storage.CutShort text files (cache.missing files) conclusion.files
                  failure) ∧
          (∀ (files : φ) (report : String),
            let conclusion := command.perform settings sources occasion files world
            conclusion.outcome = .ok report →
              ∃ text, Storage.Wrote text files (cache.missing files) conclusion.files) ∧
          ∀ (store : FileStore) (report : String),
            let conclusion := command.perform settings sources occasion store world
            conclusion.outcome = .ok report →
              ∃ text,
                (∀ path ∈ cache.paths, store.text? path = none →
                  conclusion.files.text? path = some text) ∧
                ∀ path, cache.Spares path ∨ (store.text? path).isSome = true →
                  conclusion.files.text? path = store.text? path := by
  refine ⟨fun issues files => files_of_checkIssues settings sources issues cache files world, ?_⟩
  intro manifest bugzillaIds jiraKeys command
  refine ⟨?_, ?_, ?_⟩
  · intro files failure conclusion failed
    exact files_of_collectTests_error (Results.map_eq_error_iff.mp failed)
  · intro files report conclusion ok
    obtain ⟨collected, succeeded, _⟩ := Results.map_eq_ok_iff.mp ok
    obtain ⟨text, sameFiles, noFailure⟩ := files_of_collectTests_ok succeeded
    replace sameFiles : conclusion.files =
        (Cache.Plan.writeAll text files (cache.missing files)).files := sameFiles
    refine ⟨text, ?_⟩
    rw [sameFiles]
    exact Cache.Plan.wrote_of_writeAll noFailure
  · intro store report conclusion ok
    obtain ⟨collected, succeeded, _⟩ := Results.map_eq_ok_iff.mp ok
    obtain ⟨text, sameFiles, noFailure⟩ := files_of_collectTests_ok succeeded
    replace sameFiles : conclusion.files =
        (Cache.Plan.writeAll text store (cache.missing store)).files := sameFiles
    refine ⟨text, fun path asked nothingThere => ?_, fun path spared => ?_⟩
    · have isMissing := CacheChoice.mem_missing_iff.mpr ⟨asked, nothingThere⟩
      rw [sameFiles, Cache.Plan.text?_writeAll noFailure, if_pos (List.mem_map_of_mem isMissing)]
    · rw [sameFiles]
      exact CacheChoice.text?_of_spares noFailure spared

theorem commands_write_missing_caches_only_guardedTest :
    let cache : CacheChoice := ⟨[.bugzilla, .jira], ⟨"."⟩⟩
    let perform (command : Command) := command.perform (.forVersion "6.10.z") patchySources
      ⟨default, "first", [], ""⟩ guardedTest ⟨(), []⟩
    let collected := (perform (.collect ⟨"tests.json"⟩ none none .text cache)).files
    (perform (.check [⟨.bugzilla, "7"⟩] .text cache)).files = guardedTest ∧
      (∃ text, Storage.Wrote text guardedTest (cache.missing guardedTest) collected) ∧
      (∃ text, collected.text? (Cache.filePath ⟨"."⟩ .bugzilla) = some text ∧
        collected.text? (Cache.filePath ⟨"."⟩ .jira) = some text) ∧
      collected.text? ⟨"tests.json"⟩ = guardedTest.text? ⟨"tests.json"⟩ ∧
      ((perform (.collect ⟨"absent.json"⟩ none none .text cache)).files = guardedTest ∨
        ∃ text failure, Storage.CutShort text guardedTest (cache.missing guardedTest)
          (perform (.collect ⟨"absent.json"⟩ none none .text cache)).files failure) := by
  intro cache perform collected
  obtain ⟨checks, collects⟩ := commands_write_missing_caches_only (φ := FileStore)
    (.forVersion "6.10.z") patchySources ⟨default, "first", [], ""⟩ .text cache ⟨(), []⟩
  obtain ⟨_, writes, files⟩ := collects ⟨"tests.json"⟩ none none
  obtain ⟨fails, _⟩ := collects ⟨"absent.json"⟩ none none
  have succeeds : (perform (.collect ⟨"tests.json"⟩ none none .text cache)).outcome.toOption.isSome =
      true := by
    decide +kernel
  obtain ⟨report, isReport⟩ := Option.isSome_iff_exists.mp succeeds
  have ok := Results.toOption_eq_some_iff.mp isReport
  obtain ⟨text, written, spared⟩ := files guardedTest report ok
  have unread : (perform (.collect ⟨"absent.json"⟩ none none .text cache)).outcome.toOption =
      none := by
    decide +kernel
  refine ⟨checks _ guardedTest, writes guardedTest report ok, ⟨text, ?_, ?_⟩, ?_, ?_⟩
  · exact written _ (List.mem_map_of_mem (by decide)) (by decide +kernel)
  · exact written _ (List.mem_map_of_mem (by decide)) (by decide +kernel)
  · exact spared _ (Or.inr (by decide +kernel))
  · cases outcome : (perform (.collect ⟨"absent.json"⟩ none none .text cache)).outcome with
    | ok report =>
      rw [outcome] at unread
      cases unread
    | error failure =>
      exact (fails guardedTest failure outcome).imp id fun ⟨text, cut⟩ => ⟨text, failure, cut⟩

end TestGate
