import TestGate.Proofs.OfflineReplay
import TestGate.Proofs.PrintedCaches
import TestGate.Proofs.ReportUpkeep

/-!
The keys of the cache files that a pass leaves behind, whatever the trackers answer. Every record
that could be read can be written; but the issues that answers bring into the index are listed under
ids as the trackers sent them, and the text of a reference reads back only if its id is trimmed and
not blank. Main statement: the files load with the keys of the index exactly if all its issues have
such ids and none of its records lies too deep, as it is when all answers name such ids and are not
too deep themselves.
-/

namespace TestGate

open Issue Json

/-! ## Readable records -/

namespace Upkeep

/-- The upkeep of records that can be read. -/
def readable : Upkeep where
  Fine _ := Record.IsReadable
  Kept _ := Record.IsReadable
  Listed _ := True
  kept_of_fine fine := fine
  kept_fallback _ _ := .of_plain nofun rfl rfl
  kept_clones _ kept _ fine := kept.change rfl rfl fine
  kept_verdict _ kept _ := kept.change rfl rfl fun _ => kept.clones
  listed_of_fine _ := trivial
  listed_of_link _ _ := trivial

theorem readable_allowsMarks : readable.AllowsMarks :=
  fun _ _ kept => kept.change rfl rfl fun _ => kept.clones

end Upkeep

/-! ## Records that do not lie too deep -/

/-- How deep lists and objects may lie in one another in an answer, so that it can be stored.
Bugzilla records may become clones of others. -/
def answerDepth : Tracker → Nat
  | .bugzilla => Cache.recordDepth - 2
  | .jira => Cache.recordDepth

theorem fits_of_answer
    {tracker : Tracker} {json : Json}
    (fits : Fits (answerDepth tracker) json) :
    Fits Cache.recordDepth json :=
  fits.mono (by cases tracker <;> decide)

/-- Only the clones and the unknown fields of a record count. -/
theorem fits_change
    {record other : Record}
    (fits : Fits Cache.recordDepth record.toJson) (sameExtra : other.extra = record.extra)
    (clones : ∀ clone ∈ other.clones, Fits (answerDepth .bugzilla) clone.toJson) :
    Fits Cache.recordDepth other.toJson := by
  refine other.fits_iff.mpr ⟨clones, ?_⟩
  rw [sameExtra]
  exact (record.fits_iff.mp fits).2

namespace Upkeep

/-- The upkeep of records that do not lie too deep. -/
def shallow : Upkeep where
  Fine tracker record := Fits (answerDepth tracker) record.toJson
  Kept _ record := Fits Cache.recordDepth record.toJson
  Listed _ := True
  kept_of_fine fine := fits_of_answer fine
  kept_fallback _ _ := (Record.fits_iff _).mpr ⟨nofun, nofun⟩
  kept_clones _ kept _ fine := fits_change kept rfl fine
  kept_verdict _ kept _ := fits_change kept rfl ((Record.fits_iff _).mp kept).1
  listed_of_fine _ := trivial
  listed_of_link _ _ := trivial

theorem shallow_allowsMarks : shallow.AllowsMarks :=
  fun _ _ kept => fits_change kept rfl ((Record.fits_iff _).mp kept).1

end Upkeep

/-! ## Proper answers -/

/-- Whether an answer names proper issues only: its own, and the one that it leads to, if any. -/
structure NamesProperly (tracker : Tracker) (record : Record) : Prop where
  own : Reference.IsProper ⟨tracker, record.id⟩
  next : ∀ id, record.duplicated? tracker = some id → Reference.IsProper ⟨tracker, id⟩

namespace Upkeep

/-- The upkeep of proper issues. -/
def proper : Upkeep where
  Fine := NamesProperly
  Kept issue record :=
    ∀ id, record.duplicated? issue.tracker = some id → Reference.IsProper ⟨issue.tracker, id⟩
  Listed := Reference.IsProper
  kept_of_fine fine := fine.next
  kept_fallback _ _ := nofun
  kept_clones _ kept _ _ := kept
  kept_verdict _ kept _ := kept
  listed_of_fine fine := fine.own
  listed_of_link kept leads := kept _ leads

theorem proper_allowsMarks : proper.AllowsMarks :=
  fun _ _ kept => kept

end Upkeep

/-! ## Passes -/

variable {σ : Type} {sources : IssueSources σ} {settings : Settings} {occasion : Occasion}
  {manifest : Path} {filters : Filters} {cache : CacheChoice} {files : FileStore} {world : World σ}
  {report : Report} {run : Run σ}

/-- Before and after its run a pass asks nobody. -/
theorem Preparation.leads_start
    (prepared : Preparation) (settings : Settings) (cache : CacheChoice) (files : FileStore)
    (world : World σ) :
    World.Leads sources world [] (prepared.start settings cache files world).world := by
  have noticed := World.Leads.noteAll sources world (prepared.manifest.notices settings.excluded)
  have collected := noticed.trans (.note _ (.collected prepared.collection.items.length
    prepared.collection.index.size))
  exact collected.trans (.noteAll sources _ _)

theorem leads_storeAfter
    (plan : Cache.Plan) (runMeta : Cache.RunMeta) (report : Report) (files : FileStore)
    (run : Run σ) :
    World.Leads sources run.world [] (storeAfter plan runMeta report files run).world := by
  rw [storeAfter]
  split
  · exact .refl run.world
  · exact .noteAll sources run.world _

/-- What a pass without cache files keeps up. -/
theorem Upkeep.well_of_decided
    {upkeep : Upkeep}
    (marks : upkeep.AllowsMarks) (listed : ∀ issue, issue.IsProper → upkeep.Listed issue)
    (absent : cache.IsAbsent files)
    (decided : decided? settings sources manifest filters cache files world = some (report, run))
    (allFine : ∀ answer ∈ World.answersSince sources world
        (collectTests settings sources occasion manifest filters cache files world).world,
      upkeep.Fine answer.1 answer.2) :
    upkeep.Well run.session ∧
      ∀ issue, ∀ usage ∈ run.session.index.usages issue,
        usage.location.line ≤ Location.largestLine := by
  obtain ⟨prepared, isPrepared, outcome⟩ := decided?_eq_some_iff.mp decided
  rw [prepare_of_load (Cache.Plan.load_of_absent absent settings.serverVersion)] at isPrepared
  obtain ⟨⟨contents, collection⟩, collecting, made⟩ := Results.map_eq_ok_iff.mp isPrepared
  cases made
  obtain ⟨collected, asksProper⟩ := isCollected_of_collectFrom collecting
  generalize isStart : Preparation.start ⟨contents, collection, SortedMap.empty⟩ settings cache
    files world = start at outcome
  have isIndex : start.session.index = collection.index := by
    rw [← isStart]
    rfl
  have passes : upkeep.Passes sources start (start.resolveAndReport sources filters
      collection.items).2 :=
    Upkeep.resolveAndReport_passes marks
      (fun item member issue asks => listed issue (asksProper item member issue asks)) start
  rw [outcome] at passes
  have well : upkeep.Well start.session := by
    rw [← isStart]
    exact .of_noData rfl rfl collected.blank fun issue present =>
      listed issue (collected.proper issue present)
  rw [collectTests_of_decided decided] at allFine
  have before : World.Leads sources world [] start.world :=
    isStart ▸ Preparation.leads_start _ settings cache files world
  have whole := ((World.Ensures.of_leads before (id : True → True)).imp id fun _ _ => well).trans
    (passes.ensures.trans (.of_leads
      (leads_storeAfter (Cache.Plan.make files cache.directory cache.requested)
        (occasion.runMeta settings) report files run) id))
  refine ⟨whole.holds allFine trivial, fun issue usage member => ?_⟩
  rw [passes.usages issue, isIndex] at member
  exact collected.bounded issue usage member

/-- What a pass leaves in its index can be written, if all answers could be read. -/
theorem isLegible_of_decided
    (absent : cache.IsAbsent files)
    (decided : decided? settings sources manifest filters cache files world = some (report, run))
    (answered : ∀ answer ∈ World.answersSince sources world
        (collectTests settings sources occasion manifest filters cache files world).world,
      answer.2.IsReadable) :
    Cache.IsLegible run.session.index := by
  obtain ⟨well, bounded⟩ :=
    Upkeep.well_of_decided Upkeep.readable_allowsMarks (fun _ _ => trivial) absent decided answered
  refine ⟨well.kept, fun issue entry found usage member => bounded issue usage ?_⟩
  rw [Index.usages, found]
  exact member

/-- It does not lie too deep, if no answer does. -/
theorem isShallow_of_decided
    (absent : cache.IsAbsent files)
    (decided : decided? settings sources manifest filters cache files world = some (report, run))
    (allShallow : ∀ answer ∈ World.answersSince sources world
        (collectTests settings sources occasion manifest filters cache files world).world,
      Fits (answerDepth answer.1) answer.2.toJson) :
    Cache.IsShallow run.session.index := by
  have well : Upkeep.shallow.Well run.session :=
    (Upkeep.well_of_decided Upkeep.shallow_allowsMarks (fun _ _ => trivial) absent decided
      allShallow).1
  exact fun issue record known => (well.kept issue record known).sorted

/-- And its issues are proper, if all answers name such issues. -/
theorem isProper_of_decided
    (absent : cache.IsAbsent files)
    (decided : decided? settings sources manifest filters cache files world = some (report, run))
    (allProper : ∀ answer ∈ World.answersSince sources world
        (collectTests settings sources occasion manifest filters cache files world).world,
      NamesProperly answer.1 answer.2) :
    ∀ issue, run.session.index.contains issue = true → issue.IsProper := by
  have well : Upkeep.proper.Well run.session :=
    (Upkeep.well_of_decided Upkeep.proper_allowsMarks (fun _ proper => proper) absent decided
      allProper).1
  exact well.listed

/-- Whether all cache files that are asked for load with the keys of an index. -/
def CacheChoice.LoadsKeysOf (cache : CacheChoice) (files : FileStore) (index : Index) : Prop :=
  ∀ tracker ∈ cache.requested, ∃ file,
    Cache.load files (Cache.filePath cache.directory tracker) = .ok file ∧
      ∀ issue, file.index.contains issue = index.contains issue

/-- Files that all have the text of a cache file load with the keys of its index exactly if these
are proper and no record lies too deep. -/
theorem CacheChoice.loadsKeysOf_iff
    {index : Index} (runMeta : Cache.RunMeta)
    (legible : Cache.IsLegible index) (asked : cache.requested ≠ [])
    (texts : ∀ tracker ∈ cache.requested,
      files.text? (Cache.filePath cache.directory tracker) = some (Cache.render index runMeta)) :
    cache.LoadsKeysOf files index ↔
      (∀ issue, index.contains issue = true → issue.IsProper) ∧ Cache.IsShallow index := by
  constructor
  · intro loads
    obtain ⟨tracker, rest, isFirst⟩ := List.exists_cons_of_ne_nil asked
    have member : tracker ∈ cache.requested := isFirst ▸ List.mem_cons_self
    obtain ⟨file, loaded, sameKeys⟩ := loads tracker member
    have parsed := Cache.parse_of_load loaded (texts tracker member)
    have proper : ∀ issue, index.contains issue = true → issue.IsProper :=
      fun issue present => Cache.isProper_of_parse parsed ((sameKeys issue).trans present)
    exact ⟨proper, legible.isShallow_of_parse proper parsed⟩
  · rintro ⟨proper, shallow⟩ tracker member
    have holds := CacheChoice.holds_of_texts texts (legible.parse_render shallow proper runMeta)
    exact ⟨_, (holds tracker member).2, index.contains_reread⟩

/-- The cache files that a pass has written load with all keys of its index, and no others, exactly
if these are proper and no record lies too deep. The keys are proper when all answers name proper
issues, and no record lies too deep when no answer does. -/
theorem written_caches_load_iff
    (asked : cache.requested ≠ []) (absent : cache.IsAbsent files)
    (succeeds :
      (collectTests settings sources occasion manifest filters cache files world).outcome =
        .ok report)
    (answered : ∀ answer ∈ World.answersSince sources world
        (collectTests settings sources occasion manifest filters cache files world).world,
      answer.2.IsReadable) :
    ∃ run, decided? settings sources manifest filters cache files world = some (report, run) ∧
      (cache.LoadsKeysOf
          (collectTests settings sources occasion manifest filters cache files world).files
          run.session.index ↔
        (∀ issue, run.session.index.contains issue = true → issue.IsProper) ∧
          Cache.IsShallow run.session.index) ∧
      ((∀ answer ∈ World.answersSince sources world
            (collectTests settings sources occasion manifest filters cache files world).world,
          NamesProperly answer.1 answer.2) →
        ∀ issue, run.session.index.contains issue = true → issue.IsProper) ∧
      ((∀ answer ∈ World.answersSince sources world
            (collectTests settings sources occasion manifest filters cache files world).world,
          Fits (answerDepth answer.1) answer.2.toJson) →
        Cache.IsShallow run.session.index) := by
  obtain ⟨run, decided, _, texts⟩ := stored_of_ok asked absent succeeds
  have legible : Cache.IsLegible run.session.index :=
    isLegible_of_decided absent decided answered
  have written : ∀ tracker ∈ cache.requested,
      (collectTests settings sources occasion manifest filters cache files world).files.text?
          (Cache.filePath cache.directory tracker) =
        some (Cache.render run.session.index (occasion.runMeta settings)) := by
    intro tracker member
    have isAsked : Cache.filePath cache.directory tracker ∈ cache.paths :=
      List.mem_map_of_mem member
    have text := texts (Cache.filePath cache.directory tracker)
    rwa [if_pos (List.mem_map_of_mem isAsked)] at text
  exact ⟨run, decided, CacheChoice.loadsKeysOf_iff _ legible asked written,
    isProper_of_decided absent decided, isShallow_of_decided absent decided⟩

/-- Whether an answer could be read and does not lie too deep to be stored. -/
structure IsPlain (tracker : Tracker) (record : Record) : Prop where
  readable : record.IsReadable
  fits : Fits (answerDepth tracker) record.toJson

/-- A record without clones and unknown fields does not lie deep. -/
theorem IsPlain.of_bare
    {record : Record}
    (link : record.duplicateOf ≠ some "") (noClones : record.clones = [])
    (noExtra : record.extra = SortedMap.empty) (tracker : Tracker) :
    IsPlain tracker record := by
  have clones : ∀ clone ∈ record.clones, Fits 121 clone.toJson := by
    rw [noClones]
    nofun
  have extra : ∀ name json, record.extra.find? name = some json → Fits 122 json := by
    rw [noExtra]
    nofun
  have fits : Fits 123 record.toJson := record.fits_iff.mpr ⟨clones, extra⟩
  exact ⟨.of_plain link noClones noExtra, fits.mono (by cases tracker <;> decide)⟩

theorem replies_patchySources
    {tracker : Tracker} {ids : List String} {memory : Unit} {records : List Record}
    (outcome : ((patchySources tracker).fetch ids memory).1.outcome = .ok records) :
    ∀ record ∈ records, IsPlain tracker record ∧ NamesProperly tracker record := by
  intro record member
  cases tracker with
  | jira => cases outcome
  | bugzilla =>
    cases outcome
    obtain ⟨id, inIds, rfl⟩ := List.mem_map.mp member
    have isSeven : id = "7" := by simpa using (List.mem_filter.mp inIds).2
    subst isSeven
    refine ⟨.of_bare (by simp) rfl rfl .bugzilla, ⟨by decide +kernel, by decide⟩,
      fun next leads => ?_⟩
    cases leads
    exact ⟨by decide +kernel, by decide⟩

theorem absent_guardedTest :
    CacheChoice.IsAbsent ⟨[.bugzilla], ⟨"."⟩⟩ guardedTest := by
  intro tracker member
  cases List.mem_singleton.mp member
  decide +kernel

theorem written_caches_load_iff_patchySources :
    let cache : CacheChoice := ⟨[.bugzilla], ⟨"."⟩⟩
    let first := collectTests (.forVersion "6.10.z") patchySources ⟨default, "first", [], ""⟩
      ⟨"tests.json"⟩ {} cache guardedTest ⟨(), []⟩
    ∃ run, decided? (.forVersion "6.10.z") patchySources ⟨"tests.json"⟩ {} cache guardedTest
        ⟨(), []⟩ = some (⟨[⟨"a", .selected (some "BZ:7")⟩]⟩, run) ∧
      cache.LoadsKeysOf first.files run.session.index := by
  intro cache first
  have succeeds : first.outcome = .ok ⟨[⟨"a", .selected (some "BZ:7")⟩]⟩ := by decide +kernel
  have replies : ∀ answer ∈ World.answersSince patchySources ⟨(), []⟩ first.world,
      IsPlain answer.1 answer.2 ∧ NamesProperly answer.1 answer.2 :=
    forall_answersTo (fun _ _ _ _ => replies_patchySources) _ _
  obtain ⟨run, decided, loads, proper, shallow⟩ :=
    written_caches_load_iff (by decide) absent_guardedTest succeeds
      fun answer member => (replies answer member).1.readable
  have allProper := proper fun answer member => (replies answer member).2
  have allShallow := shallow fun answer member => (replies answer member).1.fits
  exact ⟨run, decided, loads.mpr ⟨allProper, allShallow⟩⟩

/-- A tracker that leaves the id out of its answers. -/
def namelessSource : IssueSource Unit where
  hasCredentials := true
  fetch := fun _ memory => ({ outcome := .ok [{}] }, memory)

/-- The pass succeeds, and what it writes cannot be read. -/
theorem namelessSource_writes_unreadable_cache :
    let first := collectTests {} (fun _ => namelessSource) ⟨default, "first", [], ""⟩
      ⟨"tests.json"⟩ {} ⟨[.bugzilla], ⟨"."⟩⟩ guardedTest ⟨(), []⟩
    first.outcome = .ok ⟨[⟨"a", .selected (some "BZ:7")⟩]⟩ ∧
      ∃ failure, Cache.load first.files (Cache.filePath ⟨"."⟩ .bugzilla) = .error failure := by
  intro first
  have succeeds : first.outcome = .ok ⟨[⟨"a", .selected (some "BZ:7")⟩]⟩ := by decide +kernel
  refine ⟨succeeds, ?_⟩
  obtain ⟨run, decided, _, texts⟩ := stored_of_ok (by decide) absent_guardedTest succeeds
  have answered : ∀ answer ∈ World.answersSince (fun _ => namelessSource) ⟨(), []⟩ first.world,
      IsPlain answer.1 answer.2 := by
    apply forall_answersTo
    intro tracker ids memory records outcome record member
    cases outcome
    rw [List.mem_singleton.mp member]
    exact .of_bare (by simp) rfl rfl tracker
  have legible : Cache.IsLegible run.session.index :=
    isLegible_of_decided absent_guardedTest decided fun answer member =>
      (answered answer member).readable
  have shallow : Cache.IsShallow run.session.index :=
    isShallow_of_decided absent_guardedTest decided fun answer member =>
      (answered answer member).fits
  have nameless : run.session.index.contains ⟨.bugzilla, ""⟩ = true := by
    have all : (decided? {} (fun _ => namelessSource) ⟨"tests.json"⟩ {} ⟨[.bugzilla], ⟨"."⟩⟩
        guardedTest ⟨(), []⟩).all (fun decided =>
          decided.2.session.index.contains ⟨.bugzilla, ""⟩) = true := by
      decide +kernel
    rw [decided] at all
    exact all
  obtain ⟨error, broken⟩ := legible.parse_render_error shallow nameless (by decide +kernel)
    (Occasion.runMeta ⟨default, "first", [], ""⟩ {})
  have text := texts (Cache.filePath ⟨"."⟩ .bugzilla)
  rw [if_pos (by simp [CacheChoice.paths])] at text
  rw [Cache.load, FileStore.storage_read text]
  simp only [broken]
  exact ⟨_, rfl⟩

end TestGate
