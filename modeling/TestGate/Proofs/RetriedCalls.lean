import TestGate.PreparedSource
import TestGate.Retry

/-!
How often a call is repeated. Main statement: a call that fails some times and then succeeds is made
once more than it fails, and gives what the source said to the last one; a call that fails all times
is made as often as the policy allows, and gives the last error. All calls are for the same ids;
between two of them there is one wait, and behind the last there is none.
-/

namespace TestGate

open Issue

variable {σ : Type}

/-! ## Calls for the same ids -/

namespace IssueSource

/-- The memory of a source after some calls for the same ids. -/
def memoryAfter (source : IssueSource σ) (ids : List String) (memory : σ) : (calls : Nat) → σ
  | 0 => memory
  | calls + 1 => source.memoryAfter ids (source.fetch ids memory).2 calls

/-- What a source says to the next call after some calls for the same ids. -/
def outcomeAfter (source : IssueSource σ) (ids : List String) (memory : σ) (calls : Nat) :
    Except String (List Record) :=
  (source.fetch ids (source.memoryAfter ids memory calls)).1.outcome

end IssueSource

/-- The calls and waits among events, in order. -/
def callsAndWaits (events : List Event) : List Event :=
  events.filter fun
    | .noted _ => false
    | _ => true

theorem callsAndWaits_append
    (front back : List Event) :
    callsAndWaits (front ++ back) = callsAndWaits front ++ callsAndWaits back :=
  List.filter_append ..

/-- A call is followed by notices of its source, which do not count. -/
theorem callsAndWaits_asked
    (tracker : Tracker) (ids : List String) (notices : List Notice) :
    callsAndWaits (.asked tracker ids :: notices.map .noted) = [.asked tracker ids] := by
  have noNotices : callsAndWaits (notices.map .noted) = [] := by
    rw [callsAndWaits, List.filter_eq_nil_iff]
    intro event member
    obtain ⟨notice, _, rfl⟩ := List.mem_map.mp member
    exact Bool.false_ne_true
  rw [← List.singleton_append, callsAndWaits_append, noNotices]
  rfl

theorem waitsOf_callsAndWaits
    (events : List Event) :
    waitsOf (callsAndWaits events) = waitsOf events := by
  rw [waitsOf, callsAndWaits, List.filterMap_filter, waitsOf]
  congr 1
  funext event
  cases event <;> rfl

/-- Calls of a tracker for the same ids, with one wait between two of them. -/
def spacedCalls (tracker : Tracker) (ids : List String) (delay calls : Nat) : List Event :=
  (List.replicate calls (.asked tracker ids)).intersperse (.waited delay)

theorem waitsOf_spacedCalls
    (tracker : Tracker) (ids : List String) (delay calls : Nat) :
    waitsOf (spacedCalls tracker ids delay calls) = List.replicate (calls - 1) delay := by
  induction calls with
  | zero => rfl
  | succ calls inductionHypothesis =>
    cases calls with
    | zero => rfl
    | succ calls => exact congrArg (delay :: ·) inductionHypothesis

/-- What some calls of a tracker for the same ids do to the world: the source remembers them, and
the journal goes on with them and with the waits between them. -/
structure World.CallsSpaced
    (source : IssueSource σ) (tracker : Tracker) (ids : List String) (delay calls : Nat)
    (before after : World σ) : Prop where
  memory : after.memory = source.memoryAfter ids before.memory calls
  journal : ∃ events, after.journal = before.journal ++ events ∧
    callsAndWaits events = spacedCalls tracker ids delay calls ∧
    waitsOf events = List.replicate (calls - 1) delay

namespace World.CallsSpaced

variable {source : IssueSource σ} {tracker : Tracker} {ids : List String} {delay calls : Nat}

theorem ofJournal
    {before after : World σ} {events : List Event}
    (memory : after.memory = source.memoryAfter ids before.memory calls)
    (journal : after.journal = before.journal ++ events)
    (spaced : callsAndWaits events = spacedCalls tracker ids delay calls) :
    CallsSpaced source tracker ids delay calls before after := by
  refine ⟨memory, events, journal, spaced, ?_⟩
  rw [← waitsOf_callsAndWaits, spaced, waitsOf_spacedCalls]

theorem ask
    (world : World σ) :
    CallsSpaced source tracker ids delay 1 world (world.ask source tracker ids).2 :=
  .ofJournal rfl rfl (callsAndWaits_asked tracker ids _)

/-- A call and the wait behind it, before further calls. -/
theorem askBefore
    {world after : World σ} {notice : Notice}
    (later : CallsSpaced source tracker ids delay (calls + 1)
      ((world.ask source tracker ids).2.record [.noted notice, .waited delay]) after) :
    CallsSpaced source tracker ids delay (calls + 2) world after := by
  obtain ⟨memory, events, journal, spaced, _⟩ := later
  let asked : List Event :=
    .asked tracker ids :: (source.fetch ids world.memory).1.notices.map .noted
  have wholeJournal : after.journal =
      world.journal ++ (asked ++ ([.noted notice, .waited delay] ++ events)) := by
    rw [journal]
    simp only [World.ask, World.record, asked, List.append_assoc]
  refine .ofJournal memory wholeJournal ?_
  rw [callsAndWaits_append, callsAndWaits_append, callsAndWaits_asked, spaced]
  rfl

end World.CallsSpaced

/-! ## Repeated calls -/

/-- Whether a source fails for some calls in a row for the same ids. -/
def IssueSource.FailsFor
    (source : IssueSource σ) (ids : List String) (memory : σ) (calls : Nat) : Prop :=
  ∀ earlier < calls, ∃ error, source.outcomeAfter ids memory earlier = .error error

theorem IssueSource.FailsFor.succ
    {source : IssueSource σ} {ids : List String} {memory : σ} {calls : Nat} {error : String}
    (fails : (source.fetch ids memory).1.outcome = .error error)
    (later : source.FailsFor ids (source.fetch ids memory).2 calls) :
    source.FailsFor ids memory (calls + 1) := by
  intro earlier within
  cases earlier with
  | zero => exact ⟨error, fails⟩
  | succ earlier => exact later earlier (Nat.lt_of_succ_lt_succ within)

/-- Attempts go on as long as they fail and more of them are left. -/
theorem attemptFetch_spaced
    (source : IssueSource σ) (tracker : Tracker) (policy : RetryPolicy) (ids : List String)
    (more attempt : Nat) (world : World σ) :
    ∃ failures ≤ more,
      source.FailsFor ids world.memory failures ∧
      (failures < more → ∃ records,
        source.outcomeAfter ids world.memory failures = .ok records) ∧
      (attemptFetch source tracker policy ids more attempt world).1 =
        source.outcomeAfter ids world.memory failures ∧
      World.CallsSpaced source tracker ids policy.delay (failures + 1) world
        (attemptFetch source tracker policy ids more attempt world).2 := by
  induction more generalizing attempt world with
  | zero => exact ⟨0, Nat.le_refl 0, nofun, nofun, rfl, .ask world⟩
  | succ more inductionHypothesis =>
    rw [attemptFetch]
    split
    · rename_i records after asked
      have answered : source.outcomeAfter ids world.memory 0 = .ok records :=
        congrArg Prod.fst asked
      have spaced : World.CallsSpaced source tracker ids policy.delay 1 world _ := .ask world
      rw [asked] at spaced
      exact ⟨0, Nat.zero_le _, nofun, fun _ => ⟨records, answered⟩, answered.symm, spaced⟩
    · rename_i error after asked
      have fails : (source.fetch ids world.memory).1.outcome = .error error :=
        congrArg Prod.fst asked
      obtain rfl : after = (world.ask source tracker ids).2 := (congrArg Prod.snd asked).symm
      obtain ⟨failures, within, allFail, answered, outcome, spaced⟩ := inductionHypothesis
        (attempt + 1) ((world.ask source tracker ids).2.record
          [.noted (.retrying tracker attempt policy.attempts error policy.delay),
            .waited policy.delay])
      -- the source has seen one call more than it had when the other attempts began
      exact ⟨failures + 1, Nat.succ_le_succ within, allFail.succ fails,
        fun left => answered (Nat.lt_of_succ_lt_succ left), outcome, spaced.askBefore⟩

/-- A call that succeeds after fewer failures than the attempts that the policy allows gives what
the source then says; one that fails in all of them gives the last error. It is made for the same
ids each time, with one wait between two calls. -/
theorem retried_calls_are_spaced
    (source : IssueSource σ) (tracker : Tracker) (policy : RetryPolicy) (ids : List String)
    (world : World σ) :
    let attempts := max policy.maxAttempts 1
    let outcome := source.outcomeAfter ids world.memory
    let fetched := fetchWithRetry source tracker policy ids world
    (∀ failures records, failures < attempts →
      source.FailsFor ids world.memory failures → outcome failures = .ok records →
        fetched.1 = .ok records ∧
          World.CallsSpaced source tracker ids policy.delay (failures + 1) world fetched.2) ∧
      (source.FailsFor ids world.memory attempts →
        fetched.1 = outcome (attempts - 1) ∧
          World.CallsSpaced source tracker ids policy.delay attempts world fetched.2) := by
  intro attempts outcome fetched
  have positive : 1 ≤ attempts := Nat.le_max_right policy.maxAttempts 1
  obtain ⟨made, within, allFail, answered, isOutcome, spaced⟩ :=
    attemptFetch_spaced source tracker policy ids (attempts - 1) 1 world
  replace isOutcome : fetched.1 = outcome made := isOutcome
  replace spaced : World.CallsSpaced source tracker ids policy.delay (made + 1) world fetched.2 :=
    spaced
  constructor
  · intro failures records allowed fails succeeds
    have same : made = failures := by
      rcases Nat.lt_trichotomy made failures with fewer | same | further
      · obtain ⟨error, failed⟩ := fails made fewer
        obtain ⟨others, succeeded⟩ := answered (by omega)
        cases failed.symm.trans succeeded
      · exact same
      · obtain ⟨error, failed⟩ := allFail failures further
        cases failed.symm.trans succeeds
    subst same
    exact ⟨isOutcome.trans succeeds, spaced⟩
  · intro fails
    have last : made = attempts - 1 := by
      refine Nat.le_antisymm within (Nat.le_of_not_lt fun left => ?_)
      obtain ⟨error, failed⟩ := fails made (by omega)
      obtain ⟨others, succeeded⟩ := answered left
      cases failed.symm.trans succeeded
    subst last
    rw [Nat.sub_add_cancel positive] at spaced
    exact ⟨isOutcome, spaced⟩

/-- A source that answers the third call. -/
def recoveringSource : IssueSource PreparedSources :=
  PreparedSources.sources (fun _ => true) .jira

def recoveringMemory : PreparedSources where
  jira := .script [.error "down", .error "busy", .ok [{ id := "A-1" }], .error "gone"]

theorem retried_calls_are_spaced_recoveringSource :
    let world : World PreparedSources := { memory := recoveringMemory }
    let fetched := fetchWithRetry recoveringSource .jira { delay := 5 } ["A-1"] world
    fetched.1 = .ok [{ id := "A-1" }] ∧
      World.CallsSpaced recoveringSource .jira ["A-1"] 5 3 world fetched.2 := by
  intro world fetched
  have fails : recoveringSource.FailsFor ["A-1"] recoveringMemory 2 := by
    intro earlier within
    cases earlier with
    | zero => exact ⟨"down", rfl⟩
    | succ earlier =>
      obtain rfl : earlier = 0 := by omega
      exact ⟨"busy", rfl⟩
  exact (retried_calls_are_spaced recoveringSource .jira { delay := 5 } ["A-1"] world).1 2 _
    (by decide) fails rfl

end TestGate
