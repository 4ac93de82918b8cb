import TestGate.Jira.Search
import TestGate.Proofs.Results
import Mathlib.Data.List.Perm.Subperm
import Mathlib.Data.List.Range

/-!
The offsets that a search in Jira asks for. A search goes on behind a page where the page says that
it begins, and not where it was asked for. Main statement: the offsets increase exactly when each
page that leads on leads forward; pages that begin where they were asked for do, and then the
totals bound the number of requests.
-/

namespace TestGate.Jira

open Http Issue Json

/-! ## Pages -/

namespace Page

theorem next?_eq_some_iff
    {page : Page} {next : Nat} :
    page.next? = some next ↔
      page.issues ≠ [] ∧ page.finish < page.total ∧ page.finish = next := by
  unfold next?
  split
  · simp_all
  · simp_all

theorem next?_eq_none_iff
    {page : Page} :
    page.next? = none ↔ page.issues = [] ∨ page.total ≤ page.finish := by
  rw [← Option.not_isSome_iff_eq_none, Option.isSome_iff_exists]
  simp only [next?_eq_some_iff, exists_and_left, exists_eq', and_true]
  rw [not_and_or, not_not, not_lt]

theorem finish_of_lt
    {page : Page} (small : page.startAt + page.issues.length < offsetBound) :
    page.finish = page.startAt + page.issues.length :=
  Nat.mod_eq_of_lt small

end Page

/-! ## Visits -/

/-- A page that a search reads, and the offset it asked for. -/
structure Visit where
  offset : Nat
  page : Page

/-- Whether a page does not lead back, nor to itself. -/
def Visit.Advances (visit : Visit) : Prop :=
  ∀ next, visit.page.next? = some next → visit.offset < next

theorem Visit.advances_of_echo
    {visit : Visit} (echo : visit.page.startAt = visit.offset)
    (small : visit.page.startAt + visit.page.issues.length < Page.offsetBound) :
    visit.Advances := by
  intro next leads
  obtain ⟨nonempty, _, same⟩ := Page.next?_eq_some_iff.mp leads
  rw [Page.finish_of_lt small] at same
  have := List.length_pos_iff.mpr nonempty
  omega

namespace Search

/-- The pages that a search reads from an offset on. -/
def visits : (answers : List Answer) → (offset : Nat) → List Visit
  | [], _ => []
  | answer :: answers, offset =>
    match Rest.readAnswer Page.decode answer with
    | .error _ => []
    | .ok page =>
      { offset, page } ::
        match page.next? with
        | none => []
        | some next => visits answers next

/-- The offsets that a search asks for, this one and those that pages lead to. -/
def offsets (answers : List Answer) (offset : Nat) : List Nat :=
  offset :: (visits answers offset).filterMap fun visit => visit.page.next?

section Steps

variable {answer : Answer} {page : Page}

theorem visits_of_unreadable
    {failure : Rest.Failure} (read : Rest.readAnswer Page.decode answer = .error failure)
    (answers : List Answer) (offset : Nat) :
    visits (answer :: answers) offset = [] := by
  simp [visits, read]

theorem visits_of_last
    (read : Rest.readAnswer Page.decode answer = .ok page) (stops : page.next? = none)
    (answers : List Answer) (offset : Nat) :
    visits (answer :: answers) offset = [⟨offset, page⟩] := by
  simp [visits, read, stops]

theorem visits_of_next
    {next : Nat} (read : Rest.readAnswer Page.decode answer = .ok page)
    (leads : page.next? = some next) (answers : List Answer) (offset : Nat) :
    visits (answer :: answers) offset = ⟨offset, page⟩ :: visits answers next := by
  simp [visits, read, leads]

theorem offsets_of_unreadable
    {failure : Rest.Failure} (read : Rest.readAnswer Page.decode answer = .error failure)
    (answers : List Answer) (offset : Nat) :
    offsets (answer :: answers) offset = [offset] := by
  simp [offsets, visits_of_unreadable read]

theorem offsets_of_last
    (read : Rest.readAnswer Page.decode answer = .ok page) (stops : page.next? = none)
    (answers : List Answer) (offset : Nat) :
    offsets (answer :: answers) offset = [offset] := by
  simp [offsets, visits_of_last read stops, stops]

theorem offsets_of_next
    {next : Nat} (read : Rest.readAnswer Page.decode answer = .ok page)
    (leads : page.next? = some next) (answers : List Answer) (offset : Nat) :
    offsets (answer :: answers) offset = offset :: offsets answers next := by
  simp [offsets, visits_of_next read leads, leads]

/-- A server that gives one page whatever it is asked for is asked for the same page for ever. -/
theorem offsets_replicate
    {next : Nat} (read : Rest.readAnswer Page.decode answer = .ok page)
    (leads : page.next? = some next) (count offset : Nat) :
    offsets (List.replicate count answer) offset = offset :: List.replicate count next := by
  induction count generalizing offset with
  | zero => rfl
  | succ count inductionHypothesis =>
    rw [List.replicate_succ, offsets_of_next read leads, inductionHypothesis, List.replicate_succ]

end Steps

/-- What holds for a search is shown page by page: for one that reads no page, for one whose first
page is the last one, and for one that its first page leads on. -/
theorem visits_induction
    {Holds : List Answer → Nat → Prop}
    (unread : ∀ answers offset, visits answers offset = [] → Holds answers offset)
    (last : ∀ answer answers offset page, Rest.readAnswer Page.decode answer = .ok page →
      page.next? = none → Holds (answer :: answers) offset)
    (goesOn : ∀ answer answers offset page next, Rest.readAnswer Page.decode answer = .ok page →
      page.next? = some next → Holds answers next → Holds (answer :: answers) offset)
    (answers : List Answer) (offset : Nat) :
    Holds answers offset := by
  induction answers generalizing offset with
  | nil => exact unread [] offset rfl
  | cons answer answers inductionHypothesis =>
    cases read : Rest.readAnswer Page.decode answer with
    | error failure => exact unread _ offset (visits_of_unreadable read answers offset)
    | ok page =>
      cases leads : page.next? with
      | none => exact last answer answers offset page read leads
      | some next =>
        exact goesOn answer answers offset page next read leads (inductionHypothesis next)

/-- A search sends a request for each offset. -/
theorem requests_run
    (request : Nat → Request) (found : List Record) (answers : List Answer) (offset : Nat) :
    (run request found answers offset).requests = (offsets answers offset).map request := by
  induction answers generalizing found offset with
  | nil => rfl
  | cons answer answers inductionHypothesis =>
    cases read : Rest.readAnswer Page.decode answer with
    | error failure => simp [run, read, offsets_of_unreadable]
    | ok page =>
      cases leads : page.next? with
      | none => simp [run, read, leads, offsets_of_last]
      | some next => simp [run, read, leads, offsets_of_next, inductionHypothesis]

/-! ## Increasing offsets -/

/-- The offsets increase exactly when each page that leads on leads forward. -/
theorem pairwise_offsets_iff
    (answers : List Answer) (offset : Nat) :
    (offsets answers offset).Pairwise (· < ·) ↔
      ∀ visit ∈ visits answers offset, visit.Advances := by
  rw [← List.isChain_iff_pairwise]
  induction answers, offset using visits_induction with
  | unread answers offset unread => simp [offsets, unread]
  | last answer answers offset page read stops =>
    simp [offsets_of_last read stops, visits_of_last read stops, stops, Visit.Advances]
  | goesOn answer answers offset page next read leads inductionHypothesis =>
    rw [offsets_of_next read leads, visits_of_next read leads, List.forall_mem_cons,
      ← inductionHypothesis, offsets, List.isChain_cons_cons]
    simp [Visit.Advances, leads]

/-- Each offset but the first one lies below the total of a page. -/
theorem offsets_tail_lt
    {answers : List Answer} {offset bound : Nat}
    (bounded : ∀ visit ∈ visits answers offset, visit.page.total ≤ bound) :
    ∀ next ∈ (visits answers offset).filterMap (fun visit => visit.page.next?), next < bound := by
  intro next member
  obtain ⟨visit, visited, leads⟩ := List.mem_filterMap.mp member
  obtain ⟨_, below, same⟩ := Page.next?_eq_some_iff.mp leads
  exact same ▸ below.trans_le (bounded visit visited)

/-- Offsets that increase are no more than the totals allow. -/
theorem length_offsets_le
    {answers : List Answer} {offset bound : Nat}
    (increasing : (offsets answers offset).Pairwise (· < ·))
    (bounded : ∀ visit ∈ visits answers offset, visit.page.total ≤ bound) :
    (offsets answers offset).length ≤ max 1 bound := by
  have later := offsets_tail_lt bounded
  rw [offsets] at increasing ⊢
  generalize (visits answers offset).filterMap _ = others at increasing later ⊢
  cases others with
  | nil => exact le_max_left 1 bound
  | cons next rest =>
    have first : offset < next := (List.pairwise_cons.mp increasing).1 next List.mem_cons_self
    have subset : offset :: next :: rest ⊆ List.range bound :=
      List.cons_subset.mpr
        ⟨List.mem_range.mpr (first.trans (later next List.mem_cons_self)),
          fun other member => List.mem_range.mpr (later other member)⟩
    have distinct : (offset :: next :: rest).Nodup := increasing.imp Nat.ne_of_lt
    calc (offset :: next :: rest).length
        ≤ (List.range bound).length := (distinct.subperm subset).length_le
      _ = bound := List.length_range
      _ ≤ max 1 bound := le_max_right 1 bound

/-- Where pages begin where they were asked for, the ends of the pages are as small as the number of
all issues on them. -/
theorem lt_offsetBound_of_echo
    {answers : List Answer} {offset : Nat}
    (echo : ∀ visit ∈ visits answers offset, visit.page.startAt = visit.offset)
    (few : offset + ((visits answers offset).flatMap fun visit => visit.page.issues).length <
      Page.offsetBound) :
    ∀ visit ∈ visits answers offset,
      visit.page.startAt + visit.page.issues.length < Page.offsetBound := by
  induction answers, offset using visits_induction with
  | unread answers offset unread => simp [unread]
  | last answer answers offset page read stops =>
    rw [visits_of_last read stops] at echo few ⊢
    rw [List.forall_mem_singleton] at echo ⊢
    rw [echo]
    simpa using few
  | goesOn answer answers offset page next read leads inductionHypothesis =>
    rw [visits_of_next read leads] at echo few ⊢
    rw [List.forall_mem_cons] at echo ⊢
    obtain ⟨here, later⟩ := echo
    rw [List.flatMap_cons, List.length_append] at few
    have small : page.startAt + page.issues.length < Page.offsetBound := by
      dsimp only at here few
      omega
    refine ⟨small, inductionHypothesis later ?_⟩
    -- The next page is asked for behind this one, as no sum has wrapped around.
    obtain ⟨_, _, same⟩ := Page.next?_eq_some_iff.mp leads
    rw [Page.finish_of_lt small] at same
    dsimp only at here few
    omega

end Search

/-! ## Calls -/

/-- What a call comes to where the settings lead to a server. -/
theorem fetch_eq
    {settings : TrackerSettings} {network : Network} {endpoint : Rest.Endpoint} {server : Server}
    (reached : Rest.endpoint settings path = .ok endpoint)
    (known : network.find? endpoint.url.origin = some server) (keys : List String) :
    (source settings).fetch keys network =
      let search := Search.run (fun offset => endpoint.request (parameters keys offset)) []
        server.answers 0
      ({ outcome := search.outcome.mapError (Rest.Failure.message .jira), notices := search.notices },
        network.insert endpoint.url.origin
          { answers := search.remaining, requests := server.requests ++ search.requests }) := by
  simp [source, Rest.source, reached, known, ask]

/-- A call asks for the pages at its offsets. They increase exactly when each page that leads on
leads forward. Pages that begin where they were asked for do so, without an overflow, as long as the
issues on them can be counted. Where the offsets increase, the totals bound how many there are. -/
theorem paging_advances_iff
    {settings : TrackerSettings} {keys : List String} {network : Network}
    {endpoint : Rest.Endpoint} {server : Server}
    (reached : Rest.endpoint settings path = .ok endpoint)
    (known : network.find? endpoint.url.origin = some server) :
    (∃ after, ((source settings).fetch keys network).2.find? endpoint.url.origin = some after ∧
      after.requests = server.requests ++ (Search.offsets server.answers 0).map fun offset =>
        endpoint.request (parameters keys offset)) ∧
    ((Search.offsets server.answers 0).Pairwise (· < ·) ↔
      ∀ visit ∈ Search.visits server.answers 0, visit.Advances) ∧
    ((∀ visit ∈ Search.visits server.answers 0, visit.page.startAt = visit.offset) →
      ((Search.visits server.answers 0).flatMap fun visit => visit.page.issues).length <
        Page.offsetBound →
      (Search.offsets server.answers 0).Pairwise (· < ·) ∧
        ∀ visit ∈ Search.visits server.answers 0,
          visit.page.startAt + visit.page.issues.length < Page.offsetBound) ∧
    ∀ bound, (Search.offsets server.answers 0).Pairwise (· < ·) →
      (∀ visit ∈ Search.visits server.answers 0, visit.page.total ≤ bound) →
      (Search.offsets server.answers 0).length ≤ max 1 bound := by
  refine ⟨?_, Search.pairwise_offsets_iff server.answers 0, ?_, ?_⟩
  · rw [fetch_eq reached known, SortedMap.find?_insert_self]
    exact ⟨_, rfl, congrArg _ (Search.requests_run _ [] server.answers 0)⟩
  · intro echo few
    rw [← Nat.zero_add (List.length _)] at few
    have small := Search.lt_offsetBound_of_echo echo few
    exact ⟨(Search.pairwise_offsets_iff server.answers 0).mpr fun visit visited =>
      visit.advances_of_echo (echo visit visited) (small visit visited), small⟩
  · exact fun bound increasing bounded => Search.length_offsets_le increasing bounded

/-! ## A server with and without offsets in its answers -/

def namedTracker : TrackerSettings where
  url := "http://jira"
  apiKey := some "k"

def namedEndpoint : Rest.Endpoint where
  url := { origin := "http://jira", path }
  authorization := "Bearer k"

/-- A page with one issue of three, with these members in front. -/
def pageOfThree (members : String) : Answer where
  status := 200
  body := "\x7b" ++ members ++ "\"total\":3,\"issues\":[\x7b\"key\":\"A\",\"fields\":\x7b\x7d\x7d]\x7d"

/-- Three pages that tell where they begin. -/
def echoingServer : Server where
  answers := ["\"startAt\":0,", "\"startAt\":1,", "\"startAt\":2,"].map pageOfThree

/-- Three pages that do not tell where they begin. -/
def silentServer : Server where
  answers := List.replicate 3 (pageOfThree "")

theorem paging_advances_iff_echoingServer :
    Rest.endpoint namedTracker path = .ok namedEndpoint ∧
      Search.offsets echoingServer.answers 0 = [0, 1, 2] ∧
      (∃ after,
        ((source namedTracker).fetch ["A", "B", "C"]
          (SortedMap.empty.insert "http://jira" echoingServer)).2.find? "http://jira" = some after ∧
        after.requests = [0, 1, 2].map fun offset =>
          namedEndpoint.request (parameters ["A", "B", "C"] offset)) ∧
      (Search.offsets echoingServer.answers 0).Pairwise (· < ·) ∧
      (Search.offsets echoingServer.answers 0).length ≤ 3 := by
  have reached : Rest.endpoint namedTracker path = .ok namedEndpoint := by decide +kernel
  -- one evaluation for all, as each would read the pages again
  have pages :
      Search.offsets echoingServer.answers 0 = [0, 1, 2] ∧
        (∀ visit ∈ Search.visits echoingServer.answers 0, visit.page.startAt = visit.offset) ∧
        ((Search.visits echoingServer.answers 0).flatMap fun visit => visit.page.issues).length <
          Page.offsetBound ∧
        ∀ visit ∈ Search.visits echoingServer.answers 0, visit.page.total ≤ 3 := by
    decide +kernel
  obtain ⟨offsets, echo, few, totals⟩ := pages
  obtain ⟨asked, _, echoes, bounded⟩ :=
    paging_advances_iff reached (SortedMap.find?_insert_self SortedMap.empty _ echoingServer)
  have increasing := (echoes echo few).1
  refine ⟨reached, offsets, ?_, increasing, bounded 3 increasing totals⟩
  rwa [offsets] at asked

/-- Without offsets in its answers, a server is asked for the same page for ever, although its total
stays what it is; and behind a page that begins at the largest offset, the sum overflows and the
first page is next. -/
theorem paging_repeats_for_silentServer :
    (((source namedTracker).fetch ["A", "B", "C"]
        (SortedMap.empty.insert "http://jira" silentServer)).2.find? "http://jira").map
          Server.requests =
      some ([0, 1, 1, 1].map fun offset =>
        namedEndpoint.request (parameters ["A", "B", "C"] offset)) ∧
    ¬ (Search.offsets silentServer.answers 0).Pairwise (· < ·) ∧
    (∀ count,
      Search.offsets (List.replicate count (pageOfThree "")) 0 = 0 :: List.replicate count 1) ∧
    ∃ visit ∈ Search.visits [pageOfThree "\"startAt\":18446744073709551615,"] 0,
      Page.offsetBound ≤ visit.page.startAt + visit.page.issues.length ∧
        visit.page.next? = some 0 := by
  have silent : (Rest.readAnswer Page.decode (pageOfThree "")).toOption.bind Page.next? = some 1 := by
    decide +kernel
  obtain ⟨page, isPage, leads⟩ := Option.bind_eq_some_iff.mp silent
  exact ⟨by decide +kernel, by decide +kernel,
    fun count => Search.offsets_replicate (Results.toOption_eq_some_iff.mp isPage) leads count 0,
    by decide +kernel⟩

end TestGate.Jira
