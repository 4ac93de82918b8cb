import TestGate.Proofs.CollectedIssues
import TestGate.Proofs.ReadableRecords
import TestGate.Proofs.SearchPages

/-!
Searches in Jira at a server that heeds its requests: it shows the issues from the offset on that it
is asked for, as many as it likes, but some. Main statement: a search there finds all issues in their
order, each once.
-/

namespace TestGate.Jira

open Http Issue Json

/-! ## Servers that heed their requests -/

/-- Whether an answer holds the page of these issues that begins at an offset: as many as asked for,
or as many as the server shows at once. -/
def Shows (issues : List FoundIssue) (limit offset : Nat) (answer : Answer) : Prop :=
  ∃ cap, 0 < cap ∧ Rest.readAnswer Page.decode answer = .ok
    { startAt := offset
      total := issues.length
      issues := (issues.drop offset).take (min cap limit) }

/-- Whether these are the answers of a server to these requests, as far as there are any. What it
answers may differ from round to round. -/
def Heeds (respond : Nat → Request → Answer) (requests : List Request) (answers : List Answer) :
    Prop :=
  ∀ round request answer, requests[round]? = some request → answers[round]? = some answer →
    answer = respond round request

theorem heeds_nil
    (respond : Nat → Request → Answer) (answers : List Answer) :
    Heeds respond [] answers :=
  nofun

theorem heeds_cons_iff
    {respond : Nat → Request → Answer} {request : Request} {requests : List Request}
    {answer : Answer} {answers : List Answer} :
    Heeds respond (request :: requests) (answer :: answers) ↔
      answer = respond 0 request ∧
        Heeds (fun round => respond (round + 1)) requests answers := by
  constructor
  · intro heeds
    exact ⟨heeds 0 request answer rfl rfl,
      fun round other reply asked given => heeds (round + 1) other reply asked given⟩
  · rintro ⟨first, others⟩ round other reply asked given
    cases round with
    | zero =>
      cases asked
      cases given
      exact first
    | succ round => exact others round other reply asked given

/-- Whatever the way a server answers in, there are answers that follow it. -/
theorem exists_heeds
    (request : Nat → Request) (respond : Nat → Request → Answer) (count offset : Nat) :
    ∃ answers : List Answer, answers.length = count ∧
      Heeds respond ((Search.offsets answers offset).map request) answers := by
  induction count generalizing respond offset with
  | zero => exact ⟨[], rfl, fun _ _ _ _ given => nomatch given⟩
  | succ count inductionHypothesis =>
    let answer := respond 0 (request offset)
    -- Behind its last page a search asks for nothing, and the server may have any answers left.
    have lastAnswer (stops : ∀ answers, Search.offsets (answer :: answers) offset = [offset]) :
        ∃ answers : List Answer, answers.length = count + 1 ∧
          Heeds respond ((Search.offsets answers offset).map request) answers := by
      refine ⟨answer :: List.replicate count answer, by simp, ?_⟩
      rw [stops]
      exact heeds_cons_iff.mpr ⟨rfl, heeds_nil _ _⟩
    cases read : Rest.readAnswer Page.decode answer with
    | error failure =>
      exact lastAnswer fun answers => Search.offsets_of_unreadable read answers offset
    | ok page =>
      cases leads : page.next? with
      | none =>
        exact lastAnswer fun answers => Search.offsets_of_last read leads answers offset
      | some next =>
        obtain ⟨answers, length, heeds⟩ :=
          inductionHypothesis (fun round => respond (round + 1)) next
        refine ⟨answer :: answers, by rw [List.length_cons, length], ?_⟩
        rw [Search.offsets_of_next read leads]
        exact heeds_cons_iff.mpr ⟨rfl, heeds⟩

/-! ## Pages -/

theorem Page.total_lt_offsetBound
    {tree : Tree} {page : Page} (ok : Page.decode tree = .ok page) :
    page.total < offsetBound := by
  obtain ⟨fields, _, ok⟩ := Results.bind_eq_ok_iff.mp ok
  obtain ⟨startAt, _, ok⟩ := Results.bind_eq_ok_iff.mp ok
  obtain ⟨total, totalRead, ok⟩ := Results.bind_eq_ok_iff.mp ok
  obtain ⟨issues, _, same⟩ := Results.bind_eq_ok_iff.mp ok
  cases same
  rw [Fields.readOr] at totalRead
  split at totalRead
  · have bounded : total ≤ offsetBound - 1 := Json.isBounded _ _ _ totalRead
    exact Nat.lt_of_le_pred (by decide) bounded
  · cases totalRead
    exact Nat.two_pow_pos 64

/-- A server cannot show more issues than can be counted. -/
theorem Shows.length_lt
    {issues : List FoundIssue} {limit offset : Nat} {answer : Answer}
    (shows : Shows issues limit offset answer) :
    issues.length < Page.offsetBound := by
  obtain ⟨cap, _, read⟩ := shows
  obtain ⟨tree, _, decoded⟩ := Bugzilla.exists_tree_of_readAnswer read
  exact Page.total_lt_offsetBound decoded

/-- A page that a server shows holds the rest of the issues, or it holds some and leads on right
behind them. -/
theorem Shows.page_cases
    {issues : List FoundIssue} {limit offset : Nat} {answer : Answer}
    (shows : Shows issues limit offset answer) (asked : 0 < limit)
    (inside : offset ≤ issues.length) :
    ∃ page, Rest.readAnswer Page.decode answer = .ok page ∧
      (page.next? = none ∧ page.issues = issues.drop offset ∨
        ∃ next, page.next? = some next ∧ next < issues.length ∧ page.issues ≠ [] ∧
          next = offset + page.issues.length ∧
          page.issues ++ issues.drop next = issues.drop offset) := by
  have few := shows.length_lt
  obtain ⟨cap, positive, read⟩ := shows
  let size := min cap limit
  have sizePositive : 0 < size := lt_min positive asked
  let page : Page := ⟨offset, issues.length, (issues.drop offset).take size⟩
  have length : page.issues.length = min size (issues.length - offset) := by
    simp [page]
  have finish : page.finish = offset + page.issues.length :=
    Page.finish_of_lt (by change offset + page.issues.length < _; omega)
  refine ⟨page, read, ?_⟩
  cases leads : page.next? with
  | none =>
    left
    refine ⟨rfl, List.take_of_length_le ?_⟩
    rw [List.length_drop]
    rcases Page.next?_eq_none_iff.mp leads with empty | reached
    · have := List.length_eq_zero_iff.mpr empty
      omega
    · change issues.length ≤ page.finish at reached
      omega
  | some next =>
    right
    obtain ⟨nonempty, below, same⟩ := Page.next?_eq_some_iff.mp leads
    change page.finish < issues.length at below
    have behind : next = offset + size := by omega
    refine ⟨next, rfl, by omega, nonempty, by omega, ?_⟩
    rw [behind, ← List.drop_drop]
    exact List.take_append_drop size (issues.drop offset)

/-! ## Searches that find all -/

namespace Search

/-- Whether a search that reads these answers goes through all issues from an offset on. -/
inductive Covers (issues : List FoundIssue) : List Answer → Nat → Prop
  | last {answer : Answer} {answers : List Answer} {offset : Nat} {page : Page}
      (read : Rest.readAnswer Page.decode answer = .ok page) (stops : page.next? = none)
      (rest : page.issues = issues.drop offset) :
      Covers issues (answer :: answers) offset
  | more {answer : Answer} {answers : List Answer} {offset next : Nat} {page : Page}
      (read : Rest.readAnswer Page.decode answer = .ok page) (leads : page.next? = some next)
      (below : next < issues.length) (nonempty : page.issues ≠ [])
      (splits : page.issues ++ issues.drop next = issues.drop offset)
      (others : Covers issues answers next) :
      Covers issues (answer :: answers) offset

/-- A server that shows the issues and has an answer for each of them is read to the end. -/
theorem covers_of_heeds
    {issues : List FoundIssue} {limit offset : Nat} {request : Nat → Request}
    {respond : Nat → Request → Answer} {answers : List Answer}
    (asked : 0 < limit)
    (shows : ∀ round offset, offset ≤ issues.length →
      Shows issues limit offset (respond round (request offset)))
    (heeds : Heeds respond ((offsets answers offset).map request) answers)
    (inside : offset ≤ issues.length) (enough : max 1 (issues.length - offset) ≤ answers.length) :
    Covers issues answers offset := by
  induction answers generalizing respond offset with
  | nil => simp at enough
  | cons answer answers inductionHypothesis =>
    have first : answer = respond 0 (request offset) := heeds 0 _ _ rfl rfl
    obtain ⟨page, read, here⟩ := (first ▸ shows 0 offset inside).page_cases asked inside
    rcases here with ⟨stops, rest⟩ | ⟨next, leads, below, nonempty, behind, splits⟩
    · exact .last read stops rest
    · rw [offsets_of_next read leads] at heeds
      refine .more read leads below nonempty splits ?_
      refine inductionHypothesis (fun round => shows (round + 1)) (heeds_cons_iff.mp heeds).2
        below.le ?_
      -- This page holds an issue, and so no more are left than there are answers left.
      have := List.length_pos_iff.mpr nonempty
      rw [List.length_cons] at enough
      omega

namespace Covers

variable {issues : List FoundIssue} {answers : List Answer} {offset : Nat}

theorem outcome_run
    (covers : Covers issues answers offset) (request : Nat → Request) (found : List Record) :
    (run request found answers offset).outcome =
      .ok (found ++ (issues.drop offset).map FoundIssue.toRecord) := by
  induction covers generalizing found with
  | last read stops rest => simp [run, read, stops, Page.records, rest]
  | more read leads _ _ splits _ inductionHypothesis =>
    simp [run, read, leads, inductionHypothesis, Page.records, ← splits]

/-- The pages that are read partition the issues. -/
theorem flatMap_issues
    (covers : Covers issues answers offset) :
    ((visits answers offset).flatMap fun visit => visit.page.issues) = issues.drop offset := by
  induction covers with
  | last read stops rest => simp [visits_of_last read stops, rest]
  | more read leads _ _ splits _ inductionHypothesis =>
    rw [visits_of_next read leads, List.flatMap_cons, inductionHypothesis, splits]

/-- Each page begins at the offset that is asked for. -/
theorem prefix_of_mem
    (covers : Covers issues answers offset) :
    ∀ visit ∈ visits answers offset, visit.page.issues <+: issues.drop visit.offset := by
  induction covers with
  | last read stops rest => simp [visits_of_last read stops, rest]
  | more read leads _ _ splits _ inductionHypothesis =>
    rw [visits_of_next read leads, List.forall_mem_cons]
    exact ⟨⟨_, splits⟩, inductionHypothesis⟩

/-- No page is empty where there are issues. -/
theorem nonempty_of_mem
    (covers : Covers issues answers offset) (inside : offset < issues.length) :
    ∀ visit ∈ visits answers offset, visit.page.issues ≠ [] := by
  induction covers with
  | last read stops rest =>
    simpa [visits_of_last read stops, rest, List.drop_eq_nil_iff] using inside
  | more read leads below nonempty _ _ inductionHypothesis =>
    rw [visits_of_next read leads, List.forall_mem_cons]
    exact ⟨nonempty, inductionHypothesis below⟩

/-- Where there are no issues, there is one page. -/
theorem length_of_nil
    (covers : Covers [] answers offset) :
    (visits answers offset).length = 1 := by
  cases covers with
  | last read stops _ => rw [visits_of_last read stops, List.length_singleton]
  | more _ _ below _ _ _ => exact absurd below (Nat.not_lt_zero _)

theorem offsets_eq
    (covers : Covers issues answers offset) :
    offsets answers offset = (visits answers offset).map Visit.offset := by
  induction covers with
  | last read stops _ => simp [offsets_of_last read stops, visits_of_last read stops]
  | more read leads _ _ _ _ inductionHypothesis =>
    rw [offsets_of_next read leads, visits_of_next read leads, inductionHypothesis, List.map_cons]

end Covers

end Search

/-- A server that shows these issues can be found whatever it caps its pages at. A call there
succeeds, with the records of all issues in their order; its requests are for the pages that it reads,
which partition the issues, and for a single one if there are none. -/
theorem paging_is_complete
    {settings : TrackerSettings} {keys : List String} {endpoint : Rest.Endpoint}
    {issues : List FoundIssue} {respond : Nat → Request → Answer}
    (reached : Rest.endpoint settings path = .ok endpoint) (asked : keys ≠ [])
    (shows : ∀ round offset, offset ≤ issues.length →
      Shows issues keys.length offset (respond round (endpoint.request (parameters keys offset)))) :
    let request (offset : Nat) : Request := endpoint.request (parameters keys offset)
    (∃ answers : List Answer, max 1 issues.length ≤ answers.length ∧
      Heeds respond ((Search.offsets answers 0).map request) answers) ∧
    ∀ (network : Network) (server : Server),
      network.find? endpoint.url.origin = some server →
      Heeds respond ((Search.offsets server.answers 0).map request) server.answers →
      max 1 issues.length ≤ server.answers.length →
      ((source settings).fetch keys network).1.outcome = .ok (issues.map FoundIssue.toRecord) ∧
      (∃ after, ((source settings).fetch keys network).2.find? endpoint.url.origin = some after ∧
        after.requests = server.requests ++
          (Search.visits server.answers 0).map fun visit => request visit.offset) ∧
      ((Search.visits server.answers 0).flatMap fun visit => visit.page.issues) = issues ∧
      (∀ visit ∈ Search.visits server.answers 0,
        visit.page.issues <+: issues.drop visit.offset ∧
          (issues ≠ [] → visit.page.issues ≠ [])) ∧
      (issues = [] → (Search.visits server.answers 0).length = 1) := by
  intro request
  refine ⟨?_, fun network server known heeds enough => ?_⟩
  · obtain ⟨answers, length, heeds⟩ := exists_heeds request respond (max 1 issues.length) 0
    exact ⟨answers, length.ge, heeds⟩
  · have covers : Search.Covers issues server.answers 0 :=
      Search.covers_of_heeds (List.length_pos_iff.mpr asked) shows heeds (Nat.zero_le _) enough
    refine ⟨?_, ?_, covers.flatMap_issues, fun visit visited => ?_, ?_⟩
    · simp [fetch_eq reached known, covers.outcome_run, Except.mapError]
    · refine ⟨_, by rw [fetch_eq reached known, SortedMap.find?_insert_self], ?_⟩
      rw [Search.requests_run, covers.offsets_eq, List.map_map]
      rfl
    · refine ⟨covers.prefix_of_mem visit visited, fun some => ?_⟩
      exact covers.nonempty_of_mem (List.length_pos_iff.mpr some) visit visited
    · rintro rfl
      exact covers.length_of_nil

/-! ## A server that shows three issues -/

def threeIssues : List FoundIssue :=
  [{ key := "A" }, { key := "B" }, { key := "C" }]

def threeKeys : List String :=
  threeIssues.map FoundIssue.key

/-- The page with these of the issues. -/
def pageFrom (offset : Nat) (keys : List String) : Answer where
  status := 200
  body := "\x7b\"startAt\":" ++ Text.natText offset ++ ",\"total\":3,\"issues\":[" ++
    ",".intercalate (keys.map fun key => "\x7b\"key\":\"" ++ key ++ "\",\"fields\":\x7b\x7d\x7d") ++
    "]\x7d"

/-- Pages of a server that shows two issues at first and then one at a time. -/
def cappedPage : Nat → Answer
  | 0 => pageFrom 0 ["A", "B"]
  | 1 => pageFrom 1 ["B"]
  | 2 => pageFrom 2 ["C"]
  | _ => pageFrom 3 []

/-- What the server answers to a request, in each round alike. -/
def cappedAnswer (_round : Nat) (request : Request) : Answer :=
  let offset? := (List.range 4).find? fun offset =>
    request == namedEndpoint.request (parameters threeKeys offset)
  offset?.elim .exhausted cappedPage

def cappedServer : Server where
  answers := [cappedPage 0, cappedPage 2, .exhausted]

theorem shows_cappedPage
    {offset : Nat} (inside : offset ≤ threeIssues.length) :
    Shows threeIssues threeKeys.length offset (cappedPage offset) := by
  match offset with
  | 0 => exact ⟨2, by decide, by with_unfolding_all rfl⟩
  | 1 => exact ⟨1, by decide, by with_unfolding_all rfl⟩
  | 2 => exact ⟨1, by decide, by with_unfolding_all rfl⟩
  | 3 => exact ⟨1, by decide, by with_unfolding_all rfl⟩
  | offset + 4 => simp [threeIssues] at inside

theorem paging_is_complete_cappedServer :
    Rest.endpoint namedTracker path = .ok namedEndpoint ∧ threeKeys ≠ [] ∧
      ((source namedTracker).fetch threeKeys
        (SortedMap.empty.insert "http://jira" cappedServer)).1.outcome =
          .ok (threeIssues.map FoundIssue.toRecord) ∧
      Search.offsets cappedServer.answers 0 = [0, 2] := by
  have reached : Rest.endpoint namedTracker path = .ok namedEndpoint := by decide +kernel
  have answers : ∀ offset < 4,
      cappedAnswer 0 (namedEndpoint.request (parameters threeKeys offset)) = cappedPage offset := by
    decide +kernel
  have shows : ∀ round offset, offset ≤ threeIssues.length →
      Shows threeIssues threeKeys.length offset
        (cappedAnswer round (namedEndpoint.request (parameters threeKeys offset))) := by
    intro round offset inside
    rw [show cappedAnswer round = cappedAnswer 0 from rfl, answers offset (Nat.lt_succ_of_le inside)]
    exact shows_cappedPage inside
  have offsets : Search.offsets cappedServer.answers 0 = [0, 2] := by decide +kernel
  have heeds : Heeds cappedAnswer
      ((Search.offsets cappedServer.answers 0).map fun offset =>
        namedEndpoint.request (parameters threeKeys offset)) cappedServer.answers := by
    rw [offsets]
    refine heeds_cons_iff.mpr ⟨(answers 0 (by decide)).symm, ?_⟩
    exact heeds_cons_iff.mpr ⟨(answers 2 (by decide)).symm, heeds_nil _ _⟩
  have asked : threeKeys ≠ [] := by decide
  obtain ⟨outcome, _⟩ := (paging_is_complete reached asked shows).2 _ cappedServer
    (SortedMap.find?_insert_self SortedMap.empty _ cappedServer) heeds (by decide)
  exact ⟨reached, asked, outcome, offsets⟩

end TestGate.Jira
