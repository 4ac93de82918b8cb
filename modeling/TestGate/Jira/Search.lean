import TestGate.Jira
import TestGate.Rest

/-!
Searching issues in Jira. A search is answered page by page: the next page begins behind the last
issue of this one, as the server counts, until a page is empty or reaches the total.
-/

namespace TestGate.Jira

open Http Issue Json Text

/-! ## Requests -/

def path : String := "/rest/api/latest/search"

def requestedFields : String :=
  "summary,status,resolution,fixVersions,issuelinks,created,updated"

def keyQuery (keys : List String) : String :=
  "key in (" ++ ",".intercalate keys ++ ")"

/-- The parameters of the request for a page that begins at an offset. -/
def parameters (keys : List String) (offset : Nat) : List (String × String) :=
  [("jql", keyQuery keys), ("fields", requestedFields), ("startAt", natText offset),
    ("maxResults", natText keys.length)]

/-! ## Pages -/

/-- A page of results. -/
structure Page where
  startAt : Nat := 0
  total : Nat := 0
  issues : List FoundIssue := []

namespace Page

def offsetBound : Nat := Nat.pow 2 64

def decode (tree : Tree) : Except Json.Error Page := do
  let offset := Tree.toNat (offsetBound - 1)
  let fields ← tree.structure ["startAt", "total", "issues"] []
  let startAt ← fields.readOr "startAt" 0 offset
  let total ← fields.readOr "total" 0 offset
  let issues ← fields.readOr "issues" [] (Tree.toList FoundIssue.decode)
  .ok { startAt, total, issues }

def finish (page : Page) : Nat :=
  (page.startAt + page.issues.length) % offsetBound

/-- The offset of the next page, if there is one. -/
def next? (page : Page) : Option Nat :=
  if !page.issues.isEmpty && page.finish < page.total then some page.finish else none

def records (page : Page) : List Record :=
  page.issues.map FoundIssue.toRecord

end Page

/-! ## Searches -/

/-- What a search comes to: its outcome and notices, the requests that were sent, and the answers
that are left. -/
structure Search where
  outcome : Except Rest.Failure (List Record)
  notices : List Notice := []
  requests : List Request := []
  remaining : List Answer := []

namespace Search

/-- What is said when the last page has been read. -/
def closingNotices (total returned : Nat) : List Notice :=
  if returned < total then [.fewerIssues total returned] else []

/-- Reads pages from an offset on, as `answers` give them; `found` holds the records so far. -/
def run (request : Nat → Request) (found : List Record) :
    (answers : List Answer) → (offset : Nat) → Search
  | [], offset => { outcome := .error (.refused .exhausted), requests := [request offset] }
  | answer :: answers, offset =>
    match Rest.readAnswer Page.decode answer with
    | .error failure =>
      { outcome := .error failure, requests := [request offset], remaining := answers }
    | .ok page =>
      let found := found ++ page.records
      match page.next? with
      | none =>
        { outcome := .ok found
          notices := closingNotices page.total found.length
          requests := [request offset]
          remaining := answers }
      | some next =>
        let search := run request found answers next
        { search with
          notices := .nextPage next page.total :: search.notices
          requests := request offset :: search.requests }

end Search

def ask (endpoint : Rest.Endpoint) (keys : List String) (server : Server) : Reply × Server :=
  let request (offset : Nat) : Request := endpoint.request (parameters keys offset)
  let search := Search.run request [] server.answers 0
  ({ outcome := search.outcome.mapError (Rest.Failure.message .jira), notices := search.notices },
    { answers := search.remaining, requests := server.requests ++ search.requests })

def source (settings : TrackerSettings) : IssueSource Network :=
  Rest.source settings .jira path ask

end TestGate.Jira
