import TestGate.Http.Url
import TestGate.SortedMap

/-!
Servers with prepared answers. A server gives its answers one after another, whatever is asked, and
keeps the requests; behind its last answer it only reports that there are no more.
-/

namespace TestGate.Http

/-- A request for what an address names. -/
structure Request where
  /-- The path and the query that are asked for. -/
  target : String
  /-- The value of the header that carries the credentials. -/
  authorization : String
deriving DecidableEq, Repr, Inhabited

/-- An answer to a request. -/
structure Answer where
  status : Nat
  body : String
deriving DecidableEq, Repr, Inhabited

namespace Answer

def isSuccess (answer : Answer) : Bool :=
  200 ≤ answer.status && answer.status < 300

/-- What a server says when it has no more answers. -/
def exhausted : Answer where
  status := 500
  body := "script exhausted"

end Answer

/-- A server. -/
structure Server where
  /-- The answers to the next requests. -/
  answers : List Answer
  /-- The requests so far. -/
  requests : List Request := []
deriving DecidableEq, Repr, Inhabited

def Server.get (server : Server) (request : Request) : Answer × Server :=
  let requests := server.requests ++ [request]
  match server.answers with
  | [] => (.exhausted, { server with requests })
  | answer :: answers => (answer, { answers, requests })

/-- The servers that can be reached, by origin. -/
abbrev Network := SortedMap String Server

end TestGate.Http
