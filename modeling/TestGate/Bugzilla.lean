import TestGate.Issue.Codec
import TestGate.Rest

/-!
Bugzilla on the web: all bugs are asked for in one request, and the answer lists those that are
known.
-/

namespace TestGate.Bugzilla

open Http Issue

def path : String := "/rest/bug"

/-- The fields that are asked for. Verdicts, clones and the version are never among them. -/
def requestedFields : List String :=
  ["id", "summary", "status", "resolution", "cf_last_closed", "last_change_time", "creation_time",
    "flags", "keywords", "dupe_of", "target_milestone", "cf_clone_of", "clone_ids", "depends_on"]

def idList (ids : List String) : String :=
  ",".intercalate ids

def parameters (ids : List String) : List (String × String) :=
  [("id", idList ids), ("include_fields", ",".intercalate requestedFields)]

def decodeBugs (tree : Json.Tree) : Except Json.Error (List Record) := do
  let fields ← tree.structure ["bugs"] []
  fields.readOr "bugs" [] (Json.Tree.toList Record.decode)

def ask (endpoint : Rest.Endpoint) (ids : List String) (server : Server) : Reply × Server :=
  let (answer, server) := server.get (endpoint.request (parameters ids))
  let outcome := (Rest.readAnswer decodeBugs answer).mapError (Rest.Failure.message .bugzilla)
  ({ outcome := outcome }, server)

def source (settings : TrackerSettings) : IssueSource Network :=
  Rest.source settings .bugzilla path ask

end TestGate.Bugzilla
