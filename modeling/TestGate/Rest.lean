import TestGate.Http.Form
import TestGate.Http.Server
import TestGate.IssueSource
import TestGate.Settings
import TestGate.Text.Number

/-!
Asking a tracker over the web: where it is asked, with which credentials, and what can go wrong.
-/

namespace TestGate.Rest

open Http Issue Text

/-! ## Failures -/

/-- Why asking a tracker fails. -/
inductive Failure where
  | missingKey
  /-- A request that is not possible or does not get through. -/
  | request (reason : String)
  /-- An answer that does not tell of success. -/
  | refused (answer : Answer)
  /-- An answer that cannot be read. -/
  | unreadable
deriving DecidableEq, Repr

def Failure.message (tracker : Tracker) : Failure → String
  | missingKey => tracker.name ++ " api_key is not configured"
  | request reason => tracker.name ++ " request failed: " ++ reason
  | refused answer =>
    tracker.name ++ " API error (" ++ natText answer.status ++ "): " ++ answer.body
  | unreadable => "Failed to parse " ++ tracker.name ++ " response: error decoding response body"

/-- The body of an answer that tells of success. -/
def bodyOf (answer : Answer) : Except Failure String :=
  if answer.isSuccess then .ok answer.body else .error (.refused answer)

def readAnswer {α : Type} (decode : Json.Decoder α) (answer : Answer) : Except Failure α := do
  (Json.decodeText decode (← bodyOf answer)).mapError fun _ => .unreadable

/-! ## Endpoints -/

/-- Where a tracker is asked, and with which credentials. -/
structure Endpoint where
  url : Url
  authorization : String
deriving DecidableEq, Repr

def Endpoint.request (endpoint : Endpoint) (parameters : List (String × String)) : Request where
  target := (endpoint.url.withParameters (formPairs parameters)).target
  authorization := endpoint.authorization

/-- The address in the settings without slashes at its end. -/
def baseUrl (settings : TrackerSettings) : String :=
  String.ofList (settings.url.toList.reverse.dropWhile (· == '/')).reverse

/-- The key in the settings; an empty one is none. -/
def apiKey? (settings : TrackerSettings) : Option String :=
  settings.apiKey.filter (· != "")

/-- Whether a text may stand in a header: it holds no control characters except tabs. -/
def isHeaderText (text : String) : Bool :=
  text.toList.all fun c => !Url.isControl c || c == '\t'

/-- Where the settings lead for a path. -/
def endpoint (settings : TrackerSettings) (path : String) : Except Failure Endpoint :=
  match apiKey? settings with
  | none => .error .missingKey
  | some key =>
    match Url.parse? (baseUrl settings ++ path) with
    | none => .error (.request "builder error")
    | some url =>
      if isHeaderText key then .ok { url, authorization := "Bearer " ++ key }
      else .error (.request "builder error")

/-! ## Sources -/

/-- A tracker on the web as a source. `ask` carries out a call at an endpoint of its server. -/
def source
    (settings : TrackerSettings) (tracker : Tracker) (path : String)
    (ask : Endpoint → List String → Server → Reply × Server) :
    IssueSource Network where
  hasCredentials := (apiKey? settings).isSome
  fetch ids network :=
    let failed (failure : Failure) : Reply × Network :=
      ({ outcome := .error (failure.message tracker) }, network)
    match endpoint settings path with
    | .error failure => failed failure
    | .ok endpoint =>
      match network.find? endpoint.url.origin with
      | none =>
        failed (.request ("error sending request for url (" ++ endpoint.url.origin
          ++ endpoint.url.target ++ ")"))
      | some server =>
        let (reply, server) := ask endpoint ids server
        (reply, network.insert endpoint.url.origin server)

end TestGate.Rest
