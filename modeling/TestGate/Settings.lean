import TestGate.Failure
import TestGate.Retry
import TestGate.Storage
import TestGate.Version
import TestGate.Yaml.Value

/-!
Settings: from a YAML file, then from environment variables, which count over the file. What a file
leaves out has a default; a tracker that is given without its address has none.
-/

namespace TestGate

/-- The product server that the tests run against. -/
structure ServerSettings where
  version : Option String := none
  hostname : Option String := none
deriving DecidableEq, Repr, Inhabited

/-- Where a tracker is and how to be let in. -/
structure TrackerSettings where
  url : String := ""
  apiKey : Option String := none
deriving DecidableEq, Repr, Inhabited

/-- All settings. -/
structure Settings where
  server : ServerSettings := {}
  bugzilla : TrackerSettings := { url := "https://bugzilla.redhat.com" }
  jira : TrackerSettings := { url := "https://issues.redhat.com" }
  retry : RetryPolicy := {}
  excluded : List String := ["tests/robottelo/"]
deriving DecidableEq, Repr, Inhabited

abbrev Environment := String → Option String

namespace Settings

/-- The settings file that is read when no other is named and it exists. -/
def defaultFile : Path := ⟨"issuegate.yaml"⟩

/-! ## Reading -/

section Reading

variable {τ ε : Type} [Format τ ε]

def largestAttempts : Nat := Nat.pow 2 32 - 1

def longestDelay : Nat := Nat.pow 2 64 - 1

def readServer (value : τ) : Except ε ServerSettings := do
  let fields ← Format.fields ["version", "hostname"] value
  let version ← Format.fieldOr fields "version" none Format.optionalText
  let hostname ← Format.fieldOr fields "hostname" none Format.optionalText
  return { version, hostname }

def readTracker (value : τ) : Except ε TrackerSettings := do
  let fields ← Format.fields ["url", "api_key"] value
  let url ← Format.fieldOr fields "url" "" Format.text
  let apiKey ← Format.fieldOr fields "api_key" none Format.optionalText
  return { url, apiKey }

def readRetry (value : τ) : Except ε RetryPolicy := do
  let fields ← Format.fields ["max_attempts", "fixed_delay_secs"] value
  let standard : RetryPolicy := {}
  let maxAttempts ←
    Format.fieldOr fields "max_attempts" standard.maxAttempts (Format.natural largestAttempts)
  let delay ← Format.fieldOr fields "fixed_delay_secs" standard.delay (Format.natural longestDelay)
  return { maxAttempts, delay }

def readExcluded (value : τ) : Except ε (List String) := do
  let fields ← Format.fields ["exclude_prefixes"] value
  let standard : Settings := {}
  Format.fieldOr fields "exclude_prefixes" standard.excluded (Format.list Format.text)

def read (value : τ) : Except ε Settings := do
  let fields ← Format.fields ["server", "bugzilla", "jira", "retry", "collector"] value
  let standard : Settings := {}
  let server ← Format.fieldOr fields "server" standard.server readServer
  let bugzilla ← Format.fieldOr fields "bugzilla" standard.bugzilla readTracker
  let jira ← Format.fieldOr fields "jira" standard.jira readTracker
  let retry ← Format.fieldOr fields "retry" standard.retry readRetry
  let excluded ← Format.fieldOr fields "collector" standard.excluded readExcluded
  return { server, bugzilla, jira, retry, excluded }

end Reading

def ofYaml (text : String) : Except Yaml.Error Settings :=
  Yaml.Value.ofText text >>= read

/-- The settings with the values of environment variables in place of those that they name. -/
def override (settings : Settings) (environment : Environment) : Settings :=
  { settings with
    server :=
      { version := (environment "ISSUEGATE_SERVER_VERSION").or settings.server.version
        hostname := (environment "ISSUEGATE_SERVER_HOSTNAME").or settings.server.hostname }
    bugzilla :=
      { url := (environment "ISSUEGATE_BUGZILLA_URL").getD settings.bugzilla.url
        apiKey := (environment "ISSUEGATE_BUGZILLA_API_KEY").or settings.bugzilla.apiKey }
    jira :=
      { url := (environment "ISSUEGATE_JIRA_URL").getD settings.jira.url
        apiKey := (environment "ISSUEGATE_JIRA_API_KEY").or settings.jira.apiKey } }

/-! ## Loading -/

section Loading

variable {φ : Type} [Storage φ]

def ofFile (files : φ) (path : Path) : Except Failure Settings :=
  match Storage.read files path with
  | .error message => .error (.configuration ("failed to read " ++ path.text ++ ": " ++ message))
  | .ok text =>
    (ofYaml text).mapError fun error =>
      .configuration ("failed to parse " ++ path.text ++ ": " ++ error.message)

/-- The settings file to read: the one that is named, else the one that the environment names, else
the default one if it exists. -/
def filePath? (files : φ) (path : Option Path) (environment : Environment) : Option Path :=
  (path.or ((environment "ISSUEGATE_CONFIG").map Path.mk)).or
    (if Storage.contains files defaultFile then some defaultFile else none)

def load (files : φ) (path : Option Path) (environment : Environment) :
    Except Failure Settings := do
  let settings ←
    match filePath? files path environment with
    | some path => ofFile files path
    | none => .ok {}
  return settings.override environment

end Loading

/-! ## Values -/

/-- The product version that issues are judged for; zero if none is set. -/
def serverVersion (settings : Settings) : Version :=
  (settings.server.version.bind Version.extract?).getD Version.zero

/-- How failed calls are repeated; there is always one attempt. -/
def retryPolicy (settings : Settings) : RetryPolicy :=
  { settings.retry with maxAttempts := settings.retry.attempts }

def trackerToJson (tracker : TrackerSettings) : Json :=
  .object [("url", .text tracker.url), ("api_key", Json.ofOption .text tracker.apiKey)]

def toJson (settings : Settings) : Json :=
  .object [
    ("server", .object [("version", Json.ofOption .text settings.server.version),
      ("hostname", Json.ofOption .text settings.server.hostname)]),
    ("bugzilla", trackerToJson settings.bugzilla), ("jira", trackerToJson settings.jira),
    ("retry", .object [("max_attempts", Json.ofNat settings.retry.maxAttempts),
      ("fixed_delay_secs", Json.ofNat settings.retry.delay)]),
    ("collector", .object [("exclude_prefixes", Json.ofTexts settings.excluded)])]

end Settings

end TestGate
