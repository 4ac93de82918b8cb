import TestGate.CollectionPass
import TestGate.Directory
import TestGate.DotEnv
import TestGate.LogFilter
import TestGate.TrackerSources

/-!
The program as a whole: from the words of its command line, the environment and the files around it
to what it prints and leaves behind.
-/

namespace TestGate

/-- What is around a run of the program. -/
structure Surroundings where
  files : Directory
  environment : Environment
  network : Http.Network
  occasion : Occasion

/-- What a run of the program leaves behind. -/
structure Ending where
  succeeded : Bool
  /-- What is printed as the result. -/
  output : String := ""
  /-- What is said about a failure. -/
  message : String := ""
  files : Directory
  world : World Http.Network

namespace Surroundings

/-- The end of a run that did not get to a command. -/
def endingWith (surroundings : Surroundings) (succeeded : Bool) (output message : String) :
    Ending where
  succeeded := succeeded
  output := output
  message := message
  files := surroundings.files
  world := ⟨surroundings.network, []⟩

def perform (surroundings : Surroundings) (settings : Settings) (command : Command) : Ending :=
  let conclusion := command.perform settings settings.sources surroundings.occasion
    surroundings.files ⟨surroundings.network, []⟩
  match conclusion.outcome with
  | .ok output =>
    { succeeded := true, output, files := conclusion.files, world := conclusion.world }
  | .error failure =>
    { succeeded := false, message := failure.message
      files := conclusion.files, world := conclusion.world }

/-- Runs the program with the words of a command line. -/
def run (surroundings : Surroundings) (words : List String) : Ending :=
  match Invocation.ofWords words with
  | .error advice =>
    let text := advice.message (CommandLine.calledAs? words)
    if advice.isRequest then surroundings.endingWith true text ""
    else surroundings.endingWith false "" text
  | .ok invocation =>
    match Settings.load surroundings.files invocation.settingsFile surroundings.environment with
    | .error failure => surroundings.endingWith false "" failure.message
    | .ok settings => surroundings.perform settings invocation.command

/-- The file that sets environment variables. -/
def environmentFile : Path := ⟨".env"⟩

def withEnvironmentFile (surroundings : Surroundings) : Surroundings :=
  match surroundings.files.bytes environmentFile with
  | .ok bytes =>
    { surroundings with environment := DotEnv.load bytes surroundings.environment }
  | .error _ => surroundings

end Surroundings

/-! ## What a run looks at -/

/-- The environment variables that a run looks at, those apart that its environment file names. -/
def Surroundings.variables : List String :=
  ["ISSUEGATE_CONFIG", "ISSUEGATE_SERVER_VERSION", "ISSUEGATE_SERVER_HOSTNAME",
    "ISSUEGATE_BUGZILLA_URL", "ISSUEGATE_BUGZILLA_API_KEY", "ISSUEGATE_JIRA_URL",
    "ISSUEGATE_JIRA_API_KEY", "ISSUEGATE_LOG", "ISSUEGATE_LOG_FORMAT"]

def Command.paths : Command → List Path
  | .collect manifest _ _ _ cache =>
    manifest :: cache.requested.map (Cache.filePath cache.directory)
  | .check _ _ cache => cache.requested.map (Cache.filePath cache.directory)

/-- The paths at which a run with these words looks for files. -/
def pathsOf (environment : Environment) (words : List String) : List Path :=
  match Invocation.ofWords words with
  | .error _ => []
  | .ok invocation =>
    invocation.settingsFile.toList ++ ((environment "ISSUEGATE_CONFIG").map Path.mk).toList
      ++ Settings.defaultFile :: invocation.command.paths

/-! ## Logs -/

/-- The notices that the environment lets through. -/
def Ending.shownNotices (ending : Ending) (environment : Environment) : List Notice :=
  (noticesOf ending.world.journal).filter (LogFilter.ofSetting (environment "ISSUEGATE_LOG")).admits

def wantsJsonLog (environment : Environment) : Bool :=
  environment "ISSUEGATE_LOG_FORMAT" == some "json"

def Notice.line (notice : Notice) : String :=
  let valueText : Json → String := fun
    | .text value => value
    | json => json.compact
  let values := notice.values.map fun (name, value) => " " ++ name ++ "=" ++ valueText value
  notice.level.name ++ " " ++ notice.target ++ ": " ++ notice.message ++ String.join values

/-- A notice as a line of a log, said at an instant. -/
def Notice.logLine (inJson : Bool) (now : Timestamp) (notice : Notice) : String :=
  if inJson then
    match notice.toJson with
    | .object members => (Json.object (("timestamp", .text now.toText) :: members)).compact
    | json => json.compact
  else
    now.toText ++ " " ++ notice.line

def Ending.log (ending : Ending) (environment : Environment) (now : Timestamp) : List String :=
  (ending.shownNotices environment).map (Notice.logLine (wantsJsonLog environment) now)

end TestGate
