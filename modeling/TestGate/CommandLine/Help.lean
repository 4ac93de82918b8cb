import TestGate.CommandLine.Parameter

/-!
The texts that explain the command line. Each has a short form, with one line for each entry;
commands with explained values have a long form too.
-/

namespace TestGate.CommandLine

def programName : String := "issuegate"

def versionText : String := programName ++ " 0.1.0\n"

/-- An entry of a list in a help text. -/
structure Entry where
  label : String
  about : String
  /-- The values that are possible, with what they mean. -/
  values : List (String × String) := []
  default : Option String := none
deriving DecidableEq, Repr

namespace Entry

/-- The default value in brackets. -/
def defaultNote (entry : Entry) : Option String :=
  entry.default.map fun value => "[default: " ++ value ++ "]"

/-- The possible values in brackets. -/
def valuesNote (entry : Entry) : Option String :=
  if entry.values.isEmpty then
    none
  else
    some ("[possible values: " ++ ", ".intercalate (entry.values.map (·.1)) ++ "]")

def padded (width : Nat) (text : String) : String :=
  text ++ String.ofList (List.replicate (width - text.length) ' ')

/-- The line of an entry in a list whose labels have this width. -/
def shortLine (width : Nat) (entry : Entry) : String :=
  let about := " ".intercalate (entry.about :: [entry.defaultNote, entry.valuesNote].reduceOption)
  "  " ++ padded width entry.label ++ "  " ++ about

/-- What stands before each line of a long entry except the first. -/
def indent : String := "          "

def longLines (entry : Entry) : List String :=
  let meaning : String × String → String := fun (value, about) =>
    indent ++ "- " ++ value ++ ": " ++ about
  let values :=
    if entry.values.isEmpty then
      []
    else
      "" :: (indent ++ "Possible values:") :: entry.values.map meaning
  let default :=
    match entry.defaultNote with
    | some note => [indent, indent ++ note]
    | none => []
  ("  " ++ entry.label) :: (indent ++ entry.about) :: values ++ default

end Entry

/-- A list in a help text. -/
structure Section where
  title : String
  entries : List Entry
deriving DecidableEq, Repr

namespace Section

/-- The lines of a list with one line for each entry. -/
def shortLines (list : Section) : List String :=
  let width := (list.entries.map fun entry => entry.label.length).foldl max 0
  (list.title ++ ":") :: list.entries.map (Entry.shortLine width)

/-- The lines of a list whose entries are parted by empty lines. -/
def longLines (list : Section) : List String :=
  (list.title ++ ":") :: [""].intercalate (list.entries.map Entry.longLines)

end Section

namespace Parameter

def about : Parameter → String
  | settingsFile => "Settings file (YAML). Defaults to `$ISSUEGATE_CONFIG` or `./issuegate.yaml`"
  | manifest => "Collection manifest exported by the test runner (JSON or YAML)"
  | bugzillaIds => "Only select items referring to one of these Bugzilla ids"
  | jiraKeys => "Only select items referring to one of these Jira keys"
  | form => "Report format"
  | bugzillaCache => "Use (or create) the Bugzilla cache file"
  | jiraCache => "Use (or create) the Jira cache file"
  | cacheDirectory => "Directory holding `bz_cache.json` and `jr_cache.json`"
  | references => "Issue references such as `BZ:1625783` or `JR:SAT-12345`"

def values : Parameter → List (String × String)
  | form => [("text", "Human-readable lines"), ("json", "Pretty-printed JSON")]
  | _ => []

def default? : Parameter → Option String
  | form => some "text"
  | cacheDirectory => some "."
  | _ => none

/-- The entry of a parameter. Labels of options leave room for a letter. -/
def entry (parameter : Parameter) : Entry where
  label :=
    match parameter.spelling with
    | .operands _ => parameter.label
    | _ => "    " ++ parameter.label
  about := parameter.about
  values := parameter.values
  default := parameter.default?

end Parameter

namespace Scope

def about : Scope → String
  | program => "Skip and deselect tests based on Bugzilla and Jira issue state"
  | collect => "Collect issue references from a test manifest and decide each item's fate"
  | check => "Report whether the given issues are open or obsolete"
  | help => "Print this message or the help of the given subcommand(s)"

/-- How a command line is written, for a program that was called by this name. -/
def usage (program? : Option String) : Scope → String
  | program => program?.getD programName ++ " [OPTIONS] <COMMAND>"
  | collect => behind "collect [OPTIONS] --manifest <PATH>"
  | check => behind "check [OPTIONS] <REF>..."
  | help => behind "help [COMMAND]..."
where
  /-- A command behind the name of the program. -/
  behind (command : String) : String :=
    " ".intercalate (program?.toList ++ [command])

/-- Whether a scope has values that are explained. -/
def hasLongHelp (scope : Scope) : Bool :=
  scope.options.any fun parameter => !parameter.values.isEmpty

def requestAbout (scope : Scope) (long : Bool) : Request → String
  | .version => "Print version"
  | .help =>
    if !scope.hasLongHelp then "Print help"
    else if long then "Print help (see a summary with '-h')"
    else "Print help (see more with '--help')"

def requestEntry (scope : Scope) (long : Bool) (request : Request) : Entry where
  label := "-" ++ String.singleton request.letter ++ ", " ++ request.label
  about := scope.requestAbout long request

def optionSection (scope : Scope) (long : Bool) : Section where
  title := "Options"
  entries :=
    scope.options.map Parameter.entry
      ++ (Request.ofScope scope).map (scope.requestEntry long)

def sections (scope : Scope) (long : Bool) : List Section :=
  match scope with
  | program =>
    [⟨"Commands", [("collect", collect), ("check", check), ("help", help)].map
        fun (name, scope) => { label := name, about := scope.about }⟩,
      scope.optionSection long]
  | collect => [scope.optionSection long]
  | check => [⟨"Arguments", [Parameter.references.entry]⟩, scope.optionSection long]
  | help =>
    [⟨"Arguments", [{ label := "[COMMAND]...", about := "Print help for the subcommand(s)" }]⟩]

/-- The help text of a scope, for a program that was called by the name `program?`. -/
def helpText (scope : Scope) (program? : Option String) (long : Bool) : String :=
  let long := long && scope.hasLongHelp
  let lists := (scope.sections long).map fun list =>
    if long then list.longLines else list.shortLines
  let lines := [""].intercalate ([scope.about] :: ["Usage: " ++ scope.usage program?] :: lists)
  String.join (lines.map (· ++ "\n"))

end Scope

end TestGate.CommandLine
