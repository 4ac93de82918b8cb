import TestGate.CommandLine.Help
import TestGate.Issue.Codec
import TestGate.Path

/-!
The command line: words are read one after another into an invocation of the program. The values of
a parameter are examined only when the next parameter begins or the words end, so a word that is
not known is noticed before a bad value in front of it. A command ends the words of the program
itself; it is read to its end before the last value in front of it is examined.
-/

namespace TestGate

open Issue

/-- The form of a report. -/
inductive ReportForm where
  | text
  | json
deriving DecidableEq, Repr, Inhabited

/-- The cache files that a run is to use. -/
structure CacheChoice where
  requested : List Tracker := []
  directory : Path := ⟨"."⟩
deriving DecidableEq, Repr, Inhabited

/-- A command with all that it needs. -/
inductive Command where
  /-- Decide the fate of the tests in a manifest. -/
  | collect
      (manifest : Path) (bugzillaIds jiraKeys : Option (List String)) (form : ReportForm)
      (cache : CacheChoice)
  /-- Report on some issues. -/
  | check (issues : List Reference) (form : ReportForm) (cache : CacheChoice)
deriving DecidableEq, Repr

/-- What the words of a command line ask for. -/
structure Invocation where
  command : Command
  settingsFile : Option Path := none
deriving DecidableEq, Repr

/-- Why words are no invocation: they ask for a text, or there is something wrong with them. -/
inductive Advice where
  | help (scope : CommandLine.Scope) (long : Bool)
  | version
  | nothingGiven
  | missingCommand
  | unknownCommand (name : String)
  | unexpectedWord (word : String)
  | missingValue (parameter : CommandLine.Parameter)
  | needlessValue (label value : String)
  | impossibleValue (parameter : CommandLine.Parameter) (value : String)
  | malformedValue (parameter : CommandLine.Parameter) (value reason : String)
  | repeatedOption (parameter : CommandLine.Parameter)
  | missingParameter
deriving DecidableEq, Repr

namespace CommandLine

/-! ## Words -/

/-- What a word is by its looks. -/
inductive Word where
  /-- The word behind which all words are operands. -/
  | separator
  | long (name : String) (value : Option String)
  /-- One or more letters, of which only the first counts. -/
  | short (letter : Char)
  | plain
deriving DecidableEq, Repr

def Word.ofText (text : String) : Word :=
  match text.toList with
  | ['-', '-'] => .separator
  | '-' :: '-' :: rest =>
    match rest.span (· != '=') with
    | (name, _ :: value) => .long (String.ofList name) (some (String.ofList value))
    | (name, []) => .long (String.ofList name) none
  | '-' :: letter :: _ => .short letter
  | _ => .plain

/-! ## Values -/

/-- The values that have been accepted so far. -/
structure Given where
  settingsFile : Option Path := none
  manifest : Option Path := none
  bugzillaIds : Option (List String) := none
  jiraKeys : Option (List String) := none
  form : Option ReportForm := none
  bugzillaCache : Bool := false
  jiraCache : Bool := false
  cacheDirectory : Option Path := none
  references : List Reference := []
deriving DecidableEq, Repr, Inhabited

/-- The value of an option that may be given once and must not be empty. -/
def singleValue (parameter : Parameter) (isGiven : Bool) (values : List String) :
    Except Advice String :=
  match values with
  | [] => .error (.missingValue parameter)
  | value :: _ =>
    if isGiven then .error (.repeatedOption parameter)
    else if value = "" then .error (.missingValue parameter)
    else .ok value

def singlePath (parameter : Parameter) (given : Option Path) (values : List String) :
    Except Advice (Option Path) := do
  return some ⟨← singleValue parameter given.isSome values⟩

/-- The values of an option that may be repeated; commas part the values. -/
def separatedValues (parameter : Parameter) (given : Option (List String)) (values : List String) :
    Except Advice (Option (List String)) :=
  if values.isEmpty then
    .error (.missingValue parameter)
  else
    .ok (some (given.getD [] ++ values.flatMap fun value => value.splitOn ","))

/-- Notes a flag that may be given once. -/
def raiseFlag (parameter : Parameter) (given : Bool) : Except Advice Bool :=
  if given then .error (.repeatedOption parameter) else .ok true

def readForm (value : String) : Except Advice ReportForm :=
  match value with
  | "text" => .ok .text
  | "json" => .ok .json
  | _ => .error (.impossibleValue .form value)

def readReference (value : String) : Except Advice Reference :=
  match Reference.parse? value with
  | some issue => .ok issue
  | none => .error (.malformedValue .references value (Reference.refusal value))

def Given.accept (given : Given) (parameter : Parameter) (values : List String) :
    Except Advice Given := do
  match parameter with
  | .settingsFile =>
    return { given with settingsFile := ← singlePath parameter given.settingsFile values }
  | .manifest => return { given with manifest := ← singlePath parameter given.manifest values }
  | .bugzillaIds =>
    return { given with bugzillaIds := ← separatedValues parameter given.bugzillaIds values }
  | .jiraKeys => return { given with jiraKeys := ← separatedValues parameter given.jiraKeys values }
  | .form =>
    return { given with form := ← readForm (← singleValue parameter given.form.isSome values) }
  | .bugzillaCache =>
    return { given with bugzillaCache := ← raiseFlag parameter given.bugzillaCache }
  | .jiraCache => return { given with jiraCache := ← raiseFlag parameter given.jiraCache }
  | .cacheDirectory =>
    return { given with cacheDirectory := ← singlePath parameter given.cacheDirectory values }
  | .references =>
    return { given with references := given.references ++ (← values.mapM readReference) }

/-! ## Reading -/

/-- How far reading has come. -/
structure Progress where
  given : Given := {}
  /-- The last parameter, whose values have not been examined. -/
  pending : Option (Parameter × List String) := none
  /-- Whether all words that follow are operands. -/
  operandsOnly : Bool := false
deriving DecidableEq, Repr, Inhabited

namespace Progress

def settle (progress : Progress) : Except Advice Progress :=
  match progress.pending with
  | none => .ok progress
  | some (parameter, values) => do
    return { progress with given := ← progress.given.accept parameter values, pending := none }

/-- Whether the next plain word is the value of an option. -/
def awaitsValue (progress : Progress) : Bool :=
  match progress.pending with
  | some (parameter, []) => parameter.takesValue
  | _ => false

def addValue (progress : Progress) (value : String) : Progress :=
  { progress with
    pending := progress.pending.map fun (parameter, values) => (parameter, values ++ [value]) }

def takeOperand (scope : Scope) (progress : Progress) (word : String) : Except Advice Progress :=
  match scope with
  | .check =>
    match progress.pending with
    | some (.references, _) => .ok (progress.addValue word)
    | _ => do return { ← progress.settle with pending := some (.references, [word]) }
  | .program =>
    if progress.operandsOnly && (Scope.ofName? word).isSome then
      .error (.unexpectedWord word)
    else
      .error (.unknownCommand word)
  | _ => .error (.unexpectedWord word)

def takeRequest (scope : Scope) (progress : Progress) (request : Request) (long : Bool) :
    Except Advice Progress := do
  let _ ← progress.settle
  match request with
  | .help => throw (.help scope long)
  | .version => throw .version

/-- Takes an option of the scope, with the value that is attached to it if there is one. -/
def takeOption (progress : Progress) (option : Parameter) (value : Option String) :
    Except Advice Progress :=
  match option.takesValue, value with
  | true, none => do return { ← progress.settle with pending := some (option, []) }
  | false, some value => .error (.needlessValue option.label value)
  | _, _ => do
    let progress ← progress.settle
    return { progress with given := ← progress.given.accept option value.toList }

def takeLong (scope : Scope) (progress : Progress) (name : String) (value : Option String) :
    Except Advice Progress :=
  match (Request.ofScope scope).find? fun request => request.name == name with
  | some request =>
    match value with
    | some value => .error (.needlessValue request.label value)
    | none => progress.takeRequest scope request true
  | none =>
    match scope.option? name with
    | some option => progress.takeOption option value
    | none => .error (.unexpectedWord ("--" ++ name))

def takeShort (scope : Scope) (progress : Progress) (letter : Char) : Except Advice Progress :=
  match (Request.ofScope scope).find? fun request => request.letter == letter with
  | some request => progress.takeRequest scope request false
  | none => .error (.unexpectedWord ("-" ++ String.singleton letter))

def take (scope : Scope) (progress : Progress) (word : String) : Except Advice Progress :=
  if progress.operandsOnly then
    progress.takeOperand scope word
  else
    match Word.ofText word with
    | .separator => .ok { progress with operandsOnly := true }
    | .long name value => progress.takeLong scope name value
    | .short letter => progress.takeShort scope letter
    | .plain =>
      if progress.awaitsValue then .ok (progress.addValue word)
      else progress.takeOperand scope word

end Progress

def Given.cache (given : Given) : CacheChoice :=
  let standard : CacheChoice := {}
  { requested :=
      (if given.bugzillaCache then [.bugzilla] else []) ++ (if given.jiraCache then [.jira] else [])
    directory := given.cacheDirectory.getD standard.directory }

def readValues (scope : Scope) (words : List String) : Except Advice Given := do
  let progress ← words.foldlM (fun progress word => progress.take scope word) ({} : Progress)
  return (← progress.settle).given

def readCollect (words : List String) : Except Advice Invocation := do
  let given ← readValues .collect words
  match given.manifest with
  | some manifest =>
    return {
      command :=
        .collect manifest given.bugzillaIds given.jiraKeys (given.form.getD .text) given.cache
      settingsFile := given.settingsFile }
  | none => throw .missingParameter

def readCheck (words : List String) : Except Advice Invocation := do
  let given ← readValues .check words
  if given.references.isEmpty then
    throw .missingParameter
  return {
    command := .check given.references (given.form.getD .text) given.cache
    settingsFile := given.settingsFile }

/-- The text that the words behind the help command ask for. -/
def readHelp : List String → Advice
  | [] => .help .program true
  | word :: words =>
    match Scope.ofName? word, words with
    | none, _ => .unknownCommand word
    | some scope, [] => .help scope true
    | some _, next :: _ => .unknownCommand next

def readCommand (scope : Scope) (words : List String) : Except Advice Invocation :=
  match scope with
  | .collect => readCollect words
  | .check => readCheck words
  | .program | .help => .error (readHelp words)

def Progress.command? (progress : Progress) (word : String) : Option Scope :=
  if progress.operandsOnly || progress.awaitsValue then none else Scope.ofName? word

/-- Reads words of the program. A settings file behind the command counts over one before it. -/
def readProgram (progress : Progress) : List String → Except Advice Invocation
  | [] => do
    let progress ← progress.settle
    throw (if progress.given.settingsFile.isSome then .missingCommand else .nothingGiven)
  | word :: words =>
    match progress.command? word with
    | some scope => do
      let invocation ← readCommand scope words
      let progress ← progress.settle
      return { invocation with
        settingsFile := invocation.settingsFile.or progress.given.settingsFile }
    | none => do readProgram (← progress.take .program word) words

/-- The name by which the program was called, if the first word tells it. -/
def calledAs? (words : List String) : Option String :=
  words.head?.bind fun word => (Path.mk word).fileName?

end CommandLine

/-- Reads the words of a command line, of which the first names the program. -/
def Invocation.ofWords (words : List String) : Except Advice Invocation :=
  CommandLine.readProgram {} (words.drop 1)

namespace Advice

def isRequest : Advice → Bool
  | help .. | version => true
  | _ => false

/-- What is said to a user who called the program by the name `program?`. -/
def message (program? : Option String) : Advice → String
  | help scope long => scope.helpText program? long
  | version => CommandLine.versionText
  | nothingGiven => CommandLine.Scope.helpText .program program? false
  | missingCommand =>
    "error: '" ++ program?.getD CommandLine.programName
      ++ "' requires a subcommand but one was not provided"
  | unknownCommand name => "error: unrecognized subcommand '" ++ name ++ "'"
  | unexpectedWord word => "error: unexpected argument '" ++ word ++ "' found"
  | missingValue parameter =>
    "error: a value is required for '" ++ parameter.label ++ "' but none was supplied"
  | needlessValue label value =>
    "error: unexpected value '" ++ value ++ "' for '" ++ label ++ "' found; no more were expected"
  | impossibleValue parameter value =>
    "error: invalid value '" ++ value ++ "' for '" ++ parameter.label ++ "'"
  | malformedValue parameter value reason =>
    "error: invalid value '" ++ value ++ "' for '" ++ parameter.label ++ "': " ++ reason
  | repeatedOption parameter =>
    "error: the argument '" ++ parameter.label ++ "' cannot be used multiple times"
  | missingParameter => "error: the following required arguments were not provided:"

end Advice

end TestGate
