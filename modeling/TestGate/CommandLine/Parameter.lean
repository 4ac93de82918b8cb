/-!
What can be given on a command line: the commands, their options and operands, and how these are
spelled.
-/

namespace TestGate.CommandLine

/-- What a part of a command line belongs to: the program as a whole or one of its commands. -/
inductive Scope where
  | program
  | collect
  | check
  | help
deriving DecidableEq, Repr, Inhabited

def Scope.ofName? : String → Option Scope
  | "collect" => some .collect
  | "check" => some .check
  | "help" => some .help
  | _ => none

/-- An option, or the operands of a command. -/
inductive Parameter where
  | settingsFile
  | manifest
  | bugzillaIds
  | jiraKeys
  | form
  | bugzillaCache
  | jiraCache
  | cacheDirectory
  | references
deriving DecidableEq, Repr, Inhabited

/-- How a parameter is spelled. -/
inductive Spelling where
  /-- An option that takes a value; `value` stands for it in messages. -/
  | option (name value : String)
  /-- An option without a value. -/
  | flag (name : String)
  /-- Words without a name. -/
  | operands (value : String)
deriving DecidableEq, Repr

namespace Spelling

def label : Spelling → String
  | option name value => "--" ++ name ++ " <" ++ value ++ ">"
  | flag name => "--" ++ name
  | operands value => "<" ++ value ++ ">..."

def isNamed (spelling : Spelling) (name : String) : Bool :=
  match spelling with
  | option own _ | flag own => own == name
  | operands _ => false

end Spelling

namespace Parameter

def spelling : Parameter → Spelling
  | settingsFile => .option "config" "PATH"
  | manifest => .option "manifest" "PATH"
  | bugzillaIds => .option "BZ" "IDS"
  | jiraKeys => .option "JR" "KEYS"
  | form => .option "format" "FORMAT"
  | bugzillaCache => .flag "bz-cache"
  | jiraCache => .flag "jr-cache"
  | cacheDirectory => .option "cache-dir" "DIR"
  | references => .operands "REF"

def label (parameter : Parameter) : String :=
  parameter.spelling.label

/-- Whether a parameter is an option that takes a value. -/
def takesValue (parameter : Parameter) : Bool :=
  match parameter.spelling with
  | .option .. => true
  | _ => false

end Parameter

namespace Scope

/-- The options of a scope, in the order in which they are listed. -/
def options : Scope → List Parameter
  | program => [.settingsFile]
  | collect =>
    [.settingsFile, .manifest, .bugzillaIds, .jiraKeys, .form, .bugzillaCache, .jiraCache,
      .cacheDirectory]
  | check => [.settingsFile, .form, .bugzillaCache, .jiraCache, .cacheDirectory]
  | help => []

def option? (scope : Scope) (name : String) : Option Parameter :=
  scope.options.find? fun parameter => parameter.spelling.isNamed name

end Scope

/-- A request for a text instead of work. -/
inductive Request where
  | help
  | version
deriving DecidableEq, Repr, Inhabited

namespace Request

def name : Request → String
  | help => "help"
  | version => "version"

def letter : Request → Char
  | help => 'h'
  | version => 'V'

def ofScope : Scope → List Request
  | .program => [help, version]
  | _ => [help]

def label (request : Request) : String :=
  (Spelling.flag request.name).label

end Request

end TestGate.CommandLine
