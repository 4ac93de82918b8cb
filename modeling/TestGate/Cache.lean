import TestGate.Issue.Codec
import TestGate.Json.Printer
import TestGate.Path
import TestGate.Timestamp
import TestGate.Version

/-!
Cache files: an index as it was resolved, with a note on the run that wrote it. The note stands
under a key of its own, which is no issue. A file without a readable note is still a cache, though
for no version.
-/

namespace TestGate.Cache

open Issue

def metaKey : String := "_meta"

def fileName : Tracker → String
  | .bugzilla => "bz_cache.json"
  | .jira => "jr_cache.json"

def filePath (directory : Path) (tracker : Tracker) : Path :=
  directory.join (fileName tracker)

/-- What is noted about the run that wrote a cache file. -/
structure RunMeta where
  version : String
  hostname : Option String := none
  created : Timestamp
  runId : String
  args : List String := []
  workingDirectory : String := ""
deriving DecidableEq, Repr, Inhabited

def RunMeta.toJson (runMeta : RunMeta) : Json :=
  .object [("version", .text runMeta.version),
    ("hostname", Json.ofOption .text runMeta.hostname),
    ("created", .text runMeta.created.toText), ("run_id", .text runMeta.runId),
    ("args", Json.ofTexts runMeta.args), ("pwd", .text runMeta.workingDirectory)]

def decodeTimestamp (tree : Json.Tree) : Except Json.Error Timestamp := do
  match Timestamp.parse? (← tree.toText) with
  | some timestamp => .ok timestamp
  | none => .error .shape

def RunMeta.decode (tree : Json.Tree) : Except Json.Error RunMeta := do
  let fields ← tree.structure ["version", "hostname", "created", "run_id", "args", "pwd"] []
  let version ← fields.read "version" Json.Tree.toText
  let hostname ← fields.readOr "hostname" none (Json.Tree.optional Json.Tree.toText)
  let created ← fields.read "created" decodeTimestamp
  let runId ← fields.read "run_id" Json.Tree.toText
  let args ← fields.readOr "args" [] (Json.Tree.toList Json.Tree.toText)
  let workingDirectory ← fields.readOr "pwd" "" Json.Tree.toText
  .ok { version, hostname, created, runId, args, workingDirectory }

/-- What a cache file holds. -/
structure File where
  index : Index
  runMeta : Option RunMeta
deriving BEq

/-- Whether the file was written for a version equivalent to this one. -/
def File.matchesVersion (file : File) (version : Version) : Bool :=
  (file.runMeta.bind fun runMeta => Version.extract? runMeta.version).any
    fun written => written.equivalent version

/-- The members of an object, or an error. -/
def membersOf : Json → Except Json.Error (List (String × Json))
  | .object members => .ok members
  | _ => .error .shape

def ofMembers (members : List (String × Json)) : Except Json.Error File := do
  let runMeta := (members.lookup metaKey).bind fun json =>
    (Json.decodeValue RunMeta.decode json).toOption
  let issues := members.filter fun member => member.1 != metaKey
  let index ← Json.decodeValue Index.decode (.object issues)
  .ok { index, runMeta }

def parse (text : String) : Except Json.Error File := do
  let json ← Json.decodeText (fun tree => do
    match tree with
    | .object _ => tree.toJson
    | tree => .error tree.objection) text
  ofMembers (← membersOf json)

def toJson (index : Index) (runMeta : RunMeta) : Json :=
  Json.ofMembers
    ((index.entries.map fun (issue, entry) => (issue.toText, entry.toJson.sorted))
      ++ [(metaKey, runMeta.toJson.sorted)])

/-- The text of a cache file: its content line by line, indented by four blanks a level. -/
def render (index : Index) (runMeta : RunMeta) : String :=
  (toJson index runMeta).render (.lines 4) ++ "\n"

end TestGate.Cache
