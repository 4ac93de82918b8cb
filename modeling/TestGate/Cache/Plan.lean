import TestGate.Cache
import TestGate.Failure
import TestGate.Notice
import TestGate.Storage

/-!
Which cache files a run uses. A file that exists when the run is planned is read and never written;
a file that does not is written when the run has succeeded. Issue data in a file for another
version is used, but its verdicts are not.
-/

namespace TestGate.Cache

open Issue

/-- The cache files that were asked for, and which of them existed. -/
structure Plan where
  directory : Path
  requested : List Tracker
  existing : List Tracker
deriving DecidableEq, Repr

namespace Plan

variable {φ : Type} [Storage φ]

/-- Plans for these trackers, looking for their files. -/
def make (files : φ) (directory : Path) (requested : List Tracker) : Plan where
  directory := directory
  requested := requested
  existing := requested.filter fun tracker => Storage.contains files (filePath directory tracker)

def isEmpty (plan : Plan) : Bool :=
  plan.requested.isEmpty

end Plan

variable {φ : Type} [Storage φ]

def load (files : φ) (path : Path) : Except Failure File :=
  match Storage.read files path with
  | .error message => .error (.cache path.text message)
  | .ok text => (parse text).mapError fun error => .cache path.text error.message

/-- The index of a file as a server at `version` may use it. -/
def File.usableIndex (file : File) (version : Version) : Index :=
  if file.matchesVersion version then file.index else file.index.forgetVerdicts

namespace Plan

/-- Puts what the file of one tracker holds over what has been read before. -/
def loadOne (plan : Plan) (files : φ) (version : Version) (loaded : Index) (tracker : Tracker) :
    Except Failure Index :=
  if plan.existing.contains tracker then do
    let file ← Cache.load files (filePath plan.directory tracker)
    return loaded.insertAll (file.usableIndex version)
  else
    .ok loaded

/-- Reads all requested files that existed; what a later file holds counts over an earlier one. -/
def load (plan : Plan) (files : φ) (version : Version) : Except Failure Index :=
  plan.requested.foldlM (plan.loadOne files version) SortedMap.empty

/-- The notices on the file of one tracker; `none` means that it cannot be read. -/
def noticesOf (plan : Plan) (files : φ) (version : Version) (tracker : Tracker) :
    Option (List Notice) :=
  let path := filePath plan.directory tracker
  if plan.existing.contains tracker then
    match Cache.load files path with
    | .error _ => none
    | .ok file =>
      let outdated :=
        if file.matchesVersion version then
          []
        else
          [Notice.cacheOutdated path.text
            ((file.runMeta.map RunMeta.version).getD "unknown") version.toText]
      some (outdated ++ [.cacheUsed path.text file.index.size])
  else
    some [.cacheMissing path.text]

/-- The notices on reading, up to a file that cannot be read. -/
def loadNotices (plan : Plan) (files : φ) (version : Version) : List Notice :=
  ((plan.requested.map (plan.noticesOf files version)).takeWhile Option.isSome).reduceOption.flatten

def pending (plan : Plan) : List Path :=
  (plan.requested.filter fun tracker => !plan.existing.contains tracker).map
    (filePath plan.directory)

/-- What writing leaves behind: the files, the paths written so far, and a failure if one came up.
-/
structure Stored (φ : Type) where
  files : φ
  written : List Path
  failure : Option Failure

/-- Writes one text to several files, up to the first that cannot be written. -/
def writeAll (text : String) (files : φ) : List Path → Stored φ
  | [] => ⟨files, [], none⟩
  | path :: paths =>
    match Storage.write files path text with
    | .error message => ⟨files, [], some (.cache path.text message)⟩
    | .ok files =>
      let stored := writeAll text files paths
      { stored with written := path :: stored.written }

/-- Writes the index to all requested files that did not exist. -/
def store (plan : Plan) (files : φ) (index : Index) (runMeta : RunMeta) : Stored φ :=
  writeAll (render index runMeta) files plan.pending

def Stored.notices (stored : Stored φ) (index : Index) : List Notice :=
  stored.written.map fun path => .cacheWritten path.text index.size

end Plan

end TestGate.Cache
