import TestGate.Storage

/-!
A directory with all that is in it, as an operating system keeps it. Paths are walked step by step
from the directory; the places outside of it are known to exist only as far as `..` and the root
lead.
-/

namespace TestGate

open Text

/-- What can be at a place. -/
inductive Node where
  | file (bytes : ByteArray)
  | directory
deriving Inhabited

instance : DecidableEq Node
  | .file bytes, .file others =>
    match ByteArray.instDecidableEq bytes others with
    | isTrue same => isTrue (by rw [same])
    | isFalse different => isFalse fun same => different (Node.file.inj same)
  | .directory, .directory => isTrue rfl
  | .file _, .directory | .directory, .file _ => isFalse nofun

/-- Why something cannot be done with a file. -/
inductive FileProblem where
  | missing
  | notDirectory
  | isDirectory
  | exists
  | notText
deriving DecidableEq, Repr

def FileProblem.message : FileProblem → String
  | missing => "No such file or directory (os error 2)"
  | notDirectory => "Not a directory (os error 20)"
  | isDirectory => "Is a directory (os error 21)"
  | .exists => "File exists (os error 17)"
  | notText => "stream did not contain valid UTF-8"

/-- A place, by the steps that lead there: from the root if the first is `/`, else from the
directory. Only its first steps lead up. -/
abbrev Place := List String

namespace Place

def enter (place : Place) (step : String) : Place :=
  if step = "." then place
  else if step = ".." then
    if place.all (· == "..") then place ++ [".."]
    else if place = ["/"] then place
    else place.dropLast
  else place ++ [step]

/-- Whether a place exists whatever the directory holds. -/
def isGiven (place : Place) : Bool :=
  place.all (· == "..") || place == ["/"]

def text (place : Place) : String :=
  match place with
  | "/" :: steps => "/" ++ "/".intercalate steps
  | steps => "/".intercalate steps

end Place

/-- The steps of a path as it was given. A path that ends in a slash leads into a directory. -/
def Path.steps (path : Path) : List String :=
  let pieces := (splitWhere (· == '/') path.text.toList).map String.ofList
  let inside := if pieces.getLast? = some "" then ["."] else []
  pieces.filter (· != "") ++ inside

def Path.start (path : Path) : Place :=
  if path.components.fromRoot then ["/"] else []

/-- A directory: the nodes in it, by the texts of their places. -/
structure Directory where
  nodes : SortedMap String Node := SortedMap.empty
deriving Inhabited

namespace Directory

/-! ## Looking -/

def node? (directory : Directory) (place : Place) : Option Node :=
  if place.isGiven then some .directory else directory.nodes.find? place.text

def isDirectory (directory : Directory) (place : Place) : Bool :=
  directory.node? place == some .directory

/-- Walks from a place. Every place but the last must be a directory. -/
def walk (directory : Directory) : Place → List String → Except FileProblem Place
  | place, [] => .ok place
  | place, step :: steps =>
    match directory.node? place with
    | some .directory => directory.walk (place.enter step) steps
    | some (.file _) => .error .notDirectory
    | none => .error .missing

/-- The place that a path leads to. -/
def placeOf (directory : Directory) (path : Path) : Except FileProblem Place :=
  if path.text = "" then .error .missing else directory.walk path.start path.steps

def bytes (directory : Directory) (path : Path) : Except FileProblem ByteArray := do
  match directory.node? (← directory.placeOf path) with
  | some (.file bytes) => .ok bytes
  | some .directory => .error .isDirectory
  | none => .error .missing

def read (directory : Directory) (path : Path) : Except FileProblem String := do
  match String.fromUTF8? (← directory.bytes path) with
  | some text => .ok text
  | none => .error .notText

def contains (directory : Directory) (path : Path) : Bool :=
  match directory.placeOf path with
  | .ok place => (directory.node? place).isSome
  | .error _ => false

/-! ## Changing -/

def put (directory : Directory) (place : Place) (node : Node) : Directory :=
  { directory with nodes := directory.nodes.insert place.text node }

def makeOne (directory : Directory) (start : Place) (steps : List String) :
    Except FileProblem Directory := do
  let place ← directory.walk start steps
  if (directory.node? place).isSome then .error .exists else .ok (directory.put place .directory)

def leadsToDirectory (directory : Directory) (start : Place) (steps : List String) : Bool :=
  match directory.walk start steps with
  | .ok place => directory.isDirectory place
  | .error _ => false

/-- A directory that was made, or the old one if it is there already. -/
def orPresent
    (directory : Directory) (start : Place) (steps : List String)
    (made : Except FileProblem Directory) :
    Except FileProblem Directory :=
  match made with
  | .ok made => .ok made
  | .error problem =>
    if directory.leadsToDirectory start steps then .ok directory else .error problem

/-- Makes the directory at the end of some steps, given from the last to the first, and all that are
missing on the way. -/
def makeAll (directory : Directory) (start : Place) : List String → Except FileProblem Directory
  | [] => .ok directory
  | step :: before =>
    let steps := (step :: before).reverse
    match directory.makeOne start steps with
    | .error .missing => do
      let directory ← directory.makeAll start before
      directory.orPresent start steps (directory.makeOne start steps)
    | made => directory.orPresent start steps made

/-- Writes a file. Missing directories on the way are made. -/
def write (directory : Directory) (path : Path) (text : String) :
    Except FileProblem Directory := do
  let directory ← directory.makeAll path.start (path.components.steps.dropLast.reverse)
  let place ← directory.placeOf path
  if directory.isDirectory place then .error .isDirectory
  else .ok (directory.put place (.file text.toUTF8))

instance : Storage Directory where
  read directory path := (directory.read path).mapError FileProblem.message
  write directory path text := (directory.write path text).mapError FileProblem.message
  contains := contains

/-- Puts a node at the end of a path, whatever is there, and directories on the way. -/
def place (directory : Directory) (path : Path) (node : Node) : Directory :=
  let steps := path.components.steps
  let way := (List.range steps.length).filterMap fun count =>
    if count = 0 then none else some (path.start ++ steps.take count)
  (way.foldl (fun directory place => directory.put place .directory) directory).put
    (path.start ++ steps) node

/-- A directory that holds some nodes, by their paths. -/
def ofList (nodes : List (Path × Node)) : Directory :=
  nodes.foldl (fun directory (path, node) => directory.place path node) {}

/-- The nodes that have come up since an earlier state, with the texts of their places; a directory
comes before what is in it. -/
def addedTo (later earlier : Directory) : List (String × Node) :=
  later.nodes.entries.filter fun (text, _) => !earlier.nodes.contains text

end Directory

end TestGate
