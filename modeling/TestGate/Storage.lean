import TestGate.Path
import TestGate.SortedMap

/-!
Files as a run sees them: an interface for reading and writing, and a store in memory that provides
it.
-/

namespace TestGate

/-- Ways of reading and writing the files held by a value of type `φ`. -/
class Storage (φ : Type) where
  /-- The text of a file, or what is said of a file that cannot be read. -/
  read : φ → Path → Except String String
  /-- The files after writing, or what is said of a file that cannot be written. -/
  write : φ → Path → String → Except String φ
  /-- Whether a path names anything. -/
  contains : φ → Path → Bool

/-- Files in memory, by what their paths name. -/
structure FileStore where
  files : SortedMap String String := SortedMap.empty
  readOnly : Bool := false
deriving Inhabited

namespace FileStore

/-- The text under which the file of a path is kept; paths that name one file have the same. -/
def key (path : Path) : String :=
  let components := path.components
  (if components.fromRoot then "/" else "") ++ "/".intercalate components.steps

/-- A store that holds these files; of two that name one file the later counts. -/
def ofList (files : List (Path × String)) (readOnly : Bool) : FileStore where
  files := SortedMap.ofList (files.map fun (path, text) => (key path, text))
  readOnly := readOnly

def text? (store : FileStore) (path : Path) : Option String :=
  store.files.find? (key path)

def read (store : FileStore) (path : Path) : Except String String :=
  match store.text? path with
  | some text => .ok text
  | none => .error ("No such file: " ++ path.text)

/-- Writes a file, unless the store is read-only. -/
def write (store : FileStore) (path : Path) (text : String) : Except String FileStore :=
  if store.readOnly then
    .error "read-only filesystem"
  else
    .ok { store with files := store.files.insert (key path) text }

instance : Storage FileStore where
  read := read
  write := write
  contains store path := (store.text? path).isSome

end FileStore

end TestGate
