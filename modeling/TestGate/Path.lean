import TestGate.Text.Blank

/-!
Paths of files. Two paths name the same file when their components agree; a path is shown as it was
given.
-/

namespace TestGate

open Text

/-- A path as it was given. -/
structure Path where
  text : String
deriving DecidableEq, Repr, Inhabited

namespace Path

/-- What a path names: a start at the root or not, and the steps from there. -/
structure Components where
  fromRoot : Bool
  steps : List String
deriving DecidableEq, Repr, Inhabited

/-- The components of a path. Empty steps and steps to the same place do not count, except for one
at the very front. -/
def components (path : Path) : Components :=
  let chars := path.text.toList
  let pieces := splitWhere (· == '/') chars
  let steps := (pieces.filter fun piece => !piece.isEmpty && piece != ['.']).map String.ofList
  let fromRoot := chars.head? == some '/'
  ⟨fromRoot, if !fromRoot && pieces.head? == some ['.'] then "." :: steps else steps⟩

/-- The path of `name` inside a directory. -/
def join (directory : Path) (name : String) : Path :=
  if name.startsWith "/" || directory.text.isEmpty then ⟨name⟩
  else if directory.text.endsWith "/" then ⟨directory.text ++ name⟩
  else ⟨directory.text ++ "/" ++ name⟩

/-- The name of the file, if the path ends in one. -/
def fileName? (path : Path) : Option String :=
  match path.components.steps.getLast? with
  | some name => if name = "." ∨ name = ".." then none else some name
  | none => none

/-- What stands behind the last point of the file name, if something stands before it. -/
def extension? (path : Path) : Option String :=
  path.fileName?.bind fun name =>
    let reversed := name.toList.reverse
    match reversed.dropWhile (· != '.') with
    | _ :: _ :: _ => some (String.ofList (reversed.takeWhile (· != '.')).reverse)
    | _ => none

end Path

end TestGate
