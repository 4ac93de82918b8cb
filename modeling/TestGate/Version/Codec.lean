import TestGate.Json.Decode
import TestGate.Text.Quoted
import TestGate.Version

/-!
Versions in JSON: texts that hold a version somewhere.
-/

namespace TestGate.Version

open Text

/-- What is said of a text that holds no version. -/
def refusal (text : String) : String :=
  "not a version: " ++ quoted text

/-- Reads the first version inside a text. -/
def decode (tree : Json.Tree) : Except Json.Error Version := do
  let text ← tree.toText
  match extract? text with
  | some version => .ok version
  | none => .error (.unfit (refusal text))

end TestGate.Version
