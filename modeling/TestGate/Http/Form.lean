import TestGate.Text.Percent

/-!
The encoding of parameters behind an address: names and values joined by `=`, and pairs of these by
`&`. A space becomes a plus sign.
-/

namespace TestGate.Http

open Text

/-- Whether a character stands for itself in a parameter. -/
def isPlainInForm (c : Char) : Bool :=
  c.isAlphanum || c == '*' || c == '-' || c == '.' || c == '_'

def formText (text : String) : String :=
  let encoded := percentEncode (fun c => isPlainInForm c || c == ' ') text.toList
  String.ofList (encoded.map fun c => if c = ' ' then '+' else c)

def formPairs (pairs : List (String × String)) : String :=
  "&".intercalate (pairs.map fun (name, value) => formText name ++ "=" ++ formText value)

end TestGate.Http
