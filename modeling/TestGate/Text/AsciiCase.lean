/-!
Texts compared without regard to the case of ASCII letters.
-/

namespace TestGate.Text

/-- Equality up to the case of ASCII letters. -/
def equalIgnoringCase (left right : String) : Bool :=
  left.toList.map Char.toLower == right.toList.map Char.toLower

end TestGate.Text
