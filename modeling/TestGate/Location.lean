/-!
Places in a test suite.
-/

namespace TestGate

/-- Where something is defined: a file, a line in it and the name of what stands there. -/
structure Location where
  path : String
  line : Nat
  name : String
deriving DecidableEq, Repr, Inhabited

def Location.largestLine : Nat := Nat.pow 2 32 - 1

end TestGate
