import TestGate.Issue.Codec

/-!
Why a run fails.
-/

namespace TestGate

/-- The causes of a failure. -/
inductive Failure where
  | malformedMarker (nodeId marker : String)
  | invalidReference (text : String)
  | malformedDuplicateChain (start : String) (chain : List String)
  | cache (path message : String)
  | configuration (message : String)
  | manifest (path message : String)
deriving DecidableEq, Repr, Inhabited

def Failure.message : Failure → String
  | malformedMarker nodeId marker =>
    "test " ++ nodeId ++ " has a `" ++ marker ++ "` marker without an issue reference"
  | invalidReference text => Issue.Reference.refusal text
  | malformedDuplicateChain start chain =>
    "malformed duplicate chain starting at " ++ start ++ ": " ++ " -> ".intercalate chain
  | cache path message => "cache file " ++ path ++ ": " ++ message
  | configuration message => "configuration error: " ++ message
  | manifest path message => "manifest " ++ path ++ ": " ++ message

end TestGate
