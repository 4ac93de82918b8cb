import TestGate.Json.Decode

/-!
What a data format offers to those who read structures from it, so that one reader serves every
format in which a manifest can be written.
-/

namespace TestGate

/-- Ways of reading a value of type `τ`; the errors of the format have type `ε`. -/
class Format (τ : Type) (ε : outParam Type) where
  /-- A text. -/
  text : τ → Except ε String
  /-- A text or the absence of one. -/
  optionalText : τ → Except ε (Option String)
  /-- A natural number up to `largest`. -/
  natural : (largest : Nat) → τ → Except ε Nat
  /-- The items of a list. -/
  items : τ → Except ε (List τ)
  /-- The keys and values of a map; keys may repeat. -/
  pairs : τ → Except ε (List (String × τ))
  /-- The fields of a structure that are among `names`, each at most once. -/
  fields : (names : List String) → τ → Except ε (List (String × τ))
  /-- The error of a structure without the field `name`. -/
  missing : (name : String) → ε

namespace Format

variable {τ ε α : Type} [Format τ ε]

/-- The list whose items are read one after another. -/
def list (read : τ → Except ε α) (value : τ) : Except ε (List α) := do
  (← items value).mapM read

/-- A field that must be there. -/
def field (fields : List (String × τ)) (name : String) (read : τ → Except ε α) : Except ε α :=
  match fields.lookup name with
  | some value => read value
  | none => .error (missing τ name)

/-- A field that has a default. -/
def fieldOr
    (fields : List (String × τ)) (name : String) (default : α) (read : τ → Except ε α) :
    Except ε α :=
  match fields.lookup name with
  | some value => read value
  | none => .ok default

end Format

/-- JSON as a format. -/
instance : Format Json.Tree Json.Error where
  text := Json.Tree.toText
  optionalText := Json.Tree.optional Json.Tree.toText
  natural := Json.Tree.toNat
  items := Json.Tree.toList .ok
  pairs := Json.Tree.toPairs fun key value => .ok (key, value)
  fields names := Json.Tree.structure names []
  missing _ := .shape

end TestGate
