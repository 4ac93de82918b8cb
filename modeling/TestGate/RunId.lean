/-!
Identifiers of runs: random bytes in the form of a universally unique identifier of version 4. The
version and the variant take the place of some of the bits.
-/

namespace TestGate.RunId

/-- Two digits in base sixteen. -/
def byteChars (byte : Nat) : List Char :=
  [Nat.digitChar (byte / 16 % 16), Nat.digitChar (byte % 16)]

/-- The lengths in bytes of the parts of an identifier. -/
def partLengths : List Nat := [4, 2, 2, 2, 6]

/-- A byte at its place in an identifier. -/
def stamped (place byte : Nat) : Nat :=
  if place = 6 then 64 + byte % 16
  else if place = 8 then 128 + byte % 64
  else byte

/-- The parts of a row of characters, two for each byte. -/
def parts : List Nat → List Char → List (List Char)
  | [], _ => []
  | length :: lengths, chars => chars.take (2 * length) :: parts lengths (chars.drop (2 * length))

def ofBytes (bytes : List Nat) : String :=
  let chars := (bytes.zipIdx.map fun (byte, place) => byteChars (stamped place byte)).flatten
  String.ofList (['-'].intercalate (parts partLengths chars))

end TestGate.RunId
